import Palette.Layout.Item

/-!
A layout with its references expanded and its colors numbered, depth first from zero. A definition
refers only to earlier ones, so the expansions are built from the first definition on.
-/

namespace Palette.Layout

inductive Shape where
  | field (name : String)
  | struct (name : String) (fields : List Shape)

inductive FlatItem where
  | field (name : String) (id : Nat)
  | struct (name : String) (fields : List FlatItem)

structure FlatStruct where
  name : String
  fields : List FlatItem

abbrev Shapes := List (String × List Shape)

mutual

/-- The expansion of an item; the error is the name of a definition that is not there. -/
def Item.expand (known : Shapes) : Item → Except String Shape
  | .field name => .ok (.field name)
  | .ref name referenced _ =>
      match known.lookup referenced with
      | some fields => .ok (.struct name fields)
      | none => .error referenced
  | .struct name fields _ => (expandAll known fields).map (.struct name)

def expandAll (known : Shapes) : List Item → Except String (List Shape)
  | [] => .ok []
  | item :: rest => do
      let shape ← item.expand known
      return shape :: (← expandAll known rest)

end

def shapesOf (definitions : Definitions) : Except String Shapes :=
  definitions.foldlM (fun known entry => do
    return known ++ [(entry.1, ← expandAll known entry.2.fields)]) []

mutual

/-- Numbers the colors of a shape from `next` on, and gives the first number left. -/
def Shape.number (next : Nat) : Shape → FlatItem × Nat
  | .field name => (.field name next, next + 1)
  | .struct name fields =>
      let (items, stop) := numberAll next fields
      (.struct name items, stop)

def numberAll (next : Nat) : List Shape → List FlatItem × Nat
  | [] => ([], next)
  | shape :: rest =>
      let (item, middle) := shape.number next
      let (items, stop) := numberAll middle rest
      (item :: items, stop)

end

def numberStructs (next : Nat) : List (String × List Shape) → List FlatStruct
  | [] => []
  | (name, fields) :: rest =>
      let (items, stop) := numberAll next fields
      ⟨name, items⟩ :: numberStructs stop rest

def flatten (layout : Layout) : Except String (List FlatStruct) := do
  let known ← shapesOf layout.definitions
  let shapes ← layout.items.mapM fun item => do return (item.1, ← expandAll known item.2)
  return numberStructs 0 shapes

end Palette.Layout
