/-!
A resolved layout: definitions that structs refer to, and the structs of the theme class. Each item
knows how many colors it holds.
-/

namespace Palette.Layout

inductive Item where
  | field (name : String)
  | ref (name referenced : String) (count : Nat)
  | struct (name : String) (fields : List Item) (count : Nat)

def Item.count : Item → Nat
  | .field _ => 1
  | .ref _ _ count => count
  | .struct _ _ count => count

def countAll (items : List Item) : Nat := (items.map Item.count).foldr (· + ·) 0

structure Definition where
  fields : List Item
  count : Nat

/-- Definitions in the order in which they were resolved. -/
abbrev Definitions := List (String × Definition)

end Palette.Layout

namespace Palette

structure Layout where
  definitions : Layout.Definitions
  items : List (String × List Layout.Item)

namespace Layout

def count (layout : Layout) : Nat :=
  (layout.items.map fun item => countAll item.2).foldr (· + ·) 0

end Layout

end Palette
