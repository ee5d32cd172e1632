import Palette.Layout.Item
import Palette.Layout.Schema

/-!
Resolving a source. References are followed when they are met, so a definition comes after all that
it refers to; a reference to a definition that is still being resolved closes a cycle. A text that
is no YAML, or no layout source, fails before any reference is followed.
-/

namespace Palette.Layout

inductive Part where
  | definition
  | layout
  deriving DecidableEq, Repr

inductive Error where
  | refNotFound (name : String)
  | refAndFields (name : String)
  | emptyStruct (name : String)
  | notStruct (part : Part) (name : String)
  | cyclicRef (name : String)
  deriving DecidableEq, Repr

def Part.title : Part → String
  | .definition => "Definition"
  | .layout => "Layout"

def Error.message : Error → String
  | .refNotFound name => s!"Couldn't find definition for '{name}'"
  | .refAndFields name => s!"Found struct with both 'ref' and 'fields' in {name}"
  | .emptyStruct name => s!"Found struct with neither 'ref' nor 'fields' in {name}"
  | .notStruct part name => s!"{part.title} of {name} isn't a struct"
  | .cyclicRef name => s!"Definition of '{name}' references itself"

/-- How a reference is followed: it gives the definition and all definitions resolved by then. -/
abbrev Follow := String → Definitions → Except Error (Definition × Definitions)

mutual

def Struct.convert (follow : Follow) (name : String) :
    Struct → Definitions → Except Error (Item × Definitions)
  | .mk .absent none, _ => .error (.emptyStruct name)
  | .mk .absent (some target), known => do
      let (definition, known) ← follow target known
      return (.ref name target definition.count, known)
  | .mk (.names _) (some _), _ => .error (.refAndFields name)
  | .mk (.members _) (some _), _ => .error (.refAndFields name)
  | .mk (.names names) none, known => .ok (.struct name (names.map .field) names.length, known)
  | .mk (.members members) none, known => do
      let (items, known) ← members.convert follow known
      return (.struct name items (countAll items), known)

def Members.convert (follow : Follow) :
    Members → Definitions → Except Error (List Item × Definitions)
  | .nil, known => .ok ([], known)
  | .cons name none rest, known => do
      let (items, known) ← rest.convert follow known
      return (.field name :: items, known)
  | .cons name (some struct) rest, known => do
      let (item, known) ← struct.convert follow name known
      let (items, known) ← rest.convert follow known
      return (item :: items, known)

end

/-- Resolves a definition while those in `pending` are under way. The first argument bounds how many
can be. -/
def resolve (definitions : List (String × Struct)) : Nat → List String → Follow
  | 0, _, name, _ => .error (.cyclicRef name)
  | depth + 1, pending, name, known =>
      match known.lookup name, definitions.lookup name with
      | some definition, _ => .ok (definition, known)
      | none, none => .error (.refNotFound name)
      | none, some struct =>
          if pending.contains name then .error (.cyclicRef name)
          else do
            match ← struct.convert (resolve definitions depth (name :: pending)) name known with
            | (.struct _ fields count, known) =>
                return (⟨fields, count⟩, known ++ [(name, ⟨fields, count⟩)])
            | _ => .error (.notStruct .definition name)

def Source.follow (source : Source) : Follow :=
  resolve source.definitions (source.definitions.length + 1) []

/-- Resolves all definitions, used or not. -/
def Source.definitionsOf (source : Source) : Except Error Definitions :=
  source.definitions.foldlM (fun known entry => (source.follow entry.1 known).map (·.2)) []

def Source.itemsOf (source : Source) (known : Definitions) :
    Except Error (List (String × List Item)) :=
  source.layout.mapM fun entry => do
    match ← entry.2.convert source.follow entry.1 known with
    | (.struct _ fields _, _) => return (entry.1, fields)
    | _ => .error (.notStruct .layout entry.1)

def ofSource (source : Source) : Except Error Layout := do
  let ordered := source.sorted
  let definitions ← ordered.definitionsOf
  return ⟨definitions, ← ordered.itemsOf definitions⟩

inductive Failure where
  | yaml (error : Yaml.Error)
  | schema (violations : List Violation)
  | layout (error : Error)

def Failure.message : Failure → String
  | .yaml (.unreadable problem) => "Deserialization error: " ++ problem.message
  | .yaml error => error.message
  | .schema violations =>
      "Deserialization error: " ++ "; ".intercalate (violations.map Violation.message)
  | .layout error => error.message

def parse (text : String) : Except Failure Layout := do
  let data ← (Yaml.Data.ofText text).mapError .yaml
  let source ← (Source.ofData data).mapError .schema
  (ofSource source).mapError .layout

end Palette.Layout
