/-!
A layout as it is written: structs by name, each with fields of its own or a reference to a
definition. Nothing here keeps a struct from having both or neither.

The order in which a mapping is written means nothing, so a source is put in order before it is
used. A sequence of field names keeps its order.
-/

namespace Palette.Layout

mutual

inductive Struct where
  | mk (fields : Fields) (ref : Option String)

inductive Fields where
  | absent
  /-- Colors alone, in the order given. -/
  | names (names : List String)
  | members (members : Members)

/-- Members by name; one without content is a color. -/
inductive Members where
  | nil
  | cons (name : String) (content : Option Struct) (rest : Members)

end

structure Source where
  definitions : List (String × Struct)
  layout : List (String × Struct)

def Members.insert (name : String) (content : Option Struct) : Members → Members
  | .nil => .cons name content .nil
  | .cons first inner rest =>
      if name ≤ first then .cons name content (.cons first inner rest)
      else .cons first inner (rest.insert name content)

mutual

def Struct.sorted : Struct → Struct
  | .mk fields ref => .mk fields.sorted ref

def Fields.sorted : Fields → Fields
  | .absent => .absent
  | .names names => .names names
  | .members members => .members members.sorted

def Members.sorted : Members → Members
  | .nil => .nil
  | .cons name none rest => rest.sorted.insert name none
  | .cons name (some struct) rest => rest.sorted.insert name (some struct.sorted)

end

def sortedEntries (entries : List (String × Struct)) : List (String × Struct) :=
  (entries.map fun entry => (entry.1, entry.2.sorted)).mergeSort fun a b => a.1 ≤ b.1

def Source.sorted (source : Source) : Source :=
  ⟨sortedEntries source.definitions, sortedEntries source.layout⟩

end Palette.Layout
