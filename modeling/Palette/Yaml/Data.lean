import Palette.Yaml.Value

/-!
The values of a whole document. They are found level by level from the root: a collection is known
to be one when it is met, and its members are read after all collections that were met before it.
Every node is read once, so what happens to it later does not change its value. Of several nodes
that denote nothing the one that is read first is reported.
-/

namespace Palette.Yaml

/-- Adds an entry; an equal key keeps its place and takes the new value. -/
def putEntry {β : Type} (key : Scalar) (value : β) : List (Scalar × β) → List (Scalar × β)
  | [] => [(key, value)]
  | (first, old) :: rest =>
      if first.sameKey key then (first, value) :: rest
      else (first, old) :: putEntry key value rest

inductive Progress where
  | unread
  /-- A collection that was met. -/
  | met
  | known (value : Value)

structure Draft extends Document where
  progress : Array Progress
  /-- How many rounds merging may take. -/
  rounds : Nat
  /-- Collections that were met and whose members were not read, the latest first. -/
  waiting : List NodeId := []

namespace Draft

def progressAt (s : Draft) (id : NodeId) : Progress := s.progress.getD id .unread

def note (s : Draft) (id : NodeId) (p : Progress) : Draft :=
  { s with progress := s.progress.setIfInBounds id p }

def read (s : Draft) (id : NodeId) : Except Error Draft :=
  match s.progressAt id with
  | .unread =>
      if (s.kind id).isCollection then .ok { s.note id .met with waiting := id :: s.waiting }
      else do return s.note id (.known (.scalar (← s.scalarAt id)))
  | _ => .ok s

def readKey (s : Draft) (id : NodeId) : Except Error (Scalar × Draft) := do
  let s ← s.read id
  match s.progressAt id with
  | .known (.scalar key) => return (key, s)
  | _ => malformed

def readEntries (s : Draft) (id : NodeId) : Except Error (List (Scalar × NodeId) × Draft) := do
  let d ← s.toDocument.mergeAt s.rounds id
  let step (state : List (Scalar × NodeId) × Draft) (entry : NodeId × NodeId) := do
    let (key, s) ← state.2.readKey entry.1
    let s ← s.read entry.2
    return (putEntry key entry.2 state.1, s)
  (d.entries id).foldlM step ([], { s with toDocument := d })

def readPairs (s : Draft) (items : List NodeId) : Except Error Draft :=
  items.foldlM (fun s item =>
    match s.node item with
    | .mapping _ [(key, value)] => do (← s.read key).read value
    | _ => malformed) s

def readMembers (s : Draft) (id : NodeId) : Except Error Draft := do
  match s.kind id, s.node id with
  | .sequence, .sequence _ items =>
      return (← items.foldlM read s).note id (.known (.sequence items))
  | .mapping, _ =>
      let (entries, s) ← s.readEntries id
      return s.note id (.known (.mapping entries))
  | .set, _ =>
      let (entries, s) ← s.readEntries id
      return s.note id (.known (.set (entries.map (·.1))))
  | .pairs, .sequence _ items =>
      return (← s.readPairs items).note id (.known (.pairs items.length))
  | _, _ => malformed

/-- Reads the members of collections, those of the collections met on the way, and so on. -/
def readLevels : Nat → Draft → Except Error Draft
  | 0, s => .ok s
  | fuel + 1, s =>
      match s.waiting.reverse with
      | [] => .ok s
      | level => do readLevels fuel (← level.foldlM readMembers { s with waiting := [] })

end Draft

structure Data where
  values : Array Value
  root : NodeId

namespace Data

def value (data : Data) (id : NodeId) : Value := data.values.getD id (.scalar .null)

def ofDocument (d : Document) : Except Error Data := do
  let start : Draft :=
    { d with progress := Array.replicate d.nodes.size .unread, rounds := d.mergeRounds }
  let s ← (← start.read d.root).readLevels (d.nodes.size + 1)
  let values := s.progress.map fun
    | .known value => value
    | _ => .scalar .null
  return ⟨values, d.root⟩

def ofText (text : String) : Except Error (Option Data) := do
  (← Document.ofText text).mapM ofDocument

end Data

end Palette.Yaml
