import Palette.Yaml.Document
import Palette.Yaml.Scalar

/-!
What a node of a document is. A tag decides, whatever the node looks like; without one its form
decides, and the text of a plain scalar.
-/

namespace Palette.Yaml

inductive Value where
  | scalar (value : Scalar)
  | sequence (items : List NodeId)
  | mapping (entries : List (Scalar × NodeId))
  | set (members : List Scalar)
  /-- Pairs of a key and a value, of which the number is known. -/
  | pairs (count : Nat)

def malformed {α : Type} : Except Error α := .error (.unreadable .value)

def Node.kind : Node → Kind
  | .scalar (some tag) _ _ | .sequence (some tag) _ | .mapping (some tag) _ => Kind.ofTag tag
  | .scalar none plain text => if plain then Kind.ofPlain text else .text
  | .sequence none _ => .sequence
  | .mapping none _ => .mapping

def Node.withTag (tag : String) : Node → Node
  | .scalar _ plain text => .scalar (some tag) plain text
  | .sequence _ items => .sequence (some tag) items
  | .mapping _ entries => .mapping (some tag) entries

namespace Document

def kind (d : Document) (id : NodeId) : Kind := (d.node id).kind

def entries (d : Document) (id : NodeId) : List (NodeId × NodeId) :=
  match d.node id with
  | .mapping _ entries => entries
  | _ => []

def withNode (d : Document) (id : NodeId) (node : Node) : Document :=
  { d with nodes := d.nodes.setIfInBounds id node }

def withEntries (d : Document) (id : NodeId) (entries : List (NodeId × NodeId)) : Document :=
  match d.node id with
  | .mapping tag _ => d.withNode id (.mapping tag entries)
  | _ => d

/-- The text of a node where a scalar is wanted. A mapping has the one of its stand-in entry. -/
def scalarText (d : Document) : Nat → NodeId → Except Error String
  | 0, _ => malformed
  | fuel + 1, id =>
      match d.node id with
      | .scalar _ _ text => .ok text
      | .mapping _ entries =>
          match entries.find? fun entry => d.kind entry.1 = .standIn with
          | some entry => scalarText d fuel entry.2
          | none => malformed
      | .sequence _ _ => malformed

def scalarAt (d : Document) (id : NodeId) : Except Error Scalar :=
  match d.kind id with
  | .merge | .standIn | .other | .sequence | .mapping | .set | .pairs => malformed
  | kind => d.scalarText (d.nodes.size + 1) id >>= Scalar.ofText kind

/-- Puts the entries of merged mappings in front of those of a mapping, and makes the mark of a
stand-in among its keys a text. `index` of its entries are done, and `merged` are those to put in
front. A mapping that is merged changes likewise, and for good. -/
def merge : Nat → NodeId → (index : Nat) → (merged : List (NodeId × NodeId)) → Document →
    Except Error Document
  | 0, _, _, _, _ => malformed
  | fuel + 1, id, index, merged, d =>
      match (d.entries id)[index]? with
      | none => .ok (d.withEntries id (merged ++ d.entries id))
      | some (key, value) =>
          match d.kind key with
          | .merge => do
              let d := d.withEntries id ((d.entries id).eraseIdx index)
              match d.node value with
              | .mapping _ _ =>
                  let d ← merge fuel value 0 [] d
                  merge fuel id index (merged ++ d.entries value) d
              | .sequence _ items =>
                  let step (state : List (NodeId × NodeId) × Document) (item : NodeId) := do
                    match state.2.node item with
                    | .mapping _ _ =>
                        let d ← merge fuel item 0 [] state.2
                        return (d.entries item ++ state.1, d)
                    | _ => malformed
                  let (more, d) ← items.foldlM step ([], d)
                  merge fuel id index (merged ++ more) d
              | .scalar _ _ _ => malformed
          | .standIn =>
              merge fuel id (index + 1) merged
                (d.withNode key ((d.node key).withTag "tag:yaml.org,2002:str"))
          | _ => merge fuel id (index + 1) merged d

def size (d : Document) : Nat :=
  d.nodes.foldl (fun n node => n + (match node with
    | .mapping _ entries => entries.length + 1
    | .sequence _ items => items.length + 1
    | .scalar _ _ _ => 1)) 1

/-- More rounds than merging takes: a mapping has the entries of what it merges as often as it merges
it, so every level may multiply them. -/
def mergeRounds (d : Document) : Nat := Nat.pow 2 (2 * d.size)

def mergeAt (d : Document) (rounds : Nat) (id : NodeId) : Except Error Document :=
  match d.node id with
  | .mapping _ _ => merge rounds id 0 [] d
  | _ => malformed

end Document

end Palette.Yaml
