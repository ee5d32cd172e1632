import Palette.KeyTrie.Overlap

/-!
A key trie: a compressed prefix tree over byte keys, shaped so that it reads as a chain of length
checks, comparisons and byte switches. After inserting `apple`, `applejuice` and `applepie` the root
is a run `apple`, below it an inline end of `apple`, below that a fanout on `j` and `p` with the
leaves `uice` and `ie`.

Every node that is not the root stores whole keys where keys end, so the entries of a tree need no
path. A `hole` stands where a tree that was not built by insertion has no node.
-/

namespace Palette.KeyTrie

mutual

inductive Node (α : Type) where
  | hole
  /-- No key at all. -/
  | empty
  /-- Exactly one key remains; `suffix` is its part that is not yet matched. -/
  | leaf (suffix key : Key) (value : α)
  /-- A key ends here and longer ones go on in `rest`. -/
  | inline (key : Key) (value : α) (rest : Node α)
  /-- All keys below go on with `stem`. -/
  | run (stem : Key) (minSize : Int) (rest : Node α)
  /-- The keys below differ in their next byte. -/
  | fanout (minSize : Int) (edges : Edges α)
  deriving DecidableEq

/-- The branches of a fanout by their byte, in ascending order. -/
inductive Edges (α : Type) where
  | nil
  | cons (label : Int) (child : Node α) (rest : Edges α)
  deriving DecidableEq

end

variable {α : Type}

def Node.minSize : Node α → Int
  | .hole | .empty => 0
  | .leaf _ key _ | .inline key _ _ => key.length
  | .run _ minSize _ | .fanout minSize _ => minSize

mutual

/-- Number of nodes; neither an empty tree nor a hole counts. -/
def Node.count : Node α → Nat
  | .hole | .empty => 0
  | .leaf _ _ _ => 1
  | .inline _ _ rest => 1 + rest.count
  | .run _ _ rest => 1 + rest.count
  | .fanout _ edges => 1 + edges.count

def Edges.count : Edges α → Nat
  | .nil => 0
  | .cons _ child rest => child.count + rest.count

end

mutual

def Node.entries : Node α → List (Key × α)
  | .hole | .empty => []
  | .leaf _ key value => [(key, value)]
  | .inline key value rest => (key, value) :: rest.entries
  | .run _ _ rest => rest.entries
  | .fanout _ edges => edges.entries

def Edges.entries : Edges α → List (Key × α)
  | .nil => []
  | .cons _ child rest => child.entries ++ rest.entries

end

mutual

def Node.get? : Node α → Key → Option α
  | .hole, _ | .empty, _ => none
  | .leaf suffix _ value, key => if key = suffix then some value else none
  | .inline _ value rest, key => if key.isEmpty then some value else rest.get? key
  | .run stem _ rest, key =>
      match stem.isPrefixOf? key with
      | some below => rest.get? below
      | none => none
  | .fanout _ edges, key =>
      match key with
      | [] => none
      | b :: below => edges.get? b below

def Edges.get? : Edges α → UInt8 → Key → Option α
  | .nil, _, _ => none
  | .cons label child rest, b, below =>
      if label = b.toNat then child.get? below else rest.get? b below

end

def Edges.put (label : Int) (child : Node α) : Edges α → Edges α
  | .nil => .cons label child .nil
  | .cons first old rest =>
      if label = first then .cons first child rest
      else if label < first then .cons label child (.cons first old rest)
      else .cons first old (rest.put label child)

end Palette.KeyTrie
