import Palette.KeyTrie.Node

/-!
Insertion into a key trie. The tree is taken apart where the new key leaves it and put together
around the new key; runs left without bytes vanish, so no run is ever empty.
-/

namespace Palette.KeyTrie

variable {α : Type}

/-- `rest` behind a run, or `rest` itself when the run would be empty. -/
def Node.behind (stem : Key) (minSize : Int) (rest : Node α) : Node α :=
  if stem.isEmpty then rest else .run stem minSize rest

def Node.fork (minSize : Int) (b : UInt8) (child : Node α) (c : UInt8) (other : Node α) : Node α :=
  .fanout minSize (Edges.nil.put b.toNat child |>.put c.toNat other)

mutual

/-- Inserts below a node at which `rest` of the whole key `key` is still to be matched. -/
def Node.insertBelow (key : Key) (value : α) : Node α → Key → Node α
  | .hole, rest | .empty, rest => .leaf rest key value
  | .leaf suffix stored old, rest =>
      let minSize := min (stored.length : Int) key.length
      match overlap suffix rest with
      | ⟨shared, s :: suffixRest, r :: keyRest⟩ =>
          .behind shared minSize
            (.fork minSize s (.leaf suffixRest stored old) r (.leaf keyRest key value))
      | ⟨shared, [], r :: keyRest⟩ =>
          .behind shared minSize (.inline stored old (.leaf (r :: keyRest) key value))
      | ⟨shared, s :: suffixRest, []⟩ =>
          .behind shared minSize (.inline key value (.leaf (s :: suffixRest) stored old))
      | ⟨_, [], []⟩ => .leaf suffix stored value
  | .inline stored old below, rest =>
      match rest with
      | [] => .inline stored value below
      | r :: keyRest => .inline stored old (below.insertBelow key value (r :: keyRest))
  | .run stem minSize below, rest =>
      let least := min minSize key.length
      match overlap stem rest with
      | ⟨shared, s :: stemRest, r :: keyRest⟩ =>
          .behind shared least
            (.fork least s (.behind stemRest minSize below) r (.leaf keyRest key value))
      | ⟨_, [], r :: keyRest⟩ => .run stem least (below.insertBelow key value (r :: keyRest))
      | ⟨shared, s :: stemRest, []⟩ =>
          .behind shared least (.inline key value (.run (s :: stemRest) minSize below))
      | ⟨_, [], []⟩ =>
          match below with
          | .inline stored _ deeper => .run stem minSize (.inline stored value deeper)
          | _ => .run stem least (.inline key value below)
  | .fanout minSize edges, rest =>
      match rest with
      | [] => .inline key value (.fanout minSize edges)
      | r :: keyRest =>
          .fanout (min minSize key.length) (edges.insertBelow key value r keyRest)

def Edges.insertBelow (key : Key) (value : α) : Edges α → UInt8 → Key → Edges α
  | .nil, b, rest => .cons b.toNat (.leaf rest key value) .nil
  | .cons label child others, b, rest =>
      if b.toNat = label then .cons label (child.insertBelow key value rest) others
      else if b.toNat < label then
        .cons b.toNat (.leaf rest key value) (.cons label child others)
      else .cons label child (others.insertBelow key value b rest)

end

def Node.insert (tree : Node α) (key : Key) (value : α) : Node α := tree.insertBelow key value key

/-- Inserts the pairs in order, so of two equal keys the later one gives the value. -/
def Node.ofList (pairs : List (Key × α)) : Node α :=
  pairs.foldl (fun tree pair => tree.insert pair.1 pair.2) .empty

end Palette.KeyTrie
