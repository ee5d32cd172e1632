/-!
How a key lies over the bytes stored at a node. Both are cut after their common start; which of the
two rests is empty says how they relate.
-/

namespace Palette.KeyTrie

abbrev Key := List UInt8

inductive Relation where
  | diverge
  | keyLonger
  | keyShorter
  | equal
  deriving DecidableEq, Repr

structure Overlap where
  shared : Key
  storedRest : Key
  keyRest : Key
  deriving DecidableEq, Repr

def overlap : Key → Key → Overlap
  | s :: stored, k :: key =>
      if s = k then
        let inner := overlap stored key
        { inner with shared := s :: inner.shared }
      else ⟨[], s :: stored, k :: key⟩
  | stored, key => ⟨[], stored, key⟩

def Overlap.relation (o : Overlap) : Relation :=
  match o.storedRest, o.keyRest with
  | [], [] => .equal
  | [], _ :: _ => .keyLonger
  | _ :: _, [] => .keyShorter
  | _ :: _, _ :: _ => .diverge

end Palette.KeyTrie
