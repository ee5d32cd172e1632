import Palette.KeyTrie.Node

/-!
The lookup function of a key trie, before it is written in any language. The walk keeps two
numbers: `position`, the bytes already known to match, and `known`, the largest length an enclosing
check has established; a length check stands only where a node needs more than `known`.

A tree that was not built by insertion may be malformed. The decision is then stuck at that place
and everything before it is as usual.
-/

namespace Palette.Matcher

open KeyTrie

inductive Fault where
  | hole
  | emptyRun
  | noBranches
  | badByte (label : Int)
  /-- The dialect has no way to write this. -/
  | unsupported
  deriving DecidableEq, Repr

inductive Test where
  | sizeIs (length : Nat)
  | byteIs (position : Nat) (byte : UInt8)
  | rangeIs (position : Nat) (bytes : Key)
  deriving DecidableEq, Repr

mutual

inductive Decision where
  /-- No key is left; control goes on behind the enclosing statement. -/
  | done
  | stuck (fault : Fault)
  | whenSize (least : Int) (body : Decision)
  | whenRange (position : Nat) (bytes : Key) (body : Decision)
  /-- Answers `value` when all tests hold, otherwise goes on. -/
  | answerWhen (tests : List Test) (value : Int) (next : Decision)
  | switch (position : Nat) (cases : Cases)

inductive Cases where
  | done
  | stuck (fault : Fault)
  | case (byte : UInt8) (body : Decision) (next : Cases)

end

/-- The test that what remains of a key follows; one byte is compared as a byte. -/
def suffixTests (position : Nat) : Key → List Test
  | [] => []
  | [b] => [.byteIs position b]
  | suffix => [.rangeIs position suffix]

def Decision.guarded (known least : Int) (body : Decision) : Decision :=
  if least > known then .whenSize least body else body

mutual

def lower (position : Nat) (known : Int) : Node Int → Decision
  | .hole => .stuck .hole
  | .empty => .done
  | .leaf suffix key value =>
      .guarded known key.length
        (.answerWhen (.sizeIs key.length :: suffixTests position suffix) value .done)
  | .inline key value rest =>
      .guarded known key.length
        (.answerWhen [.sizeIs key.length] value (lower position (max known key.length) rest))
  | .run stem least rest =>
      .guarded known least
        (if stem.isEmpty then .stuck .emptyRun
        else .whenRange position stem (lower (position + stem.length) (max known least) rest))
  | .fanout least edges =>
      .guarded known least
        (match edges with
        | .nil => .stuck .noBranches
        | .cons label child rest =>
            .switch position
              (lowerEdges (position + 1) (max known least) (.cons label child rest)))

def lowerEdges (position : Nat) (known : Int) : Edges Int → Cases
  | .nil => .done
  | .cons label child rest =>
      if 0 ≤ label ∧ label ≤ 255 then
        .case (UInt8.ofNat label.toNat) (lower position known child)
          (lowerEdges position known rest)
      else .stuck (.badByte label)

end

def Decision.ofTrie (tree : Node Int) : Decision := lower 0 0 tree

def Fault.message : Fault → String
  | .hole => "not a key trie node: None"
  | .emptyRun => "run with an empty prefix"
  | .noBranches => "fanout without branches"
  | .badByte label => s!"bad fanout byte {label}"
  | .unsupported => ""

end Palette.Matcher
