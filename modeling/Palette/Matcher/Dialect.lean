import Palette.Matcher.Decision
import Palette.Printer

/-!
Writing a decision as source text. A dialect is the wording of the few statement forms that a
decision uses; a form that a dialect lacks is a fault where it would be needed.
-/

namespace Palette.Matcher

open KeyTrie Printer

structure Dialect where
  /-- Name under which the dialect reports its work. -/
  title : String
  sizeAtLeast : Int → String
  sizeIs : Nat → String
  byteIs : Nat → UInt8 → String
  rangeIs : Nat → Key → String
  conjunction : String
  /-- Opening line of a statement under a condition. -/
  conditional : String → String
  /-- Closing line of such a statement, if it has one. -/
  closing : Option String
  /-- The statement that answers a value under a condition. -/
  answerWhen : String → String → Program Fault
  answer : String → String
  switchOpening : Nat → List String
  /-- Opening line of a case, by position, byte and number of the case. -/
  caseOpening : Option (Nat → UInt8 → Nat → String)
  caseClosing : List String
  switchClosing : List String
  signature : Option String
  prologue : List String
  epilogue : List String

namespace Dialect

def test (d : Dialect) : Test → String
  | .sizeIs length => d.sizeIs length
  | .byteIs position byte => d.byteIs position byte
  | .rangeIs position bytes => d.rangeIs position bytes

def tests (d : Dialect) (all : List Test) : String :=
  d.conjunction.intercalate (all.map d.test)

def nested (d : Dialect) (opening : String) (body : Program Fault) : Program Fault :=
  [.line opening, .indent] ++ body ++ .dedent :: d.closing.toList.map .line

end Dialect

mutual

def Decision.print (d : Dialect) : Decision → Program Fault
  | .done => []
  | .stuck fault => [.fail fault]
  | .whenSize least body => d.nested (d.sizeAtLeast least) (body.print d)
  | .whenRange position bytes body =>
      d.nested (d.conditional (d.rangeIs position bytes)) (body.print d)
  | .answerWhen tests value next =>
      d.answerWhen (d.tests tests) (toString value) ++ next.print d
  | .switch position cases =>
      (d.switchOpening position).map .line ++ cases.print d position 0

def Cases.print (d : Dialect) (position index : Nat) : Cases → Program Fault
  | .done => d.switchClosing.map .line
  | .stuck fault => [.fail fault]
  | .case byte body next =>
      match d.caseOpening with
      | none => [.fail .unsupported]
      | some opening =>
          [.line (opening position byte index), .indent] ++ body.print d ++
            .dedent :: d.caseClosing.map .line ++ next.print d position (index + 1)

end

/-- What a lookup answers for a byte string that is no key. -/
def notFound : Int := -1

namespace Dialect

def body (d : Dialect) (tree : Node Int) : Program Fault :=
  (Decision.ofTrie tree).print d ++ [.line (d.answer (toString notFound))]

def function (d : Dialect) (tree : Node Int) : Program Fault :=
  match d.signature with
  | none => [.fail .unsupported]
  | some signature =>
      [.line signature, .indent] ++ d.prologue.map .line ++ d.body tree ++
        .dedent :: d.epilogue.map .line

end Dialect

end Palette.Matcher
