import Palette.Matcher.Dialect

/-!
What a decision answers for a byte string, apart from any language it may be written in.
-/

namespace Palette.Matcher

open KeyTrie

def Test.holds (data : Key) : Test → Bool
  | .sizeIs length => data.length = length
  | .byteIs position byte => data[position]? = some byte
  | .rangeIs position bytes => (data.drop position).take bytes.length = bytes

mutual

def Decision.run (data : Key) : Decision → Option Int
  | .done => none
  | .stuck _ => none
  | .whenSize least body => if least ≤ data.length then body.run data else none
  | .whenRange position bytes body =>
      if (Test.rangeIs position bytes).holds data then body.run data else none
  | .answerWhen tests value next =>
      if tests.all (Test.holds data) then some value else next.run data
  | .switch position cases => cases.run data data[position]?

def Cases.run (data : Key) (byte : Option UInt8) : Cases → Option Int
  | .done => none
  | .stuck _ => none
  | .case label body next => if byte = some label then body.run data else next.run data byte

end

def lookup (tree : Node Int) (data : Key) : Int := ((Decision.ofTrie tree).run data).getD notFound

end Palette.Matcher
