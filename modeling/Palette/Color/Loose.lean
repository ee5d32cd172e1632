import Palette.Color.Rgba
import Palette.Decimal.Binary
import Palette.Decimal.Read

/-!
Colors from loosely typed channels: whole numbers may be given as truth values, as decimals without
a fraction and as text.
-/

namespace Palette.Rgba

inductive Loose where
  | truth (value : Bool)
  | integer (value : Int)
  | real (value : Float)
  | text (value : String)
  /-- Nothing that could be a number. -/
  | other

/-- What follows zeros in front; `last` is the zero or underscore right before it. A sign may follow
them, and in front of a point one zero stays. -/
def behindZeros (last : Char) : List Char → Option (List Char)
  | [] => some [last]
  | c :: rest =>
      if c = '0' || c = '_' then behindZeros c rest
      else if c = '-' || ('1' ≤ c && c ≤ '9') then some (c :: rest)
      else if c = '.' then some (last :: c :: rest)
      else none

def dropZeros : List Char → Option (List Char)
  | '0' :: rest => behindZeros '0' rest
  | c :: rest => if '1' ≤ c && c ≤ '9' then some (c :: rest) else none
  | [] => none

def dropSignedZeros : List Char → Option (List Char)
  | '-' :: rest => (dropZeros rest).map ('-' :: ·)
  | cs => dropZeros cs

def dropFraction (cs : List Char) : List Char :=
  match cs.span (· ≠ '.') with
  | (whole, _ :: zeros) => if !zeros.isEmpty && zeros.all (· = '0') then whole else cs
  | _ => cs

/-- A text without its underscores, if they stand alone and inside of it. -/
def joinDigits (cs : List Char) : List Char :=
  let apart := cs.zip (cs.drop 1)
  if cs.head? = some '_' || cs.getLast? = some '_' || apart.contains ('_', '_') then cs
  else cs.filter (· ≠ '_')

def longestNumber : Nat := 4300

def digitsNumber (cs : List Char) : Except ChannelFault Int :=
  let (negative, body) := match cs with
    | '-' :: rest => (true, rest)
    | _ => (false, cs)
  let digits := body.takeWhile Char.isDigit
  if cs.length - body.length + digits.length > longestNumber && body.head? ≠ some '0' then
    .error .unbounded
  else if digits.isEmpty || digits.length < body.length || (body.head? = some '0' && body ≠ ['0'])
  then .error .unreadable
  else
    let value := Decimal.digitsValue digits
    .ok (if negative then -(value : Int) else value)

/-- A whole number in text: blanks around it, a plus sign, zeros in front, single underscores and a
fraction of zeros do not count. -/
def wholeNumber (s : String) : Except ChannelFault Int :=
  let cs := Decimal.stripNumber s.toList
  let body := match cs with
    | '+' :: '-' :: _ => none
    | '+' :: rest => dropZeros rest
    | _ => dropSignedZeros cs
  match body with
  | some digits => digitsNumber (joinDigits (dropFraction digits))
  | none => .error .unreadable

/-- The whole number that a double is, if it fits into 64 bits. -/
def exactInteger (x : Float) : Except ChannelFault Int :=
  match Decimal.Binary.ofFloat x with
  | .finite negative mantissa exponent =>
      let size :=
        if exponent ≥ 0 then some (mantissa * Nat.pow 2 exponent.toNat)
        else
          let unit := Nat.pow 2 (-exponent).toNat
          if mantissa % unit = 0 then some (mantissa / unit) else none
      match size with
      | some n =>
          if n < Nat.pow 2 63 then .ok (if negative then -(n : Int) else n) else .error .unbounded
      | none => .error .fractional
  | _ => .error .infinite

def Loose.integer? : Loose → Except ChannelFault Int
  | .truth value => .ok (if value then 1 else 0)
  | .integer value => .ok value
  | .real value => exactInteger value
  | .text value => wholeNumber value
  | .other => .error .notNumber

def Loose.byte (given : Loose) : Except ChannelFault UInt8 := given.integer? >>= Rgba.byte

def required : Option Loose → Except ChannelFault UInt8
  | some given => given.byte
  | none => .error .missing

def ofLoose (red green blue alpha : Option Loose) : Except Faults Rgba :=
  ofResults (required red) (required green) (required blue)
    (required (some (alpha.getD (.integer 255))))

end Palette.Rgba
