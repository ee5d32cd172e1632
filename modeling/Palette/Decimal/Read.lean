import Palette.Decimal.Binary
import Palette.Text.Blank
import Palette.Text.Digit

/-!
Numbers in text. Blanks around them do not count, digits may be of any script, and a single
underscore may stand between two digits.
-/

namespace Palette.Decimal

/-- Blanks around a number: the information separators are not among them. -/
def isNumberBlank (c : Char) : Bool := Text.isBlank c && !(28 ≤ c.toNat && c.toNat ≤ 31)

def stripNumber (cs : List Char) : List Char :=
  ((cs.dropWhile isNumberBlank).reverse.dropWhile isNumberBlank).reverse

def plainDigit (c : Char) : Char :=
  match Text.digitValue? c with
  | some d => Char.ofNat ('0'.toNat + d)
  | none => c

def splitSign : List Char → Bool × List Char
  | '-' :: rest => (true, rest)
  | '+' :: rest => (false, rest)
  | cs => (false, cs)

/-- The text without its underscores, if each of them stands between two digits. -/
def dropUnderscores : (afterDigit : Bool) → List Char → Option (List Char)
  | _, [] => some []
  | afterDigit, '_' :: rest =>
      match rest with
      | d :: _ => if afterDigit && d.isDigit then dropUnderscores false rest else none
      | [] => none
  | _, c :: rest => (dropUnderscores c.isDigit rest).map (c :: ·)

def digitsValue (digits : List Char) : Nat :=
  digits.foldl (fun n d => n * 10 + (d.toNat - '0'.toNat)) 0

/-- The double nearest to `mantissa * 10 ^ scale`, where `mantissa` has `length` digits. Beyond the
range of doubles the powers are not computed. -/
def nearest (mantissa length : Nat) (scale : Int) : Float :=
  if mantissa = 0 || (length : Int) + scale < -400 then 0.0
  else if scale > 400 then 1.0 / 0.0
  else ofRatio (mantissa * Nat.pow 10 scale.toNat) (Nat.pow 10 (-scale).toNat)

def exponentValue? : List Char → Option Int
  | [] => some 0
  | e :: rest =>
      let (negative, digits) := splitSign rest
      if (e = 'e' || e = 'E') && !digits.isEmpty && digits.all Char.isDigit then
        some (if negative then -(digitsValue digits : Int) else digitsValue digits)
      else none

def unsignedDecimal? (cs : List Char) : Option Float := do
  let (whole, behind) := cs.span Char.isDigit
  let (fraction, tail) := match behind with
    | '.' :: rest => rest.span Char.isDigit
    | rest => ([], rest)
  let exponent ← exponentValue? tail
  let digits := whole ++ fraction
  if digits.isEmpty then none
  else
    let length := (digits.dropWhile (· = '0')).length
    return nearest (digitsValue digits) length (exponent - fraction.length)

def read? (s : String) : Option Float := do
  let (negative, body) := splitSign ((stripNumber s.toList).map plainDigit)
  let word := String.ofList (body.map Char.toLower)
  let size ←
    if word = "inf" || word = "infinity" then some (1.0 / 0.0)
    else if word = "nan" then some (0.0 / 0.0)
    else (dropUnderscores false body).bind unsignedDecimal?
  return if negative then -size else size

def readHex? (cs : List Char) : Option Int := do
  let (negative, digits) := splitSign (stripNumber cs)
  if digits.isEmpty then none
  else
    let value ← digits.foldlM (fun (n : Nat) c => do return n * 16 + (← Text.hexDigitValue? c)) 0
    return if negative then -(value : Int) else value

end Palette.Decimal
