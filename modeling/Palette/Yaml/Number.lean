import Palette.Decimal.Read
import Palette.Text.Lower
import Palette.Yaml.Error

/-!
Numbers of YAML. Which plain texts are numbers is one question (`isInteger`, `isReal`), which number
a text denotes another (`integer`, `real`): a tag may ask for the number of any text, and more texts
have one than are taken for numbers untagged.

Underscores do not count. An integer may be written to base two, eight, ten or sixteen; its places,
like those of a number with a point, may also be to base sixty, divided by colons.
-/

namespace Palette.Yaml

def isBit (c : Char) : Bool := c = '0' || c = '1' || c = '_'

def isOctal (c : Char) : Bool := ('0' ≤ c && c ≤ '7') || c = '_'

def isDecimal (c : Char) : Bool := c.isDigit || c = '_'

def isHexadecimal (c : Char) : Bool :=
  isDecimal c || ('a' ≤ c && c ≤ 'f') || ('A' ≤ c && c ≤ 'F')

def isDecimalRun (cs : List Char) : Bool := cs.head?.any Char.isDigit && cs.all isDecimal

/-- One of the places of a number to base sixty: up to two digits, below sixty. -/
def isSixtieth (cs : List Char) : Bool :=
  match cs with
  | [d] => d.isDigit
  | [t, d] => '0' ≤ t && t ≤ '5' && d.isDigit
  | _ => false

def isInteger (cs : List Char) : Bool :=
  match (Decimal.splitSign cs).2 with
  | '0' :: 'b' :: rest => !rest.isEmpty && rest.all isBit
  | '0' :: 'x' :: rest => !rest.isEmpty && rest.all isHexadecimal
  | '0' :: rest => rest.all isOctal
  | digits =>
      match digits.splitOn ':' with
      | first :: places => isDecimalRun first && places.all isSixtieth
      | [] => false

def isExponent (cs : List Char) : Bool :=
  match cs with
  | [] => true
  | e :: sign :: rest =>
      (e = 'e' || e = 'E') && (sign = '-' || sign = '+') && !rest.isEmpty && rest.all Char.isDigit
  | _ => false

def infinities : List (List Char) := [".inf", ".Inf", ".INF"].map String.toList

def notNumbers : List (List Char) := [".nan", ".NaN", ".NAN"].map String.toList

def isSixtiethReal (cs : List Char) : Bool :=
  let (whole, fraction) := cs.span (· ≠ '.')
  match fraction, whole.splitOn ':' with
  | '.' :: fraction, first :: second :: places =>
      isDecimalRun first && (second :: places).all isSixtieth && fraction.all isDecimal
  | _, _ => false

def isReal (cs : List Char) : Bool :=
  let digits := (Decimal.splitSign cs).2
  if infinities.contains digits || notNumbers.contains cs then true
  else
    match cs with
    | '.' :: d :: rest => d.isDigit && isExponent (rest.dropWhile isDecimal)
    | _ =>
        let (whole, tail) := digits.span isDecimal
        match tail with
        | '.' :: rest => isDecimalRun whole && isExponent (rest.dropWhile isDecimal)
        | _ => isSixtiethReal digits

/-! Values. -/

def withSign (negative : Bool) (n : Int) : Int := if negative then -n else n

def baseLetter? (base : Nat) : Option Char := [(2, 'b'), (8, 'o'), (16, 'x')].lookup base

def dropBaseMark (base : Nat) (cs : List Char) : List Char :=
  match cs with
  | '0' :: letter :: rest => if baseLetter? base = some letter.toLower then rest else cs
  | _ => cs

def digitOf? (base : Nat) (c : Char) : Option Nat := (Text.hexDigitValue? c).filter (· < base)

/-- The integer that digits denote to a base. Blanks around them do not count, a sign may stand in
front and the mark of the base behind it. -/
def integerTo (base : Nat) (cs : List Char) : Except Error Int :=
  let (negative, body) := Decimal.splitSign ((Decimal.stripNumber cs).map Decimal.plainDigit)
  let (digits, tail) := (dropBaseMark base body).span fun c => (digitOf? base c).isSome
  if base = 10 && digits.length > mostDigits then .error (.tooManyDigits digits.length)
  else if digits.isEmpty || !tail.isEmpty then .error (.noInteger base (String.ofList cs))
  else .ok (withSign negative (digits.foldl (fun n c => n * base + (digitOf? base c).getD 0) 0))

def sixtieths (places : List Int) : Int := places.foldl (fun n place => n * 60 + place) 0

def integer (text : String) : Except Error Int :=
  let cs := text.toList.filter (· ≠ '_')
  let (negative, digits) := Decimal.splitSign cs
  (withSign negative ·) <$>
    match digits with
    | [] => .error .emptyNumber
    | ['0'] => .ok 0
    | '0' :: 'b' :: rest => integerTo 2 rest
    | '0' :: 'x' :: rest => integerTo 16 rest
    | '0' :: _ => integerTo 8 digits
    | _ =>
        if digits.contains ':' then sixtieths <$> (digits.splitOn ':').mapM (integerTo 10)
        else integerTo 10 digits

def realTo (cs : List Char) : Except Error Float :=
  match Decimal.read? (String.ofList cs) with
  | some x => .ok x
  | none => .error (.noReal (String.ofList cs))

/-- The sum of places to base sixty, the lowest first; `height` is the number of places below. Every
step rounds. -/
def realSixtieths (sum : Float) (height : Nat) : List Float → Except Error Float
  | [] => .ok sum
  | place :: higher =>
      let weight := Decimal.ofInteger (60 ^ height)
      if weight.isInf then .error .placeTooHigh
      else realSixtieths (sum + place * weight) (height + 1) higher

def real (text : String) : Except Error Float :=
  let cs := (Text.lower (String.ofList (text.toList.filter (· ≠ '_')))).toList
  let (negative, digits) := Decimal.splitSign cs
  let size : Except Error Float :=
    if cs.isEmpty then .error .emptyNumber
    else if infinities.contains digits then .ok (1.0 / 0.0)
    else if notNumbers.contains digits then .ok (0.0 / 0.0)
    else if digits.contains ':' then do
      realSixtieths 0.0 0 (← (digits.splitOn ':').mapM realTo).reverse
    else realTo digits
  (fun x => if negative then -x else x) <$> size

end Palette.Yaml
