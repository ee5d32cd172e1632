/-!
The exact value of a double, and what is computed from it without rounding errors: the nearest
integer, the remainder of a division, decimals with a fixed number of places.
-/

namespace Palette.Decimal

/-- A double taken apart: a finite one is `mantissa * 2 ^ exponent` with a sign. -/
inductive Binary where
  | finite (negative : Bool) (mantissa : Nat) (exponent : Int)
  | infinite (negative : Bool)
  | nan
  deriving DecidableEq, Repr

def Binary.ofFloat (x : Float) : Binary :=
  let bits := x.toBits.toNat
  let negative := bits / Nat.pow 2 63 = 1
  let field : Nat := bits / Nat.pow 2 52 % Nat.pow 2 11
  let fraction := bits % Nat.pow 2 52
  if field = 2047 then if fraction = 0 then .infinite negative else .nan
  else if field = 0 then .finite negative fraction (-1074)
  else .finite negative (Nat.pow 2 52 + fraction) ((field : Int) - 1075)

def divideToEven (numerator denominator : Nat) : Nat :=
  let quotient := numerator / denominator
  let twice := 2 * (numerator % denominator)
  if twice < denominator then quotient
  else if twice > denominator then quotient + 1
  else if quotient % 2 = 0 then quotient
  else quotient + 1

/-- The double nearest to a quotient; of two equally near ones the one with the even mantissa. The
quotient is brought to 53 binary digits, or to the least exponent there is. -/
def ofRatio (numerator denominator : Nat) : Float :=
  let width : Int := (numerator.log2 : Int) - denominator.log2
  let rounded (exponent : Int) : Nat :=
    divideToEven (numerator * Nat.pow 2 (-exponent).toNat) (denominator * Nat.pow 2 exponent.toNat)
  let exponent := max (-1074) (width - 53)
  let exponent := if rounded exponent > Nat.pow 2 53 then exponent + 1 else exponent
  Float.scaleB (Float.ofNat (rounded exponent)) exponent

def ofInteger (n : Int) : Float :=
  if n < 0 then -ofRatio n.natAbs 1 else ofRatio n.natAbs 1

def scaledToEven (mantissa : Nat) (exponent : Int) (scale : Nat) : Nat :=
  if exponent ≥ 0 then mantissa * Nat.pow 2 exponent.toNat * scale
  else divideToEven (mantissa * scale) (Nat.pow 2 (-exponent).toNat)

inductive RoundError where
  | infinite
  | nan
  deriving DecidableEq, Repr

def round (x : Float) : Except RoundError Int :=
  match Binary.ofFloat x with
  | .finite negative mantissa exponent =>
      let n := scaledToEven mantissa exponent 1
      .ok (if negative then -(n : Int) else n)
  | .infinite _ => .error .infinite
  | .nan => .error .nan

/-- What is left of `x` after taking `y` as often as it goes, with the sign of `x`. It is exact: the
two are brought to a common exponent. -/
def truncatedRemainder (x y : Float) : Float :=
  match Binary.ofFloat x, Binary.ofFloat y with
  | .finite negative m e, .finite _ n f =>
      if n = 0 then 0.0 / 0.0
      else
        let common := min e f
        let r := (m * Nat.pow 2 (e - common).toNat) % (n * Nat.pow 2 (f - common).toNat)
        let size := Float.scaleB (Float.ofNat r) common
        if negative then -size else size
  | .finite _ _ _, .infinite _ => x
  | _, _ => 0.0 / 0.0

def remainder (x y : Float) : Float :=
  let r := truncatedRemainder x y
  if r == 0.0 then 0.0 else if r < 0.0 then r + y else r

/-- A double with one decimal place, rounded from its exact value with ties to the even digit. -/
def onePlace (x : Float) : String :=
  match Binary.ofFloat x with
  | .finite negative mantissa exponent =>
      let tenths := scaledToEven mantissa exponent 10
      (if negative then "-" else "") ++ toString (tenths / 10) ++ "." ++ toString (tenths % 10)
  | .infinite negative => if negative then "-inf" else "inf"
  | .nan => "nan"

end Palette.Decimal
