import Palette.Decimal.Binary

/-!
The text of a double: the fewest digits that read back as the same double, and of those the nearest.
Positional from four places behind the point up to sixteen before it, otherwise with an exponent.
-/

namespace Palette.Decimal

/-- A positive double in quarters of its last place, between the bounds of what reads back as it. -/
structure Interval where
  low : Nat
  middle : Nat
  high : Nat
  /-- Exponent of two of the quarters. -/
  exponent : Int
  /-- Whether the bounds themselves read back. -/
  closed : Bool

/-- The bound below a power of two is nearer, as its neighbour there is. -/
def Interval.ofBinary (mantissa : Nat) (exponent : Int) : Interval where
  low := 4 * mantissa - (if mantissa = Nat.pow 2 52 ∧ exponent > -1074 then 1 else 2)
  middle := 4 * mantissa
  high := 4 * mantissa + 2
  exponent := exponent - 2
  closed := mantissa % 2 = 0

def Interval.units (i : Interval) (power : Int) : Nat × Nat :=
  (Nat.pow 2 i.exponent.toNat * Nat.pow 10 (-power).toNat,
    Nat.pow 2 (-i.exponent).toNat * Nat.pow 10 power.toNat)

def Interval.contains (i : Interval) (power : Int) (count : Nat) : Bool :=
  let (up, down) := i.units power
  if i.closed then i.low * up ≤ count * down && count * down ≤ i.high * up
  else i.low * up < count * down && count * down < i.high * up

/-- The units of a power of ten next to the double that read back, the nearer one first. -/
def Interval.readsBack (i : Interval) (power : Int) : Option Nat :=
  let (up, down) := i.units power
  let below := i.middle * up / down
  let rest := i.middle * up - below * down
  let sides :=
    if 2 * rest < down ∨ (2 * rest = down ∧ below % 2 = 0) then [below, below + 1]
    else [below + 1, below]
  sides.find? (i.contains power)

def Interval.powers (i : Interval) : List Int :=
  let (up, down) := i.units (-350)
  let digits := (Nat.toDigits 10 (i.middle * up / down)).length
  (List.range 18).map fun n : Nat => (digits : Int) - 350 - n

def shortest (mantissa : Nat) (exponent : Int) : Nat × Int :=
  let i := Interval.ofBinary mantissa exponent
  (i.powers.findSome? fun power => (i.readsBack power).map fun count => (count, power)).getD (0, 0)

def dropZeros (digits : List Char) (power : Int) : List Char × Int :=
  let zeros := (digits.reverse.takeWhile (· = '0')).length
  (digits.take (digits.length - zeros), power + zeros)

def zeros (n : Int) : List Char := List.replicate n.toNat '0'

def exponentText (n : Int) : List Char :=
  (if n < 0 then ['-'] else ['+']) ++
    (if n.natAbs < 10 then ['0'] else []) ++ Nat.toDigits 10 n.natAbs

def writeDigits (digits : List Char) (point : Int) : List Char :=
  if -4 < point ∧ point ≤ 16 then
    if point ≤ 0 then ['0', '.'] ++ zeros (-point) ++ digits
    else
      let whole := digits.take point.toNat ++ zeros (point - digits.length)
      let fraction := digits.drop point.toNat
      whole ++ '.' :: (if fraction.isEmpty then ['0'] else fraction)
  else
    digits.take 1 ++ (if digits.length > 1 then '.' :: digits.drop 1 else []) ++
      'e' :: exponentText (point - 1)

def text (x : Float) : String :=
  match Binary.ofFloat x with
  | .nan => "nan"
  | .infinite negative => if negative then "-inf" else "inf"
  | .finite negative mantissa exponent =>
      let sign := if negative then "-" else ""
      if mantissa = 0 then sign ++ "0.0"
      else
        let (count, power) := shortest mantissa exponent
        let (digits, last) := dropZeros (Nat.toDigits 10 count) power
        sign ++ String.ofList (writeDigits digits (last + digits.length))

end Palette.Decimal
