import Palette.Color.Rgba
import Palette.Decimal.Binary
import Palette.Decimal.Read
import Palette.Text.Quoted

/-!
The color functions `rgb()` and `hsl()`: how their arguments are cut and what the channels mean. A
channel is rounded to the nearest integer, ties to even, and clamped to a byte.
-/

namespace Palette.Rgba

inductive ArgumentError where
  | notNumber (text : String)
  | notPercentage (text : String)
  /-- The number is not a number. -/
  | undefined
  | infinite
  deriving DecidableEq, Repr

def ArgumentError.message : ArgumentError → String
  | .notNumber text => "could not convert string to float: " ++ Text.quoted text
  | .notPercentage text => s!"expected a percentage, got '{text}'"
  | .undefined => "cannot convert float NaN to integer"
  | .infinite => "cannot convert float infinity to integer"

def number (text : String) : Except ArgumentError Float :=
  match Decimal.read? text with
  | some x => .ok x
  | none => .error (.notNumber text)

def clamp (x : Float) : Except ArgumentError UInt8 :=
  match Decimal.round x with
  | .ok n => .ok (UInt8.ofNat (max 0 (min 255 n)).toNat)
  | .error .infinite => .error .infinite
  | .error .nan => .error .undefined

def percentage? (text : String) : Option String :=
  match text.toList.reverse with
  | '%' :: rest => some (String.ofList rest.reverse)
  | _ => none

def channel (text : String) : Except ArgumentError UInt8 := do
  match percentage? text with
  | some percent => clamp ((← number percent) * 255 / 100)
  | none => clamp (← number text)

def opacity (text : String) : Except ArgumentError UInt8 := do
  match percentage? text with
  | some percent => clamp ((← number percent) * 255 / 100)
  | none => clamp ((← number text) * 255)

/-- A percentage as a number from zero to one. What is not a number counts as one. -/
def fraction (text : String) : Except ArgumentError Float := do
  match percentage? text with
  | some percent =>
      let x := (← number percent) / 100
      let upper := if x < 1.0 then x else 1.0
      return if upper > 0.0 then upper else 0.0
  | none => .error (.notPercentage text)

def hueLevel (low high hue : Float) : Float :=
  let hue := Decimal.remainder hue 1.0
  if hue < 1.0 / 6.0 then low + (high - low) * hue * 6.0
  else if hue < 0.5 then high
  else if hue < 2.0 / 3.0 then low + (high - low) * (2.0 / 3.0 - hue) * 6.0
  else low

def levels (hue lightness saturation : Float) : Float × Float × Float :=
  if saturation == 0.0 then (lightness, lightness, lightness)
  else
    let high :=
      if lightness ≤ 0.5 then lightness * (1.0 + saturation)
      else lightness + saturation - lightness * saturation
    let low := 2.0 * lightness - high
    let third := 1.0 / 3.0
    (hueLevel low high (hue + third), hueLevel low high hue, hueLevel low high (hue - third))

def dropDegrees (text : String) : String :=
  match text.toList.reverse with
  | 'g' :: 'e' :: 'd' :: rest => String.ofList rest.reverse
  | _ => text

def hsl (hue saturation lightness : String) : Except ArgumentError (UInt8 × UInt8 × UInt8) := do
  let turn := Decimal.remainder (← number (dropDegrees hue)) 360 / 360
  let light ← fraction lightness
  let (red, green, blue) := levels turn light (← fraction saturation)
  return (← clamp (red * 255), ← clamp (green * 255), ← clamp (blue * 255))

def rgb (red green blue : String) : Except ArgumentError (UInt8 × UInt8 × UInt8) := do
  return (← channel red, ← channel green, ← channel blue)

/-- The color functions; the names with and without an alpha channel mean the same. -/
def functions :
    List (String × (String → String → String → Except ArgumentError (UInt8 × UInt8 × UInt8))) :=
  [("rgb", rgb), ("rgba", rgb), ("hsl", hsl), ("hsla", hsl)]

def dropParentheses (cs : List Char) : List Char :=
  match cs with
  | '(' :: rest =>
      match rest.reverse with
      | ')' :: inner => inner.reverse
      | _ => cs
  | _ => cs

/-- Cuts `(a, b, c, d)` or `(a b c / d)` into channels and alpha. -/
def splitArguments (text : String) : List String × Option String :=
  let body := dropParentheses (Text.stripChars text.toList)
  let (front, behind) := body.span (· ≠ '/')
  let parts := (Text.words (front.map fun c => if c = ',' then ' ' else c)).map String.ofList
  match behind, parts with
  | _ :: alpha, _ => (parts, some (String.ofList (Text.stripChars alpha)))
  | [], [a, b, c, d] => ([a, b, c], some d)
  | [], _ => (parts, none)

end Palette.Rgba
