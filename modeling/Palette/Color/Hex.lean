import Palette.Color.Rgba
import Palette.Decimal.Read

/-!
Hexadecimal colors: `#rgb`, `#rgba`, `#rrggbb` and `#rrggbbaa`. A pair is read as a number in text,
so it may also hold a sign or a blank; a channel below zero is then no color.
-/

namespace Palette.Rgba

inductive HexError where
  | invalid (text : String)
  | outOfRange (faults : Faults)
  deriving DecidableEq, Repr

def HexError.message : HexError → String
  | .invalid text => s!"Invalid hex color '{text}'"
  | .outOfRange _ => ""

def fullDigits (digits : List Char) : List Char :=
  if digits.length = 3 ∨ digits.length = 4 then digits.flatMap fun d => [d, d] else digits

def ofPairs : List Char → Option (Except Faults Rgba)
  | [r, r', g, g', b, b'] => do
      return ofInts (← Decimal.readHex? [r, r']) (← Decimal.readHex? [g, g'])
        (← Decimal.readHex? [b, b']) 255
  | [r, r', g, g', b, b', a, a'] => do
      return ofInts (← Decimal.readHex? [r, r']) (← Decimal.readHex? [g, g'])
        (← Decimal.readHex? [b, b']) (← Decimal.readHex? [a, a'])
  | _ => none

def dropHash : List Char → List Char
  | '#' :: rest => rest
  | cs => cs

def ofHex (text : String) : Except HexError Rgba :=
  match ofPairs (fullDigits (dropHash text.toList)) with
  | some (.ok color) => .ok color
  | some (.error faults) => .error (.outOfRange faults)
  | none => .error (.invalid text)

inductive HexErrorAt where
  | invalid (text : String) (line column : Int)
  /-- The place is not kept. -/
  | outOfRange (faults : Faults)
  deriving DecidableEq, Repr

def HexErrorAt.message : HexErrorAt → String
  | .invalid text _ _ => (HexError.invalid text).message
  | .outOfRange faults => (HexError.outOfRange faults).message

/-- The color of a text that stands at some place. Line and column are zero where it is not known.
-/
def ofHexAt (line column : Int) (text : String) : Except HexErrorAt Rgba :=
  match ofHex text with
  | .ok color => .ok color
  | .error (.invalid text) => .error (.invalid text line column)
  | .error (.outOfRange faults) => .error (.outOfRange faults)

end Palette.Rgba
