import Palette.Text.Digit
import Palette.Text.Printable

/-!
Text and bytes between quotes, as they stand in messages and in generated literals. A single quote
encloses unless the content holds one and no double quote.
-/

namespace Palette.Text

def quoteFor (hasSingle hasDouble : Bool) : Char := if hasSingle && !hasDouble then '"' else '\''

def shortEscape? (quote c : Char) : Option String :=
  if c = '\\' then some "\\\\"
  else if c = quote then some (String.ofList ['\\', quote])
  else if c = '\n' then some "\\n"
  else if c = '\r' then some "\\r"
  else if c = '\t' then some "\\t"
  else none

def quotedChar (quote c : Char) : String :=
  match shortEscape? quote c with
  | some escape => escape
  | none =>
      if isPrintable c then c.toString
      else if c.toNat ≤ 0xFF then "\\x" ++ hex 2 c.toNat
      else if c.toNat ≤ 0xFFFF then "\\u" ++ hex 4 c.toNat
      else "\\U" ++ hex 8 c.toNat

def quoted (s : String) : String :=
  let quote := quoteFor (s.toList.contains '\'') (s.toList.contains '"')
  quote.toString ++ String.join (s.toList.map (quotedChar quote)) ++ quote.toString

def quotedByte (quote : Char) (b : UInt8) : String :=
  let c := Char.ofNat b.toNat
  match shortEscape? quote c with
  | some escape => escape
  | none => if 0x20 ≤ b && b ≤ 0x7E then c.toString else "\\x" ++ hex 2 b.toNat

def quotedBytes (bytes : List UInt8) : String :=
  let quote := quoteFor (bytes.contains 0x27) (bytes.contains 0x22)
  "b" ++ quote.toString ++ String.join (bytes.map (quotedByte quote)) ++ quote.toString

end Palette.Text
