/-!
Bytes written to base sixty-four. A character outside the alphabet does not count, and the pad that
completes a group of four ends the text.
-/

namespace Palette.Text.Base64

def sextet? (c : Char) : Option Nat :=
  if c.isUpper then some (c.toNat - 'A'.toNat)
  else if c.isLower then some (c.toNat - 'a'.toNat + 26)
  else if c.isDigit then some (c.toNat - '0'.toNat + 52)
  else if c = '+' then some 62
  else if c = '/' then some 63
  else none

structure Reading where
  /-- How many characters of the current group were read. -/
  place : Nat := 0
  /-- The bits that are no part of a byte yet. -/
  left : Nat := 0
  /-- The pads behind the last character. -/
  pads : Nat := 0
  /-- The bytes read, latest first. -/
  bytes : List UInt8 := []

def Reading.take (r : Reading) (sextet : Nat) : Reading :=
  let byte (n : Nat) : List UInt8 := UInt8.ofNat n :: r.bytes
  match r.place with
  | 0 => { place := 1, left := sextet, bytes := r.bytes }
  | 1 => { place := 2, left := sextet % 16, bytes := byte (r.left * 4 + sextet / 16) }
  | 2 => { place := 3, left := sextet % 4, bytes := byte (r.left * 16 + sextet / 4) }
  | _ => { place := 0, left := 0, bytes := byte (r.left * 64 + sextet) }

def decodeFrom (r : Reading) : List Char → Option (List UInt8)
  | [] => if r.place = 0 then some r.bytes.reverse else none
  | c :: rest =>
      if c = '=' then
        if r.place < 2 then decodeFrom r rest
        else if r.place + r.pads + 1 ≥ 4 then some r.bytes.reverse
        else decodeFrom { r with pads := r.pads + 1 } rest
      else
        match sextet? c with
        | some sextet => decodeFrom (r.take sextet) rest
        | none => decodeFrom r rest

/-- The bytes of a text; `none` if its last group is incomplete. -/
def decode? (s : String) : Option (List UInt8) := decodeFrom {} s.toList

end Palette.Text.Base64
