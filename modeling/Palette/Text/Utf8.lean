/-!
UTF-8. One reading of bytes serves both uses: `decode?` refuses bytes that are not UTF-8, and
`decodeLossy` puts one replacement character for each longest broken part.
-/

namespace Palette.Text

def encode (s : String) : List UInt8 := s.toList.flatMap String.utf8EncodeChar

/-- A character begun: `owed` bytes are to come, the next of them between `low` and `high`. -/
structure Pending where
  owed : Nat
  low : UInt8
  high : UInt8
  value : Nat

inductive FirstByte where
  | char (c : Char)
  | begun (pending : Pending)
  | broken

def firstByte (b : UInt8) : FirstByte :=
  let n := b.toNat
  if n < 0x80 then .char (Char.ofNat n)
  else if n < 0xC2 then .broken
  else if n < 0xE0 then .begun ⟨1, 0x80, 0xBF, n - 0xC0⟩
  else if n < 0xF0 then
    .begun ⟨2, if n = 0xE0 then 0xA0 else 0x80, if n = 0xED then 0x9F else 0xBF, n - 0xE0⟩
  else if n < 0xF5 then
    .begun ⟨3, if n = 0xF0 then 0x90 else 0x80, if n = 0xF4 then 0x8F else 0xBF, n - 0xF0⟩
  else .broken

/-- The characters of a byte sequence; `none` stands for one longest broken part. -/
def readChars : Option Pending → List UInt8 → List (Option Char)
  | none, [] => []
  | some _, [] => [none]
  | none, b :: bs =>
      match firstByte b with
      | .char c => some c :: readChars none bs
      | .begun pending => readChars (some pending) bs
      | .broken => none :: readChars none bs
  | some pending, b :: bs =>
      if pending.low ≤ b && b ≤ pending.high then
        let value := pending.value * 64 + (b.toNat - 0x80)
        if pending.owed ≤ 1 then some (Char.ofNat value) :: readChars none bs
        else readChars (some ⟨pending.owed - 1, 0x80, 0xBF, value⟩) bs
      else
        none :: match firstByte b with
          | .char c => some c :: readChars none bs
          | .begun next => readChars (some next) bs
          | .broken => none :: readChars none bs

def allSome {α : Type} : List (Option α) → Option (List α)
  | [] => some []
  | none :: _ => none
  | some a :: rest => (allSome rest).map (a :: ·)

def decode? (bytes : List UInt8) : Option String :=
  (allSome (readChars none bytes)).map String.ofList

def decodeLossy (bytes : List UInt8) : String :=
  String.ofList ((readChars none bytes).map (·.getD (Char.ofNat 0xFFFD)))

end Palette.Text
