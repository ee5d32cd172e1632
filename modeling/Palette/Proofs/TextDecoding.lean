import Mathlib.Data.List.Infix
import Palette.Text.Utf8

/-!
UTF-8 read back. A character's bytes are read as that character whatever stands behind them, so the
bytes of a text are read as the text, and so are those between two places where characters meet.
-/

namespace Palette.Text

theorem toNat_byte {n : Nat} (lt : n < 256) : (UInt8.ofNat n).toNat = n :=
  UInt8.toNat_ofNat_of_lt' lt

/-- A character that is not yet complete takes six bits more from a byte that it allows. -/
theorem readChars_trailing {owed value bits : Nat} {low high : UInt8} (small : bits < 64)
    (above : low.toNat ≤ bits + 128) (below : bits + 128 ≤ high.toNat) (rest : List UInt8) :
    readChars (some ⟨owed, low, high, value⟩) (UInt8.ofNat (bits + 128) :: rest) =
      if owed ≤ 1 then some (Char.ofNat (value * 64 + bits)) :: readChars none rest
      else readChars (some ⟨owed - 1, 0x80, 0xBF, value * 64 + bits⟩) rest := by
  have byte : (UInt8.ofNat (bits + 128)).toNat = bits + 128 := toNat_byte (by omega)
  simp only [readChars, UInt8.le_iff_toNat_le, byte, above, below, decide_true, Bool.and_true,
    ↓reduceIte, Nat.add_sub_cancel]

theorem readChars_plain {owed value bits : Nat} (small : bits < 64) (rest : List UInt8) :
    readChars (some ⟨owed, 0x80, 0xBF, value⟩) (UInt8.ofNat (bits + 128) :: rest) =
      if owed ≤ 1 then some (Char.ofNat (value * 64 + bits)) :: readChars none rest
      else readChars (some ⟨owed - 1, 0x80, 0xBF, value * 64 + bits⟩) rest := by
  refine readChars_trailing small ?_ ?_ rest
  · exact Nat.le_add_left 128 bits
  · exact Nat.add_le_add_right (Nat.le_of_lt_succ small) 128

theorem readChars_leading {b : UInt8} {pending : Pending} (begun : firstByte b = .begun pending)
    (rest : List UInt8) : readChars none (b :: rest) = readChars (some pending) rest := by
  simp only [readChars, begun]

theorem firstByte_one {n : Nat} (lt : n < 128) :
    firstByte (UInt8.ofNat n) = .char (Char.ofNat n) := by
  have byte : (UInt8.ofNat n).toNat = n := toNat_byte (by omega)
  simp only [firstByte, byte]
  rw [if_pos lt]

theorem firstByte_two {bits : Nat} (two : 2 ≤ bits) (lt : bits < 32) :
    firstByte (UInt8.ofNat (bits + 192)) = .begun ⟨1, 0x80, 0xBF, bits⟩ := by
  have byte : (UInt8.ofNat (bits + 192)).toNat = bits + 192 :=
    toNat_byte (by omega)
  simp only [firstByte, byte, Nat.add_sub_cancel]
  rw [if_neg (by omega), if_neg (by omega), if_pos (by omega)]

theorem firstByte_three {bits : Nat} (lt : bits < 16) :
    firstByte (UInt8.ofNat (bits + 224)) =
      .begun ⟨2, if bits = 0 then 0xA0 else 0x80, if bits = 13 then 0x9F else 0xBF, bits⟩ := by
  have byte : (UInt8.ofNat (bits + 224)).toNat = bits + 224 :=
    toNat_byte (by omega)
  simp only [firstByte, byte, Nat.add_sub_cancel]
  rw [if_neg (by omega), if_neg (by omega), if_neg (by omega), if_pos (by omega)]
  simp only [Nat.add_eq_right, Nat.reduceEqDiff]

theorem firstByte_four {bits : Nat} (lt : bits < 5) :
    firstByte (UInt8.ofNat (bits + 240)) =
      .begun ⟨3, if bits = 0 then 0x90 else 0x80, if bits = 4 then 0x8F else 0xBF, bits⟩ := by
  have byte : (UInt8.ofNat (bits + 240)).toNat = bits + 240 :=
    toNat_byte (by omega)
  simp only [firstByte, byte, Nat.add_sub_cancel]
  rw [if_neg (by omega), if_neg (by omega), if_neg (by omega), if_neg (by omega),
    if_pos (by omega)]
  simp only [Nat.add_eq_right, Nat.reduceEqDiff]

/-- The number of a character is cut into groups of six bits from the right. -/
theorem readChars_encodeChar (c : Char) (rest : List UInt8) :
    readChars none (String.utf8EncodeChar c ++ rest) = some c :: readChars none rest := by
  have valid : c.val.toNat < 55296 ∨ 57343 < c.val.toNat ∧ c.val.toNat < 1114112 := c.valid
  have back : Char.ofNat c.val.toNat = c := Char.ofNat_toNat c
  rw [String.utf8EncodeChar]
  generalize c.val.toNat = v at valid back
  split_ifs with one two three <;> simp only [List.cons_append, List.nil_append]
  · simp only [readChars, firstByte_one (show v < 128 by omega), back]
  · rw [readChars_leading (firstByte_two (show 2 ≤ v / 64 % 32 by omega) (by omega)),
      readChars_plain (show v % 64 < 64 by omega),
      if_pos (show 1 ≤ 1 by omega), show v / 64 % 32 * 64 + v % 64 = v by omega, back]
  · have low : (if v / 4096 % 16 = 0 then (0xA0 : UInt8) else 0x80).toNat ≤ v / 64 % 64 + 128 := by
      split <;> simp only [UInt8.reduceToNat] <;> omega
    have high : v / 64 % 64 + 128 ≤
        (if v / 4096 % 16 = 13 then (0x9F : UInt8) else 0xBF).toNat := by
      split <;> simp only [UInt8.reduceToNat] <;> omega
    rw [readChars_leading (firstByte_three (show v / 4096 % 16 < 16 by omega)),
      readChars_trailing (show v / 64 % 64 < 64 by omega) low high, if_neg (show ¬ 2 ≤ 1 by omega),
      readChars_plain (show v % 64 < 64 by omega),
      if_pos (show 2 - 1 ≤ 1 by omega),
      show (v / 4096 % 16 * 64 + v / 64 % 64) * 64 + v % 64 = v by omega, back]
  · have low : (if v / 262144 % 8 = 0 then (0x90 : UInt8) else 0x80).toNat ≤
        v / 4096 % 64 + 128 := by
      split <;> simp only [UInt8.reduceToNat] <;> omega
    have high : v / 4096 % 64 + 128 ≤
        (if v / 262144 % 8 = 4 then (0x8F : UInt8) else 0xBF).toNat := by
      split <;> simp only [UInt8.reduceToNat] <;> omega
    rw [readChars_leading (firstByte_four (show v / 262144 % 8 < 5 by omega)),
      readChars_trailing (show v / 4096 % 64 < 64 by omega) low high,
      if_neg (show ¬ 3 ≤ 1 by omega),
      readChars_plain (show v / 64 % 64 < 64 by omega),
      if_neg (show ¬ 3 - 1 ≤ 1 by omega),
      readChars_plain (show v % 64 < 64 by omega),
      if_pos (show 3 - 1 - 1 ≤ 1 by omega),
      show ((v / 262144 % 8 * 64 + v / 4096 % 64) * 64 + v / 64 % 64) * 64 + v % 64 = v by omega,
      back]

theorem allSome_map_some {α : Type} (items : List α) : allSome (items.map some) = some items := by
  induction items with
  | nil => rfl
  | cons a rest ih => simp only [List.map_cons, allSome, ih, Option.map_some]

theorem readChars_encode (s : String) : readChars none (encode s) = s.toList.map some := by
  unfold encode
  induction s.toList with
  | nil => rfl
  | cons c rest ih => rw [List.flatMap_cons, readChars_encodeChar, ih, List.map_cons]

theorem decode?_encode (s : String) : decode? (encode s) = some s := by
  rw [decode?, readChars_encode, allSome_map_some, Option.map_some, String.ofList_toList]

theorem encode_append (s t : String) : encode (s ++ t) = encode s ++ encode t := by
  simp only [encode, String.toList_append, List.flatMap_append]

/-- A place in the bytes of a text where no character is cut. -/
def Boundary (text : String) (place : Nat) : Prop :=
  ∃ front back : String, text = front ++ back ∧ place = (encode front).length

def boundaryAt : List Char → Nat → Bool
  | _, 0 => true
  | [], _ + 1 => false
  | c :: rest, place + 1 =>
      c.utf8Size ≤ place + 1 && boundaryAt rest (place + 1 - c.utf8Size)

theorem boundaryAt_length : ∀ front back : List Char,
    boundaryAt (front ++ back) (encode (String.ofList front)).length = true
  | [], back => by cases back <;> rfl
  | c :: front, back => by
      have size : (encode (String.ofList (c :: front))).length =
          c.utf8Size + (encode (String.ofList front)).length := by
        simp only [encode, String.toList_ofList, List.flatMap_cons, List.length_append,
          String.length_utf8EncodeChar]
      have filled : 0 < (encode (String.ofList (c :: front))).length := by
        have := c.utf8Size_pos
        omega
      obtain ⟨place, positive⟩ := Nat.exists_eq_add_one_of_ne_zero filled.ne'
      rw [positive, List.cons_append, boundaryAt, ← positive, size, Nat.add_sub_cancel_left,
        boundaryAt_length front back, Bool.and_true, decide_eq_true_eq]
      exact Nat.le_add_right _ _

theorem exists_of_boundaryAt : ∀ {cs : List Char} {place : Nat}, boundaryAt cs place = true →
    ∃ front back, cs = front ++ back ∧ place = (encode (String.ofList front)).length
  | cs, 0, _ => ⟨[], cs, rfl, rfl⟩
  | [], _ + 1, h => by cases h
  | c :: rest, place + 1, h => by
      simp only [boundaryAt, Bool.and_eq_true, decide_eq_true_eq] at h
      obtain ⟨front, back, rfl, filled⟩ := exists_of_boundaryAt h.2
      refine ⟨c :: front, back, rfl, ?_⟩
      simp only [encode, String.toList_ofList, List.flatMap_cons, List.length_append,
        String.length_utf8EncodeChar] at filled ⊢
      omega

theorem boundaryAt_iff {text : String} {place : Nat} :
    boundaryAt text.toList place = true ↔ Boundary text place := by
  constructor
  · intro h
    obtain ⟨front, back, cut, filled⟩ := exists_of_boundaryAt h
    refine ⟨String.ofList front, String.ofList back, ?_, filled⟩
    rw [← String.ofList_append, ← cut, String.ofList_toList]
  · rintro ⟨front, back, rfl, rfl⟩
    have filled := boundaryAt_length front.toList back.toList
    rwa [String.ofList_toList, ← String.toList_append] at filled

instance (text : String) (place : Nat) : Decidable (Boundary text place) :=
  decidable_of_iff _ boundaryAt_iff

/-- What stands between two boundaries is a text. -/
theorem decode?_between {text : String} {start stop : Nat} (begins : Boundary text start)
    (ends : Boundary text stop) :
    ∃ part, decode? (((encode text).drop start).take (stop - start)) = some part := by
  obtain ⟨front, behind, rfl, rfl⟩ := begins
  obtain ⟨before, back, cut, rfl⟩ := ends
  have lists : front.toList ++ behind.toList = before.toList ++ back.toList := by
    rw [← String.toList_append, cut, String.toList_append]
  rw [encode_append, List.drop_left]
  rcases List.append_eq_append_iff.1 lists with ⟨mid, stops, parts⟩ | ⟨mid, starts, _⟩
  · have inner : behind = String.ofList mid ++ back := by
      rw [← String.toList_inj, String.toList_append, String.toList_ofList, parts]
    have outer : before = front ++ String.ofList mid := by
      rw [← String.toList_inj, String.toList_append, String.toList_ofList, stops]
    refine ⟨String.ofList mid, ?_⟩
    rw [inner, outer, encode_append, encode_append, List.length_append, Nat.add_sub_cancel_left,
      List.take_left, decode?_encode]
  · have outer : front = before ++ String.ofList mid := by
      rw [← String.toList_inj, String.toList_append, String.toList_ofList, starts]
    refine ⟨"", ?_⟩
    rw [outer, encode_append, List.length_append, Nat.sub_eq_zero_of_le (Nat.le_add_right ..),
      List.take_zero]
    rfl

end Palette.Text
