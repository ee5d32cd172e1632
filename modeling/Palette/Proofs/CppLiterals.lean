import Palette.Proofs.CppText

/-!
C++ literals of bytes. The end of each byte's writing can be told without what follows: a character
stands for itself, a simple escape has one character behind its backslash, and an octal escape
always has its three digits. So a literal ends at its last quote, whatever stands behind it, and
denotes what was written.
-/

namespace Palette.Target

open KeyTrie

theorem decodeFrom_of_knows {narrow wide : List Char → Option (UInt8 × Nat)}
    (knows : ∀ chars unit, narrow chars = some unit → wide chars = some unit) (skip : Nat)
    (chars : List Char) (bytes : Key) (read : decodeFrom narrow skip chars = some bytes) :
    decodeFrom wide skip chars = some bytes := by
  fun_induction decodeFrom narrow skip chars generalizing bytes with
  | case1 => simpa [decodeFrom] using read
  | case2 skip c rest ih => exact ih bytes read
  | case3 c rest b length found ih =>
      obtain ⟨others, later, rfl⟩ := Option.map_eq_some_iff.mp read
      rw [decodeFrom, knows _ _ found]
      simp only [ih others later, Option.map_some]
  | case4 | case5 => simp at read

theorem quotedContent_of_knows {narrow wide : List Char → Option (UInt8 × Nat)}
    (knows : ∀ chars unit, narrow chars = some unit → wide chars = some unit) (quote : Char)
    (chars : List Char) (content : Key × Nat)
    (read : quotedContent quote narrow chars = some content) :
    quotedContent quote wide chars = some content := by
  unfold quotedContent at read ⊢
  split at read
  · simp at read
  · obtain ⟨bytes, decoded, rfl⟩ := Option.map_eq_some_iff.mp read
    rw [decodeFrom_of_knows knows 0 _ bytes decoded]
    rfl

namespace Cpp

open Matcher

/-! ### Reading a literal -/

/-- One character or escape of a literal. Besides what printed literals need there is a simple
escape of the question mark. -/
def element? : List Char → Option (UInt8 × Nat)
  | '\\' :: '?' :: _ => some (0x3F, 2)
  | chars => unit? chars

/-- The bytes of the literal between `quote`s that a text begins with, and the text behind it. -/
def readLiteral (quote : Char) : List Char → Option (Key × List Char)
  | [] => none
  | c :: rest =>
      if c = quote then
        (quotedContent quote element? rest).map fun content => (content.1, rest.drop content.2)
      else none

theorem element?_knows (chars : List Char) (unit : UInt8 × Nat) (found : unit? chars = some unit) :
    element? chars = some unit := by
  unfold element?
  split
  · rename_i rest
    have unknown : unit? ('\\' :: '?' :: rest) = none := rfl
    rw [unknown] at found
    cases found
  · exact found

theorem readLiteral_written {quote : Char} {write : UInt8 → List Char}
    (writes : ∀ b, Writes quote unit? b (write b)) (bytes : Key) (rest : List Char) :
    readLiteral quote (quote :: (bytes.flatMap write ++ quote :: rest)) = some (bytes, rest) := by
  have content := quotedContent_of_knows element?_knows quote _ _
    (quotedContent_eq quote unit? write writes bytes rest)
  rw [readLiteral, if_pos rfl, content, Option.map_some, List.drop_append]
  simp

/-! ### Printable characters -/

def isVisible (c : Char) : Bool := 0x20 ≤ c.toNat && c.toNat ≤ 0x7E

theorem visible_digitChar : ∀ n < 8, isVisible n.digitChar = true := by decide

theorem visible_cppEscape (quote : Char) (visible : isVisible quote = true) (b : UInt8) :
    (cppEscape quote b).toList.all isVisible = true := by
  unfold cppEscape
  simp only
  split_ifs with backslash newline tab carriage quoted printable
  · decide
  · decide
  · decide
  · decide
  · rw [String.toList_ofList, List.all_cons, List.all_cons, visible]
    rfl
  · rw [Bool.and_eq_true, decide_eq_true_eq, decide_eq_true_eq] at printable
    have range : 0x20 ≤ b.toNat ∧ b.toNat < 0x7F :=
      ⟨UInt8.le_iff_toNat_le.mp printable.1, UInt8.lt_iff_toNat_lt.mp printable.2⟩
    have self : (Char.ofNat b.toNat).toString.toList = [Char.ofNat b.toNat] :=
      String.toList_singleton _
    rw [self, List.all_cons, isVisible, toNat_char]
    simp
    omega
  · have small := b.toNat_lt
    have high := visible_digitChar (b.toNat / 64) (by omega)
    have middle := visible_digitChar (b.toNat / 8 % 8) (by omega)
    have low := visible_digitChar (b.toNat % 8) (by omega)
    rw [String.toList_append, octal_chars, List.all_append]
    simp [high, middle, low]
    decide

theorem visible_cppString (bytes : Key) : (cppString bytes).toList.all isVisible = true := by
  have inside : (bytes.flatMap fun b => (cppEscape '"' b).toList).all isVisible = true := by
    rw [List.all_flatMap, List.all_eq_true]
    intro b _
    exact visible_cppEscape '"' rfl b
  rw [toList_cppString, List.all_cons, List.all_append, inside]
  rfl

theorem visible_cppChar (b : UInt8) : (cppChar b).toList.all isVisible = true := by
  rw [toList_cppChar, List.all_cons, List.all_append, visible_cppEscape '\'' rfl b]
  rfl

/-! ### Printed literals -/

theorem readLiteral_cppString (bytes : Key) (rest : List Char) :
    readLiteral '"' ((cppString bytes).toList ++ rest) = some (bytes, rest) := by
  rw [toList_cppString, List.cons_append, List.append_assoc, List.singleton_append]
  exact readLiteral_written (writes_cppEscape '"' (Or.inr rfl)) bytes rest

theorem readLiteral_cppChar (b : UInt8) (rest : List Char) :
    readLiteral '\'' ((cppChar b).toList ++ rest) = some ([b], rest) := by
  have read := readLiteral_written (writes_cppEscape '\'' (Or.inl rfl)) [b] rest
  rw [List.flatMap_singleton] at read
  rw [toList_cppChar, List.cons_append, List.append_assoc, List.singleton_append]
  exact read

theorem cppChar_injective : Function.Injective cppChar := by
  intro b c same
  have reads := readLiteral_cppChar b []
  rw [same, readLiteral_cppChar c []] at reads
  simpa using reads.symm

/-- Every byte string, and every single byte, is written as a literal in printable characters of
ASCII. Read at the start of any text it ends at its last quote and denotes what was written, so that
different bytes have different labels in a switch. -/
theorem literals_denote :
    (∀ bytes : Key, (cppString bytes).toList.all isVisible = true ∧
      ∀ rest, readLiteral '"' ((cppString bytes).toList ++ rest) = some (bytes, rest)) ∧
    (∀ b : UInt8, (cppChar b).toList.all isVisible = true ∧
      ∀ rest, readLiteral '\'' ((cppChar b).toList ++ rest) = some ([b], rest)) ∧
    ∀ b c : UInt8, b ≠ c → cppChar b ≠ cppChar c :=
  ⟨fun bytes => ⟨visible_cppString bytes, readLiteral_cppString bytes⟩,
    fun b => ⟨visible_cppChar b, readLiteral_cppChar b⟩,
    fun _ _ differ => cppChar_injective.ne differ⟩

theorem literals_denote_adjacent :
    readLiteral '"' ("\"\\0017\\\\\\\"'\\000\\177\\377?\" + \"".toList) =
        some ([0x01, 0x37, 0x5C, 0x22, 0x27, 0x00, 0x7F, 0xFF, 0x3F], " + \"".toList) ∧
      (0x27 : UInt8) ≠ 0x22 ∧ cppChar 0x27 ≠ cppChar 0x22 := by
  have read := (literals_denote.1 [0x01, 0x37, 0x5C, 0x22, 0x27, 0x00, 0x7F, 0xFF, 0x3F]).2
    " + \"".toList
  exact ⟨read, by decide, literals_denote.2.2 0x27 0x22 (by decide)⟩

end Cpp

end Palette.Target
