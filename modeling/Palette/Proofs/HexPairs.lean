import Palette.Color.Hex

/-!
What two characters of a hexadecimal color are read as. They are read as a number in text, so they
are two digits, or one digit beside a blank or behind a sign. The number is never more than a byte
holds, and below zero only where a minus stands before a digit.
-/

namespace Palette

theorem Text.digitValue?_le {c : Char} {d : Nat} (h : digitValue? c = some d) : d ≤ 9 := by
  unfold digitValue? at h
  obtain ⟨first, found, rfl⟩ := Option.map_eq_some_iff.1 h
  have within := List.find?_some found
  simp only [Bool.and_eq_true, decide_eq_true_eq] at within
  omega

theorem Text.hexDigitValue?_le {c : Char} {d : Nat} (h : hexDigitValue? c = some d) : d ≤ 15 := by
  unfold hexDigitValue? at h
  split at h
  next value decimal =>
    cases h
    exact Nat.le_trans (digitValue?_le decimal) (by decide)
  next =>
    split at h
    next lower =>
      cases h
      have : c.toNat ≤ 102 := lower.2
      have : 'a'.toNat = 97 := rfl
      omega
    next =>
      split at h
      next upper =>
        cases h
        have : c.toNat ≤ 70 := upper.2
        have : 'A'.toNat = 65 := rfl
        omega
      next => cases h

def Text.numberBlanks : List Nat :=
  [9, 10, 11, 12, 13, 32, 0x85, 0xA0, 0x1680, 0x2000, 0x2001, 0x2002, 0x2003, 0x2004, 0x2005,
    0x2006, 0x2007, 0x2008, 0x2009, 0x200A, 0x2028, 0x2029, 0x202F, 0x205F, 0x3000]

theorem Text.mem_numberBlanks {c : Char} (blank : Decimal.isNumberBlank c = true) :
    c.toNat ∈ numberBlanks := by
  simp only [Decimal.isNumberBlank, isBlank, Bool.and_eq_true, Bool.or_eq_true, decide_eq_true_eq,
    beq_iff_eq, Bool.not_eq_true', Bool.and_eq_false_iff, decide_eq_false_iff_not] at blank
  simp only [numberBlanks, List.mem_cons, List.not_mem_nil, or_false]
  omega

theorem Text.hexDigitValue?_blank {c : Char} (blank : Decimal.isNumberBlank c = true) :
    hexDigitValue? c = none := by
  have table : ∀ n ∈ numberBlanks, hexDigitValue? (Char.ofNat n) = none := by decide +kernel
  have value := table c.toNat (mem_numberBlanks blank)
  rwa [Char.ofNat_toNat] at value

namespace Decimal

def hexValue? (before : Nat) (digits : List Char) : Option Nat :=
  digits.foldlM (fun n c => do return n * 16 + (← Text.hexDigitValue? c)) before

theorem hexValue?_cons (before : Nat) (c : Char) (digits : List Char) :
    hexValue? before (c :: digits) =
      (Text.hexDigitValue? c).bind fun d => hexValue? (before * 16 + d) digits := by
  unfold hexValue?
  rw [List.foldlM_cons]
  cases Text.hexDigitValue? c <;> rfl

/-! ### Pairs of characters -/

/-- The number that two characters are read as. One of them may be a sign or a blank. -/
inductive LoosePair : Char → Char → Int → Prop
  | digits {a b : Char} {high low : Nat} (first : Text.hexDigitValue? a = some high)
      (second : Text.hexDigitValue? b = some low) : LoosePair a b (16 * high + low)
  | plus {b : Char} {value : Nat} (digit : Text.hexDigitValue? b = some value) :
      LoosePair '+' b value
  | minus {b : Char} {value : Nat} (digit : Text.hexDigitValue? b = some value) :
      LoosePair '-' b (-value)
  | behindBlank {a b : Char} {value : Nat} (blank : isNumberBlank a = true)
      (digit : Text.hexDigitValue? b = some value) : LoosePair a b value
  | beforeBlank {a b : Char} {value : Nat} (digit : Text.hexDigitValue? a = some value)
      (blank : isNumberBlank b = true) : LoosePair a b value

theorem stripNumber_two (a b : Char) :
    stripNumber [a, b] =
      if isNumberBlank a then if isNumberBlank b then [] else [b]
      else if isNumberBlank b then [a] else [a, b] := by
  cases first : isNumberBlank a <;> cases second : isNumberBlank b <;>
    simp [stripNumber, List.dropWhile, first, second]

theorem splitSign_other {c : Char} (noMinus : c ≠ '-') (noPlus : c ≠ '+') (rest : List Char) :
    splitSign (c :: rest) = (false, c :: rest) := by
  unfold splitSign
  split
  next same => exact absurd (List.cons.inj same).1 noMinus
  next same => exact absurd (List.cons.inj same).1 noPlus
  next => rfl

theorem readHex?_of_split {cs digits : List Char} {negative : Bool}
    (signed : splitSign (stripNumber cs) = (negative, digits)) (nonempty : digits ≠ []) :
    readHex? cs = (hexValue? 0 digits).map fun n : Nat => if negative then -(n : Int) else n := by
  have notEmpty : digits.isEmpty = false := by simpa using nonempty
  simp only [readHex?, signed, notEmpty, Bool.false_eq_true, if_false]
  change (hexValue? 0 digits >>= fun n => pure (if negative then -(n : Int) else n)) = _
  cases hexValue? 0 digits <;> rfl

theorem hexValue?_digit (before : Nat) (c : Char) :
    hexValue? before [c] = (Text.hexDigitValue? c).map (before * 16 + ·) := by
  rw [hexValue?_cons]
  cases Text.hexDigitValue? c <;> rfl

theorem readHex?_one {cs : List Char} {c : Char} (stripped : stripNumber cs = [c]) :
    readHex? cs = (Text.hexDigitValue? c).map fun d : Nat => (d : Int) := by
  by_cases minus : c = '-'
  · subst minus
    have signed : splitSign (stripNumber cs) = (true, []) := by rw [stripped]; rfl
    simp only [readHex?, signed]
    rfl
  by_cases plus : c = '+'
  · subst plus
    have signed : splitSign (stripNumber cs) = (false, []) := by rw [stripped]; rfl
    simp only [readHex?, signed]
    rfl
  have signed : splitSign (stripNumber cs) = (false, [c]) := by
    rw [stripped, splitSign_other minus plus]
  rw [readHex?_of_split signed (List.cons_ne_nil c []), hexValue?_digit]
  cases Text.hexDigitValue? c <;> simp

theorem readHex?_two {a b : Char} (stripped : stripNumber [a, b] = [a, b]) :
    readHex? [a, b] =
      if a = '-' then (Text.hexDigitValue? b).map fun d : Nat => -(d : Int)
      else if a = '+' then (Text.hexDigitValue? b).map fun d : Nat => (d : Int)
      else (Text.hexDigitValue? a).bind fun high : Nat =>
        (Text.hexDigitValue? b).map fun low : Nat => (16 * high + low : Int) := by
  have nonempty : [b] ≠ [] := List.cons_ne_nil b []
  by_cases minus : a = '-'
  · subst minus
    have signed : splitSign (stripNumber ['-', b]) = (true, [b]) := by rw [stripped]; rfl
    rw [readHex?_of_split signed nonempty, hexValue?_digit]
    cases Text.hexDigitValue? b <;> simp
  by_cases plus : a = '+'
  · subst plus
    have signed : splitSign (stripNumber ['+', b]) = (false, [b]) := by rw [stripped]; rfl
    rw [readHex?_of_split signed nonempty, hexValue?_digit]
    cases Text.hexDigitValue? b <;> simp
  have signed : splitSign (stripNumber [a, b]) = (false, [a, b]) := by
    rw [stripped, splitSign_other minus plus]
  rw [readHex?_of_split signed (List.cons_ne_nil a [b]), hexValue?_cons, if_neg minus, if_neg plus]
  cases Text.hexDigitValue? a with
  | none => rfl
  | some high =>
    rw [Option.bind_some, Option.bind_some, hexValue?_digit]
    cases Text.hexDigitValue? b with
    | none => rfl
    | some low =>
      simp only [Option.map_some, Bool.false_eq_true, if_false]
      apply congrArg some
      omega

theorem not_blank_of_digit {c : Char} {value : Nat} (digit : Text.hexDigitValue? c = some value) :
    isNumberBlank c = false := by
  cases blank : isNumberBlank c with
  | true =>
    rw [Text.hexDigitValue?_blank blank] at digit
    cases digit
  | false => rfl

theorem not_sign_of_digit {c : Char} {value : Nat} (digit : Text.hexDigitValue? c = some value) :
    c ≠ '-' ∧ c ≠ '+' := by
  have minus : Text.hexDigitValue? '-' = none := by decide
  have plus : Text.hexDigitValue? '+' = none := by decide
  constructor
  · intro same
    rw [same, minus] at digit
    cases digit
  · intro same
    rw [same, plus] at digit
    cases digit

theorem LoosePair.readHex? {a b : Char} {value : Int} (pair : LoosePair a b value) :
    readHex? [a, b] = some value := by
  cases pair with
  | digits first second =>
    have stripped : stripNumber [a, b] = [a, b] := by
      simp [stripNumber_two, not_blank_of_digit first, not_blank_of_digit second]
    have notSign := not_sign_of_digit first
    rw [readHex?_two stripped, if_neg notSign.1, if_neg notSign.2, first, second]
    rfl
  | plus digit =>
    have blank : isNumberBlank '+' = false := by decide
    have stripped : stripNumber ['+', b] = ['+', b] := by
      simp [stripNumber_two, blank, not_blank_of_digit digit]
    rw [readHex?_two stripped, if_neg (by decide), if_pos rfl, digit]
    rfl
  | minus digit =>
    have blank : isNumberBlank '-' = false := by decide
    have stripped : stripNumber ['-', b] = ['-', b] := by
      simp [stripNumber_two, blank, not_blank_of_digit digit]
    rw [readHex?_two stripped, if_pos rfl, digit]
    rfl
  | behindBlank blank digit =>
    have stripped : stripNumber [a, b] = [b] := by
      simp [stripNumber_two, blank, not_blank_of_digit digit]
    rw [readHex?_one stripped, digit]
    rfl
  | beforeBlank digit blank =>
    have stripped : stripNumber [a, b] = [a] := by
      simp [stripNumber_two, blank, not_blank_of_digit digit]
    rw [readHex?_one stripped, digit]
    rfl

theorem loosePair_of_readHex? {a b : Char} {value : Int} (read : readHex? [a, b] = some value) :
    LoosePair a b value := by
  have stripped := stripNumber_two a b
  cases first : isNumberBlank a with
  | true =>
    cases second : isNumberBlank b with
    | true =>
      rw [first, second] at stripped
      simp [readHex?, stripped, splitSign] at read
    | false =>
      rw [first, second] at stripped
      rw [readHex?_one stripped] at read
      obtain ⟨d, digit, rfl⟩ := Option.map_eq_some_iff.mp read
      exact .behindBlank first digit
  | false =>
    cases second : isNumberBlank b with
    | true =>
      rw [first, second] at stripped
      rw [readHex?_one stripped] at read
      obtain ⟨d, digit, rfl⟩ := Option.map_eq_some_iff.mp read
      exact .beforeBlank digit second
    | false =>
      rw [first, second] at stripped
      rw [readHex?_two stripped] at read
      split at read
      next minus =>
        obtain ⟨d, digit, rfl⟩ := Option.map_eq_some_iff.mp read
        rw [minus]
        exact .minus digit
      next =>
        split at read
        next plus =>
          obtain ⟨d, digit, rfl⟩ := Option.map_eq_some_iff.mp read
          rw [plus]
          exact .plus digit
        next =>
          obtain ⟨high, digit, read⟩ := Option.bind_eq_some_iff.mp read
          obtain ⟨low, digitToo, rfl⟩ := Option.map_eq_some_iff.mp read
          exact .digits digit digitToo

/-- Two characters are read as a number exactly if they are two digits, or one digit beside a blank
or behind a sign. -/
theorem readHex?_eq_some_iff (a b : Char) (value : Int) :
    readHex? [a, b] = some value ↔ LoosePair a b value :=
  ⟨loosePair_of_readHex?, LoosePair.readHex?⟩

theorem LoosePair.unique {a b : Char} {value other : Int} (pair : LoosePair a b value)
    (again : LoosePair a b other) : value = other :=
  Option.some.inj (pair.readHex?.symm.trans again.readHex?)

theorem LoosePair.range {a b : Char} {value : Int} (pair : LoosePair a b value) :
    (a = '-' ∧ ∃ d : Nat, Text.hexDigitValue? b = some d ∧ value = -(d : Int)) ∨
      (a ≠ '-' ∧ 0 ≤ value ∧ value ≤ 255) := by
  cases pair with
  | digits first second =>
    have := Text.hexDigitValue?_le first
    have := Text.hexDigitValue?_le second
    exact .inr ⟨(not_sign_of_digit first).1, by omega, by omega⟩
  | plus digit =>
    have := Text.hexDigitValue?_le digit
    exact .inr ⟨by decide, by omega, by omega⟩
  | minus digit => exact .inl ⟨rfl, _, digit, rfl⟩
  | behindBlank blank digit =>
    have := Text.hexDigitValue?_le digit
    refine .inr ⟨?_, by omega, by omega⟩
    intro minus
    rw [minus] at blank
    exact absurd blank (by decide)
  | beforeBlank digit blank =>
    have := Text.hexDigitValue?_le digit
    exact .inr ⟨(not_sign_of_digit digit).1, by omega, by omega⟩

theorem LoosePair.le {a b : Char} {value : Int} (pair : LoosePair a b value) : value ≤ 255 := by
  rcases pair.range with ⟨_, d, _, rfl⟩ | ⟨_, _, most⟩ <;> omega

end Decimal

end Palette
