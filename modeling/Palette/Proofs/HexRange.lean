import Palette.Proofs.HexPairs

/-!
Which hexadecimal colors are out of range. A pair of characters is never read as more than a byte
holds, and as less than zero only where a minus stands before a digit. A doubled digit is no such
pair, so the short forms are never out of range.
-/

namespace Palette

namespace Rgba

def IsNegative (pair : Char × Char) : Prop :=
  pair.1 = '-' ∧ ∃ d, Text.hexDigitValue? pair.2 = some d ∧ 0 < d

def pairsOf : List Char → List (Char × Char)
  | a :: b :: rest => (a, b) :: pairsOf rest
  | _ => []

/-- Pairs that are all numbers, some of them below zero. -/
def FallBelow (pairs : List (Char × Char)) : Prop :=
  (∀ pair ∈ pairs, (Decimal.readHex? [pair.1, pair.2]).isSome = true) ∧
    ∃ pair ∈ pairs, IsNegative pair

theorem isNegative_iff {a b : Char} {v : Int} (h : Decimal.readHex? [a, b] = some v) :
    IsNegative (a, b) ↔ v < 0 := by
  rcases (Decimal.loosePair_of_readHex? h).range with ⟨minus, d, digit, rfl⟩ | ⟨other, least, _⟩
  · constructor
    · rintro ⟨_, other, digit', positive⟩
      rw [digit] at digit'
      cases digit'
      omega
    · exact fun below => ⟨minus, d, digit, by omega⟩
  · exact ⟨fun negative => absurd negative.1 other, fun below => absurd least (by omega)⟩

theorem byte_eq_error_iff {a b : Char} {v : Int} (h : Decimal.readHex? [a, b] = some v) :
    (∃ f, byte v = .error f) ↔ IsNegative (a, b) := by
  have most : v ≤ 255 := by
    rcases (Decimal.loosePair_of_readHex? h).range with ⟨_, d, _, rfl⟩ | ⟨_, _, most⟩ <;> omega
  rw [isNegative_iff h, byte]
  by_cases below : v < 0
  · simp [below]
  · simp [below, show ¬ v > 255 by omega]

theorem ofResults_eq_error {red green blue alpha : Except ChannelFault UInt8} :
    (∃ faults, ofResults red green blue alpha = .error faults) ↔
      (∃ f, red = .error f) ∨ (∃ f, green = .error f) ∨ (∃ f, blue = .error f) ∨
        ∃ f, alpha = .error f := by
  cases red <;> cases green <;> cases blue <;> cases alpha <;> simp [ofResults]

theorem ofPairs_eight (r r' g g' b b' a a' : Char) :
    (∃ faults, ofPairs [r, r', g, g', b, b', a, a'] = some (.error faults)) ↔
      FallBelow (pairsOf [r, r', g, g', b, b', a, a']) := by
  cases red : Decimal.readHex? [r, r'] with
  | none => simp [ofPairs, FallBelow, pairsOf, red]
  | some x =>
  cases green : Decimal.readHex? [g, g'] with
  | none => simp [ofPairs, FallBelow, pairsOf, red, green]
  | some y =>
  cases blue : Decimal.readHex? [b, b'] with
  | none => simp [ofPairs, FallBelow, pairsOf, red, green, blue]
  | some z =>
  cases alpha : Decimal.readHex? [a, a'] with
  | none => simp [ofPairs, FallBelow, pairsOf, red, green, blue, alpha]
  | some w =>
  have faulty := @ofResults_eq_error (byte x) (byte y) (byte z) (byte w)
  rw [byte_eq_error_iff red, byte_eq_error_iff green, byte_eq_error_iff blue,
    byte_eq_error_iff alpha] at faulty
  simpa [ofPairs, FallBelow, pairsOf, red, green, blue, alpha, ofInts] using faulty

theorem ofPairs_six (r r' g g' b b' : Char) :
    (∃ faults, ofPairs [r, r', g, g', b, b'] = some (.error faults)) ↔
      FallBelow (pairsOf [r, r', g, g', b, b']) := by
  have full : Decimal.readHex? ['f', 'f'] = some 255 := by decide
  have notNegative : ¬ IsNegative ('f', 'f') := fun negative => absurd negative.1 (by decide)
  have withAlpha : ofPairs [r, r', g, g', b, b', 'f', 'f'] = ofPairs [r, r', g, g', b, b'] := by
    simp [ofPairs, full]
  rw [← withAlpha, ofPairs_eight]
  simp [FallBelow, pairsOf, full, notNegative]

theorem ofPairs_eq_error : ∀ digits : List Char,
    (∃ faults, ofPairs digits = some (.error faults)) ↔
      (digits.length = 6 ∨ digits.length = 8) ∧ FallBelow (pairsOf digits)
  | [r, r', g, g', b, b'] => by simp [ofPairs_six]
  | [r, r', g, g', b, b', a, a'] => by simp [ofPairs_eight]
  | [] | [_] | [_, _] | [_, _, _] | [_, _, _, _] | [_, _, _, _, _] | [_, _, _, _, _, _, _]
  | _ :: _ :: _ :: _ :: _ :: _ :: _ :: _ :: _ :: _ => by simp [ofPairs]

theorem pairsOf_doubled (digits : List Char) :
    pairsOf (digits.flatMap fun d => [d, d]) = digits.map fun d => (d, d) := by
  induction digits with
  | nil => rfl
  | cons d rest ih => simp only [List.flatMap_cons, List.cons_append, List.nil_append, pairsOf, ih,
      List.map_cons]

theorem not_fallBelow_doubled (digits : List Char) :
    ¬ FallBelow (pairsOf (digits.flatMap fun d => [d, d])) := by
  rintro ⟨_, pair, member, minus, d, digit, _⟩
  rw [pairsOf_doubled] at member
  obtain ⟨c, _, rfl⟩ := List.mem_map.1 member
  have noDigit : Text.hexDigitValue? '-' = none := by decide
  rw [show c = '-' from minus, noDigit] at digit
  cases digit

/-- A color in the long form with a pair that is below zero. -/
def HasNegativePair (text : String) : Prop :=
  ((dropHash text.toList).length = 6 ∨ (dropHash text.toList).length = 8) ∧
    FallBelow (pairsOf (dropHash text.toList))

theorem ofHex_outOfRange_iff (text : String) :
    (∃ faults, ofHex text = .error (.outOfRange faults)) ↔ HasNegativePair text := by
  have outer : (∃ faults, ofHex text = .error (.outOfRange faults)) ↔
      ∃ faults, ofPairs (fullDigits (dropHash text.toList)) = some (.error faults) := by
    unfold ofHex
    split <;> simp_all
  rw [outer, ofPairs_eq_error, HasNegativePair]
  generalize dropHash text.toList = digits
  by_cases short : digits.length = 3 ∨ digits.length = 4
  · rw [fullDigits, if_pos short]
    refine iff_of_false (fun fallen => not_fallBelow_doubled digits fallen.2) fun fallen => ?_
    omega
  · rw [fullDigits, if_neg short]

end Rgba

end Palette
