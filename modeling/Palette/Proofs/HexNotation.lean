import Mathlib.Tactic.ByContra
import Palette.Proofs.HexRange

/-!
Which texts are hexadecimal colors. The notation is that of three, four, six or eight digits behind
an optional hash. All these texts are read, and as they should be; but since two characters are read
as a number in text, one of them may also be a sign or a blank, and a digit may be of any script.
Where every pair is read so, the text is no hexadecimal color and yet gives one, or, with a number
below zero, an error that does not keep the place.
-/

namespace Palette

/-! ### Digits -/

/-- The value of a digit from `0` to `9` or of a letter from `a` to `f`, large or small. -/
def Text.asciiDigit? (c : Char) : Option Nat := "0123456789abcdef".toList.idxOf? c.toLower

theorem Text.hexDigitValue?_ascii {c : Char} (ascii : c.toNat < 128) :
    hexDigitValue? c = asciiDigit? c := by
  have table : ∀ n < 128, hexDigitValue? (Char.ofNat n) = asciiDigit? (Char.ofNat n) := by
    decide +kernel
  have value := table c.toNat ascii
  rwa [Char.ofNat_toNat] at value

theorem Text.ascii_of_toLower {c : Char} (lowered : c.toLower.toNat < 128) : c.toNat < 128 := by
  unfold Char.toLower at lowered
  split at lowered
  next upper =>
    have range : 65 ≤ c.val.toNat ∧ c.val.toNat ≤ 90 := upper
    change c.val.toNat < 128
    omega
  next => exact lowered

theorem Text.ascii_of_asciiDigit? {c : Char} {d : Nat} (digit : asciiDigit? c = some d) :
    c.toNat < 128 := by
  have member : c.toLower ∈ "0123456789abcdef".toList := by
    by_contra absent
    rw [asciiDigit?, List.idxOf?_eq_none_iff.mpr absent] at digit
    cases digit
  have plain : "0123456789abcdef".toList.all (·.toNat < 128) = true := by decide
  exact ascii_of_toLower (of_decide_eq_true (List.all_eq_true.mp plain _ member))

namespace Decimal

/-- Two digits and the number that they denote. -/
def DigitPair (a b : Char) (value : Int) : Prop :=
  ∃ high low : Nat, Text.asciiDigit? a = some high ∧ Text.asciiDigit? b = some low ∧
    value = 16 * high + low

def IsPlain (c : Char) : Prop := c.toNat < 128 ∧ c ≠ '+' ∧ c ≠ '-' ∧ isNumberBlank c = false

theorem LoosePair.digitPair {a b : Char} {value : Int} (plain : IsPlain a) (plainToo : IsPlain b)
    (pair : LoosePair a b value) : DigitPair a b value := by
  obtain ⟨ascii, noPlus, noMinus, noBlank⟩ := plain
  obtain ⟨asciiToo, _, _, noBlankToo⟩ := plainToo
  cases pair with
  | @digits _ _ high low first second =>
    rw [Text.hexDigitValue?_ascii ascii] at first
    rw [Text.hexDigitValue?_ascii asciiToo] at second
    exact ⟨high, low, first, second, rfl⟩
  | plus digit => exact absurd rfl noPlus
  | minus digit => exact absurd rfl noMinus
  | behindBlank blank digit =>
    rw [noBlank] at blank
    cases blank
  | beforeBlank digit blank =>
    rw [noBlankToo] at blank
    cases blank

theorem DigitPair.loose {a b : Char} {value : Int} (pair : DigitPair a b value) :
    LoosePair a b value := by
  obtain ⟨high, low, first, second, rfl⟩ := pair
  apply LoosePair.digits
  · rw [Text.hexDigitValue?_ascii (Text.ascii_of_asciiDigit? first), first]
  · rw [Text.hexDigitValue?_ascii (Text.ascii_of_asciiDigit? second), second]

end Decimal

namespace Rgba

open Decimal

/-! ### Colors -/

/-- The channels that the digits of a color denote, where `pair` says what two characters denote. In
the short forms each character counts twice, and without an alpha a color is opaque. -/
inductive Denotes (pair : Char → Char → Int → Prop) : List Char → Int → Int → Int → Int → Prop
  | short {r g b : Char} {red green blue : Int} (first : pair r r red) (second : pair g g green)
      (third : pair b b blue) : Denotes pair [r, g, b] red green blue 255
  | shortAlpha {r g b a : Char} {red green blue alpha : Int} (first : pair r r red)
      (second : pair g g green) (third : pair b b blue) (fourth : pair a a alpha) :
      Denotes pair [r, g, b, a] red green blue alpha
  | long {r r' g g' b b' : Char} {red green blue : Int} (first : pair r r' red)
      (second : pair g g' green) (third : pair b b' blue) :
      Denotes pair [r, r', g, g', b, b'] red green blue 255
  | longAlpha {r r' g g' b b' a a' : Char} {red green blue alpha : Int} (first : pair r r' red)
      (second : pair g g' green) (third : pair b b' blue) (fourth : pair a a' alpha) :
      Denotes pair [r, r', g, g', b, b', a, a'] red green blue alpha

theorem Denotes.mono {pair other : Char → Char → Int → Prop} {digits : List Char}
    (weaker : ∀ a ∈ digits, ∀ b ∈ digits, ∀ value, pair a b value → other a b value)
    {red green blue alpha : Int} (denotes : Denotes pair digits red green blue alpha) :
    Denotes other digits red green blue alpha := by
  cases denotes with
  | short first second third =>
    apply Denotes.short
    · exact weaker _ (by simp) _ (by simp) _ first
    · exact weaker _ (by simp) _ (by simp) _ second
    · exact weaker _ (by simp) _ (by simp) _ third
  | shortAlpha first second third fourth =>
    apply Denotes.shortAlpha
    · exact weaker _ (by simp) _ (by simp) _ first
    · exact weaker _ (by simp) _ (by simp) _ second
    · exact weaker _ (by simp) _ (by simp) _ third
    · exact weaker _ (by simp) _ (by simp) _ fourth
  | long first second third =>
    apply Denotes.long
    · exact weaker _ (by simp) _ (by simp) _ first
    · exact weaker _ (by simp) _ (by simp) _ second
    · exact weaker _ (by simp) _ (by simp) _ third
  | longAlpha first second third fourth =>
    apply Denotes.longAlpha
    · exact weaker _ (by simp) _ (by simp) _ first
    · exact weaker _ (by simp) _ (by simp) _ second
    · exact weaker _ (by simp) _ (by simp) _ third
    · exact weaker _ (by simp) _ (by simp) _ fourth

theorem ofPairs_opaque_iff (r r' g g' b b' : Char) (result : Except Faults Rgba) :
    ofPairs [r, r', g, g', b, b'] = some result ↔
      ∃ red, LoosePair r r' red ∧ ∃ green, LoosePair g g' green ∧ ∃ blue, LoosePair b b' blue ∧
        ofInts red green blue 255 = result := by
  simp [ofPairs, Option.bind_eq_some_iff, readHex?_eq_some_iff]

theorem ofPairs_alpha_iff (r r' g g' b b' a a' : Char) (result : Except Faults Rgba) :
    ofPairs [r, r', g, g', b, b', a, a'] = some result ↔
      ∃ red, LoosePair r r' red ∧ ∃ green, LoosePair g g' green ∧ ∃ blue, LoosePair b b' blue ∧
        ∃ alpha, LoosePair a a' alpha ∧ ofInts red green blue alpha = result := by
  simp [ofPairs, Option.bind_eq_some_iff, readHex?_eq_some_iff]

theorem ofPairs_eq_some_iff (digits : List Char) (result : Except Faults Rgba) :
    ofPairs (fullDigits digits) = some result ↔
      ∃ red green blue alpha, Denotes LoosePair digits red green blue alpha ∧
        result = ofInts red green blue alpha := by
  match digits with
  | [r, g, b] =>
    have doubled : fullDigits [r, g, b] = [r, r, g, g, b, b] := rfl
    rw [doubled, ofPairs_opaque_iff]
    constructor
    · rintro ⟨red, first, green, second, blue, third, rfl⟩
      exact ⟨red, green, blue, 255, .short first second third, rfl⟩
    · rintro ⟨red, green, blue, alpha, denotes, rfl⟩
      cases denotes with
      | short first second third => exact ⟨red, first, green, second, blue, third, rfl⟩
  | [r, g, b, a] =>
    have doubled : fullDigits [r, g, b, a] = [r, r, g, g, b, b, a, a] := rfl
    rw [doubled, ofPairs_alpha_iff]
    constructor
    · rintro ⟨red, first, green, second, blue, third, alpha, fourth, rfl⟩
      exact ⟨red, green, blue, alpha, .shortAlpha first second third fourth, rfl⟩
    · rintro ⟨red, green, blue, alpha, denotes, rfl⟩
      cases denotes with
      | shortAlpha first second third fourth =>
        exact ⟨red, first, green, second, blue, third, alpha, fourth, rfl⟩
  | [r, r', g, g', b, b'] =>
    have kept : fullDigits [r, r', g, g', b, b'] = [r, r', g, g', b, b'] := rfl
    rw [kept, ofPairs_opaque_iff]
    constructor
    · rintro ⟨red, first, green, second, blue, third, rfl⟩
      exact ⟨red, green, blue, 255, .long first second third, rfl⟩
    · rintro ⟨red, green, blue, alpha, denotes, rfl⟩
      cases denotes with
      | long first second third => exact ⟨red, first, green, second, blue, third, rfl⟩
  | [r, r', g, g', b, b', a, a'] =>
    have kept : fullDigits [r, r', g, g', b, b', a, a'] = [r, r', g, g', b, b', a, a'] := rfl
    rw [kept, ofPairs_alpha_iff]
    constructor
    · rintro ⟨red, first, green, second, blue, third, alpha, fourth, rfl⟩
      exact ⟨red, green, blue, alpha, .longAlpha first second third fourth, rfl⟩
    · rintro ⟨red, green, blue, alpha, denotes, rfl⟩
      cases denotes with
      | longAlpha first second third fourth =>
        exact ⟨red, first, green, second, blue, third, alpha, fourth, rfl⟩
  | [] | [_] | [_, _] | [_, _, _, _, _] | [_, _, _, _, _, _, _]
  | _ :: _ :: _ :: _ :: _ :: _ :: _ :: _ :: _ :: _ =>
    -- No color has so many digits.
    apply iff_of_false
    · simp [fullDigits, ofPairs]
    · rintro ⟨_, _, _, _, denotes, _⟩
      cases denotes

theorem Denotes.unique {digits : List Char} {red green blue alpha red' green' blue' alpha' : Int}
    (denotes : Denotes LoosePair digits red green blue alpha)
    (again : Denotes LoosePair digits red' green' blue' alpha') :
    red = red' ∧ green = green' ∧ blue = blue' ∧ alpha = alpha' := by
  cases denotes with
  | short first second third =>
    cases again with
    | short first' second' third' =>
      exact ⟨first.unique first', second.unique second', third.unique third', rfl⟩
  | shortAlpha first second third fourth =>
    cases again with
    | shortAlpha first' second' third' fourth' =>
      exact ⟨first.unique first', second.unique second', third.unique third',
        fourth.unique fourth'⟩
  | long first second third =>
    cases again with
    | long first' second' third' =>
      exact ⟨first.unique first', second.unique second', third.unique third', rfl⟩
  | longAlpha first second third fourth =>
    cases again with
    | longAlpha first' second' third' fourth' =>
      exact ⟨first.unique first', second.unique second', third.unique third',
        fourth.unique fourth'⟩

/-! ### Outcomes -/

/-- The digits denote the channels of a color. -/
def DenotesColor (pair : Char → Char → Int → Prop) (digits : List Char) (color : Rgba) : Prop :=
  Denotes pair digits color.red.toNat color.green.toNat color.blue.toNat color.alpha.toNat

theorem byte_eq_ok_iff (value : Int) (b : UInt8) : byte value = .ok b ↔ value = b.toNat := by
  have small := b.toNat_lt
  unfold byte
  constructor
  · intro fits
    split at fits
    next => cases fits
    next least =>
      split at fits
      next => cases fits
      next most =>
        obtain rfl := Except.ok.inj fits
        rw [UInt8.toNat_ofNat', Nat.mod_eq_of_lt (by omega)]
        omega
  · intro same
    subst same
    rw [if_neg (by omega), if_neg (by omega), Int.toNat_natCast, UInt8.ofNat_toNat]

theorem ofInts_eq_ok_iff (red green blue alpha : Int) (color : Rgba) :
    ofInts red green blue alpha = .ok color ↔ red = color.red.toNat ∧ green = color.green.toNat ∧
      blue = color.blue.toNat ∧ alpha = color.alpha.toNat := by
  rw [← byte_eq_ok_iff, ← byte_eq_ok_iff, ← byte_eq_ok_iff, ← byte_eq_ok_iff, ofInts]
  obtain ⟨r, g, b, a⟩ := color
  cases byte red <;> cases byte green <;> cases byte blue <;> cases byte alpha <;> simp [ofResults]

theorem byte_of_le {value : Int} (most : value ≤ 255) :
    (∃ f, byte value = .error f) ↔ value < 0 := by
  unfold byte
  by_cases below : value < 0
  · simp [below]
  · simp [below, show ¬ value > 255 by omega]

theorem Denotes.le {digits : List Char} {red green blue alpha : Int}
    (denotes : Denotes LoosePair digits red green blue alpha) :
    red ≤ 255 ∧ green ≤ 255 ∧ blue ≤ 255 ∧ alpha ≤ 255 := by
  cases denotes with
  | short first second third | long first second third =>
    exact ⟨first.le, second.le, third.le, Int.le_refl 255⟩
  | shortAlpha first second third fourth | longAlpha first second third fourth =>
    exact ⟨first.le, second.le, third.le, fourth.le⟩

/-- A color that is denoted is out of range if one of its channels is below zero. -/
theorem Denotes.ofInts_eq_error {digits : List Char} {red green blue alpha : Int}
    (denotes : Denotes LoosePair digits red green blue alpha) :
    (∃ faults, ofInts red green blue alpha = .error faults) ↔
      red < 0 ∨ green < 0 ∨ blue < 0 ∨ alpha < 0 := by
  obtain ⟨redMost, greenMost, blueMost, alphaMost⟩ := denotes.le
  rw [ofInts, ofResults_eq_error, byte_of_le redMost, byte_of_le greenMost, byte_of_le blueMost,
    byte_of_le alphaMost]

section

variable (line column : Int) (text : String)

def outcomeAt : Option (Except Faults Rgba) → Except HexErrorAt Rgba
  | some (.ok color) => .ok color
  | some (.error faults) => .error (.outOfRange faults)
  | none => .error (.invalid text line column)

theorem ofHexAt_eq :
    ofHexAt line column text =
      outcomeAt line column text (ofPairs (fullDigits (dropHash text.toList))) := by
  unfold ofHexAt ofHex
  cases ofPairs (fullDigits (dropHash text.toList)) with
  | none => rfl
  | some result => cases result <;> rfl

theorem outcomeAt_injective : Function.Injective (outcomeAt line column text) := by
  intro first second same
  rcases first with _ | _ | _ <;> rcases second with _ | _ | _ <;> simp_all [outcomeAt]

theorem ofHexAt_eq_iff (read : Option (Except Faults Rgba)) :
    ofHexAt line column text = outcomeAt line column text read ↔
      ofPairs (fullDigits (dropHash text.toList)) = read := by
  rw [ofHexAt_eq, (outcomeAt_injective line column text).eq_iff]

theorem ofHexAt_eq_ok_iff (color : Rgba) :
    ofHexAt line column text = .ok color ↔
      DenotesColor LoosePair (dropHash text.toList) color := by
  rw [show Except.ok color = outcomeAt line column text (some (.ok color)) from rfl,
    ofHexAt_eq_iff, ofPairs_eq_some_iff]
  constructor
  · intro ⟨red, green, blue, alpha, denotes, same⟩
    obtain ⟨rfl, rfl, rfl, rfl⟩ := (ofInts_eq_ok_iff red green blue alpha color).mp same.symm
    exact denotes
  · intro denotes
    exact ⟨_, _, _, _, denotes, ((ofInts_eq_ok_iff _ _ _ _ color).mpr ⟨rfl, rfl, rfl, rfl⟩).symm⟩

theorem ofHexAt_eq_outOfRange_iff :
    (∃ faults, ofHexAt line column text = .error (.outOfRange faults)) ↔
      ∃ red green blue alpha, Denotes LoosePair (dropHash text.toList) red green blue alpha ∧
        (red < 0 ∨ green < 0 ∨ blue < 0 ∨ alpha < 0) := by
  have read : ∀ faults, ofHexAt line column text = .error (.outOfRange faults) ↔
      ofPairs (fullDigits (dropHash text.toList)) = some (.error faults) :=
    fun faults => ofHexAt_eq_iff line column text (some (.error faults))
  constructor
  · intro ⟨faults, failed⟩
    obtain ⟨red, green, blue, alpha, denotes, same⟩ :=
      (ofPairs_eq_some_iff _ _).mp ((read faults).mp failed)
    exact ⟨red, green, blue, alpha, denotes, denotes.ofInts_eq_error.mp ⟨faults, same.symm⟩⟩
  · intro ⟨red, green, blue, alpha, denotes, below⟩
    obtain ⟨faults, failed⟩ := denotes.ofInts_eq_error.mpr below
    exact ⟨faults, (read faults).mpr
      ((ofPairs_eq_some_iff _ _).mpr ⟨red, green, blue, alpha, denotes, failed.symm⟩)⟩

theorem ofHexAt_eq_invalid_iff :
    ofHexAt line column text = .error (.invalid text line column) ↔
      ¬ ∃ red green blue alpha, Denotes LoosePair (dropHash text.toList) red green blue alpha := by
  rw [show Except.error (.invalid text line column) = outcomeAt line column text none from rfl,
    ofHexAt_eq_iff, Option.eq_none_iff_forall_ne_some]
  constructor
  · intro none ⟨red, green, blue, alpha, denotes⟩
    exact none _ ((ofPairs_eq_some_iff _ _).mpr ⟨red, green, blue, alpha, denotes, rfl⟩)
  · intro none result found
    obtain ⟨red, green, blue, alpha, denotes, _⟩ := (ofPairs_eq_some_iff _ _).mp found
    exact none ⟨red, green, blue, alpha, denotes⟩

end

/-- A text is read by the notation: it gives the color that its digits denote, and if they denote
none, the error with the place. -/
def ReadByNotation (line column : Int) (text : String) : Prop :=
  (∀ color, ofHexAt line column text = .ok color ↔
    DenotesColor DigitPair (dropHash text.toList) color) ∧
  ((¬ ∃ red green blue alpha, Denotes DigitPair (dropHash text.toList) red green blue alpha) →
    ofHexAt line column text = .error (.invalid text line column))

theorem Denotes.loose {digits : List Char} {red green blue alpha : Int}
    (denotes : Denotes DigitPair digits red green blue alpha) :
    Denotes LoosePair digits red green blue alpha :=
  denotes.mono fun _ _ _ _ _ pair => pair.loose

theorem readByNotation_iff (line column : Int) (text : String) :
    ReadByNotation line column text ↔
      ∀ red green blue alpha, Denotes LoosePair (dropHash text.toList) red green blue alpha →
        Denotes DigitPair (dropHash text.toList) red green blue alpha := by
  constructor
  · intro ⟨reads, refuses⟩ red green blue alpha denotes
    -- The text is not refused as no color, so its digits denote channels in the notation, too.
    have accepted : ∃ red green blue alpha,
        Denotes DigitPair (dropHash text.toList) red green blue alpha := by
      by_contra none
      exact (ofHexAt_eq_invalid_iff line column text).mp (refuses none)
        ⟨red, green, blue, alpha, denotes⟩
    obtain ⟨_, _, _, _, written⟩ := accepted
    obtain ⟨rfl, rfl, rfl, rfl⟩ := denotes.unique written.loose
    exact written
  · intro strict
    refine ⟨fun color => ?_, fun none => ?_⟩
    · rw [ofHexAt_eq_ok_iff]
      exact ⟨strict _ _ _ _, Denotes.loose⟩
    · rw [ofHexAt_eq_invalid_iff]
      intro ⟨red, green, blue, alpha, denotes⟩
      exact none ⟨red, green, blue, alpha, strict _ _ _ _ denotes⟩

/-- A text gives a color exactly if its digits, read pair by pair as numbers, denote one; a number
below zero makes the color out of range, and a text whose digits denote nothing is refused with its
place. The text is read by the notation exactly if reading it pair by pair finds nothing else in it
than digits, and so is every text of ASCII characters without signs and blanks. -/
theorem ofHexAt_outcomes (line column : Int) (text : String) :
    (∀ color, ofHexAt line column text = .ok color ↔
      DenotesColor LoosePair (dropHash text.toList) color) ∧
    ((∃ faults, ofHexAt line column text = .error (.outOfRange faults)) ↔
      ∃ red green blue alpha, Denotes LoosePair (dropHash text.toList) red green blue alpha ∧
        (red < 0 ∨ green < 0 ∨ blue < 0 ∨ alpha < 0)) ∧
    (ofHexAt line column text = .error (.invalid text line column) ↔
      ¬ ∃ red green blue alpha, Denotes LoosePair (dropHash text.toList) red green blue alpha) ∧
    (ReadByNotation line column text ↔
      ∀ red green blue alpha, Denotes LoosePair (dropHash text.toList) red green blue alpha →
        Denotes DigitPair (dropHash text.toList) red green blue alpha) ∧
    ((∀ c ∈ dropHash text.toList, IsPlain c) → ReadByNotation line column text) := by
  refine ⟨ofHexAt_eq_ok_iff line column text, ofHexAt_eq_outOfRange_iff line column text,
    ofHexAt_eq_invalid_iff line column text, readByNotation_iff line column text, ?_⟩
  intro plain
  apply (readByNotation_iff line column text).mpr
  intro red green blue alpha denotes
  apply denotes.mono
  intro a first b second value pair
  exact pair.digitPair (plain a first) (plain b second)

theorem not_denotes_of_first {c : Char} (noDigit : Text.asciiDigit? c = none) (rest : List Char) :
    ¬ ∃ red green blue alpha, Denotes DigitPair (c :: rest) red green blue alpha := by
  intro ⟨red, green, blue, alpha, denotes⟩
  have first : ∃ b, DigitPair c b red := by
    cases denotes with
    | short first _ _ | shortAlpha first _ _ _ | long first _ _ | longAlpha first _ _ _ =>
      exact ⟨_, first⟩
  obtain ⟨b, high, low, digit, _, _⟩ := first
  rw [noDigit] at digit
  cases digit

/-- Signs are read though the notation has none: one text gives a color, another an error without
the place. -/
theorem ofHexAt_reads_signs :
    ofHexAt 2 3 "#+1+2+3" = .ok ⟨1, 2, 3, 255⟩ ∧ ¬ ReadByNotation 2 3 "#+1+2+3" ∧
      (∃ faults, ofHexAt 2 3 "#-1-2-3" = .error (.outOfRange faults)) ∧
      ¬ ReadByNotation 2 3 "#-1-2-3" := by
  have plus : ofHexAt 2 3 "#+1+2+3" = .ok ⟨1, 2, 3, 255⟩ := rfl
  have minus : ∃ faults, ofHexAt 2 3 "#-1-2-3" = .error (.outOfRange faults) := ⟨_, rfl⟩
  refine ⟨plus, ?_, minus, ?_⟩
  · intro ⟨_, refuses⟩
    have refused := refuses (not_denotes_of_first (by decide) "1+2+3".toList)
    rw [plus] at refused
    cases refused
  · intro ⟨_, refuses⟩
    have refused := refuses (not_denotes_of_first (by decide) "1-2-3".toList)
    obtain ⟨faults, failed⟩ := minus
    rw [failed] at refused
    cases refused

end Rgba

end Palette
