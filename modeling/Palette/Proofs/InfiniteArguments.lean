import Mathlib.Data.List.Forall2
import Palette.Theme.Value

/-!
Which color functions have an infinite argument. The numbers that a function rounds to bytes are
listed in the order in which it does so; the function fails for infinity exactly if the first of
them that cannot be rounded is infinite.
-/

namespace Palette

namespace Rgba

variable {ε α : Type}

def error? : Except ε α → Option ε
  | .ok _ => none
  | .error e => some e

theorem error?_eq_some {result : Except ε α} {e : ε} :
    error? result = some e ↔ result = .error e := by
  cases result <;> simp [error?]

/-- A number that an argument is rounded from. A percentage is one of 255. -/
def scaled? (scale : Float → Float) (text : String) : Option Float :=
  match percentage? text with
  | some percent => (Decimal.read? percent).map (· * 255 / 100)
  | none => (Decimal.read? text).map scale

/-- The result of rounding a number to a byte, if there is one. -/
inductive Rounds : Option Float → Except ArgumentError UInt8 → Prop
  | number (x : Float) : Rounds (some x) (clamp x)
  | unreadable {e : ArgumentError} (other : e ≠ .infinite) : Rounds none (.error e)

theorem number_rounds (scale : Float → Float) (text : String) :
    Rounds ((Decimal.read? text).map scale) (number text >>= fun x => clamp (scale x)) := by
  unfold number
  cases Decimal.read? text with
  | none => exact .unreadable nofun
  | some x => exact .number (scale x)

theorem rounds_scaled {scale : Float → Float} {text : String}
    {result : Except ArgumentError UInt8}
    (percent : ∀ front, percentage? text = some front →
      result = number front >>= fun x => clamp (x * 255 / 100))
    (whole : percentage? text = none → result = number text >>= fun x => clamp (scale x)) :
    Rounds (scaled? scale text) result := by
  unfold scaled?
  cases cut : percentage? text with
  | none =>
      rw [whole cut]
      exact number_rounds scale text
  | some front =>
      rw [percent front cut]
      exact number_rounds (· * 255 / 100) front

theorem channel_rounds (text : String) : Rounds (scaled? id text) (channel text) :=
  rounds_scaled (fun front cut => by simp only [channel, cut]) fun cut => by
    simp only [channel, cut, id]

theorem opacity_rounds (text : String) : Rounds (scaled? (· * 255) text) (opacity text) :=
  rounds_scaled (fun front cut => by simp only [opacity, cut]) fun cut => by
    simp only [opacity, cut]

/-! The first number that cannot be rounded. -/

/-- The first of some numbers that cannot be rounded is infinite. -/
inductive Overflows : List (Option Float) → Prop
  | here {x : Float} {rest : List (Option Float)} {negative : Bool}
      (infinite : Decimal.Binary.ofFloat x = .infinite negative) : Overflows (some x :: rest)
  | behind {x : Float} {rest : List (Option Float)} {negative : Bool} {mantissa : Nat}
      {exponent : Int} (finite : Decimal.Binary.ofFloat x = .finite negative mantissa exponent)
      (later : Overflows rest) : Overflows (some x :: rest)

def firstError (results : List (Except ε α)) : Option ε := results.findSome? error?

theorem firstError_cons (result : Except ε α) (rest : List (Except ε α)) :
    firstError (result :: rest) = (error? result).or (firstError rest) := by
  rw [firstError, List.findSome?_cons]
  cases error? result <;> rfl

theorem overflows_cons_iff {x : Float} {rest : List (Option Float)} :
    Overflows (some x :: rest) ↔
      clamp x = .error .infinite ∨ (∃ n, clamp x = .ok n) ∧ Overflows rest := by
  unfold clamp Decimal.round
  constructor
  · rintro (infinite | ⟨finite, later⟩)
    · exact .inl (by rw [infinite])
    · exact .inr ⟨⟨_, by rw [finite]⟩, later⟩
  · rintro (infinite | ⟨⟨n, finite⟩, later⟩)
    · cases taken : Decimal.Binary.ofFloat x with
      | finite negative mantissa exponent => simp [taken] at infinite
      | infinite negative => exact .here taken
      | nan => simp [taken] at infinite
    · cases taken : Decimal.Binary.ofFloat x with
      | finite negative mantissa exponent => exact .behind taken later
      | infinite negative => simp [taken] at finite
      | nan => simp [taken] at finite

theorem firstError_eq_infinite {numbers : List (Option Float)}
    {results : List (Except ArgumentError UInt8)} (rounds : List.Forall₂ Rounds numbers results) :
    firstError results = some .infinite ↔ Overflows numbers := by
  induction rounds with
  | nil => exact iff_of_false (by simp [firstError]) nofun
  | @cons number result _ _ first _ ih =>
      rw [firstError_cons]
      cases first with
      | number x =>
          rw [overflows_cons_iff, ← ih]
          cases clamp x <;> simp [error?]
      | unreadable other => exact iff_of_false (by simpa [error?] using other) nofun

/-! The numbers of the color functions. -/

/-- The channels fail for the first of some numbers that cannot be rounded. -/
def RoundsTo (numbers : List (Option Float))
    (channels : Except ArgumentError (UInt8 × UInt8 × UInt8)) : Prop :=
  ∃ results, List.Forall₂ Rounds numbers results ∧ error? channels = firstError results

def rgbNumbers (red green blue : String) : List (Option Float) :=
  [scaled? id red, scaled? id green, scaled? id blue]

def hslNumbers (hue saturation lightness : String) : List (Option Float) :=
  match Decimal.read? (dropDegrees hue), fraction lightness, fraction saturation with
  | some degrees, .ok light, .ok strength =>
      let (red, green, blue) := levels (Decimal.remainder degrees 360 / 360) light strength
      [some (red * 255), some (green * 255), some (blue * 255)]
  | _, _, _ => [none]

theorem error?_three (first second third : Except ArgumentError UInt8) :
    error? (do return (← first, ← second, ← third)) = firstError [first, second, third] := by
  cases first <;> cases second <;> cases third <;> rfl

theorem rgb_roundsTo (red green blue : String) :
    RoundsTo (rgbNumbers red green blue) (rgb red green blue) := by
  refine ⟨[channel red, channel green, channel blue], ?_, error?_three _ _ _⟩
  exact .cons (channel_rounds red) (.cons (channel_rounds green) (.cons (channel_rounds blue) .nil))

theorem fraction_ne_infinite (text : String) : fraction text ≠ .error .infinite := by
  unfold fraction
  split
  next percent _ =>
    unfold number
    cases Decimal.read? percent <;> simp [bind, Except.bind, pure, Except.pure]
  next => simp

theorem roundsTo_none {channels : Except ArgumentError (UInt8 × UInt8 × UInt8)}
    {e : ArgumentError} (other : e ≠ .infinite) (failed : channels = .error e) :
    RoundsTo [none] channels :=
  ⟨[.error e], .cons (.unreadable other) .nil, by rw [failed]; rfl⟩

theorem hsl_roundsTo (hue saturation lightness : String) :
    RoundsTo (hslNumbers hue saturation lightness) (hsl hue saturation lightness) := by
  unfold hslNumbers hsl number
  cases Decimal.read? (dropDegrees hue) with
  | none =>
      have other : ArgumentError.notNumber (dropDegrees hue) ≠ .infinite := nofun
      exact roundsTo_none other rfl
  | some degrees =>
  cases lightRead : fraction lightness with
  | error e =>
      have other : e ≠ .infinite := fun infinite =>
        fraction_ne_infinite lightness (infinite ▸ lightRead)
      exact roundsTo_none other rfl
  | ok light =>
  cases strengthRead : fraction saturation with
  | error e =>
      have other : e ≠ .infinite := fun infinite =>
        fraction_ne_infinite saturation (infinite ▸ strengthRead)
      exact roundsTo_none other rfl
  | ok strength =>
      dsimp only [bind, Except.bind]
      generalize levels (Decimal.remainder degrees 360 / 360) light strength = rounded
      obtain ⟨red, green, blue⟩ := rounded
      exact ⟨[clamp (red * 255), clamp (green * 255), clamp (blue * 255)],
        .cons (.number _) (.cons (.number _) (.cons (.number _) .nil)), error?_three _ _ _⟩

def roundedNumbers : List (String × (String → String → String → List (Option Float))) :=
  [("rgb", rgbNumbers), ("rgba", rgbNumbers), ("hsl", hslNumbers), ("hsla", hslNumbers)]

theorem functions_lookup_cases (name : String) :
    (functions.lookup name = none ∧ roundedNumbers.lookup name = none) ∨
      ∃ function numbers, functions.lookup name = some function ∧
        roundedNumbers.lookup name = some numbers ∧
        ∀ first second third,
          RoundsTo (numbers first second third) (function first second third) := by
  by_cases isRgb : name = "rgb"
  · exact .inr ⟨rgb, rgbNumbers, by rw [isRgb]; rfl, by rw [isRgb]; rfl, rgb_roundsTo⟩
  by_cases isRgba : name = "rgba"
  · exact .inr ⟨rgb, rgbNumbers, by rw [isRgba]; rfl, by rw [isRgba]; rfl, rgb_roundsTo⟩
  by_cases isHsl : name = "hsl"
  · exact .inr ⟨hsl, hslNumbers, by rw [isHsl]; rfl, by rw [isHsl]; rfl, hsl_roundsTo⟩
  by_cases isHsla : name = "hsla"
  · exact .inr ⟨hsl, hslNumbers, by rw [isHsla]; rfl, by rw [isHsla]; rfl, hsl_roundsTo⟩
  · refine .inl ⟨?_, ?_⟩ <;>
      simp [functions, roundedNumbers, List.lookup_cons, beq_false_of_ne isRgb,
        beq_false_of_ne isRgba, beq_false_of_ne isHsl, beq_false_of_ne isHsla]

def alphaNumbers (alpha : Option String) : List (Option Float) :=
  alpha.toList.map (scaled? (· * 255))

theorem alpha_rounds (alpha : Option String) :
    List.Forall₂ Rounds (alphaNumbers alpha) (alpha.toList.map opacity) := by
  cases alpha with
  | none => exact .nil
  | some text => exact .cons (opacity_rounds text) .nil

theorem firstError_append (first second : List (Except ε α)) :
    firstError (first ++ second) = (firstError first).or (firstError second) :=
  List.findSome?_append

end Rgba

namespace Theme

open Rgba

theorem error?_functionColor (channels : Except ArgumentError (UInt8 × UInt8 × UInt8))
    (alpha : Option String) :
    error? (functionColor channels alpha) =
      (error? channels).or (firstError (alpha.toList.map opacity)) := by
  cases channels with
  | error e => rfl
  | ok bytes =>
      cases alpha with
      | none => rfl
      | some text =>
          cases read : opacity text <;>
            simp [functionColor, read, error?, firstError, bind, Except.bind, pure, Except.pure]

/-- A color function fails for infinity exactly if the first of its numbers that cannot be rounded
is infinite. -/
theorem functionColor_eq_infinite {numbers : List (Option Float)}
    {channels : Except ArgumentError (UInt8 × UInt8 × UInt8)}
    (rounds : RoundsTo numbers channels) (alpha : Option String) :
    functionColor channels alpha = .error .infinite ↔
      Overflows (numbers ++ alphaNumbers alpha) := by
  obtain ⟨results, rounded, failed⟩ := rounds
  rw [← error?_eq_some, error?_functionColor, failed, ← firstError_append]
  exact firstError_eq_infinite (List.rel_append rounded (alpha_rounds alpha))

end Theme

end Palette
