import Palette.Proofs.WalkFailures

/-!
Parts of the walk over a style sheet that only read. Names, preludes and values are read without a
word: what is wrong with them is warned about by the walk over the item they belong to, and none of
them is a defect of the style sheet as a whole.
-/

namespace Palette.Theme

open Stylesheet

namespace Walk

variable {α β : Type} {first : Walk α} {next : α → Walk β} {a : α}

/-- The walk warns about nothing and does not end for a defect. -/
structure Quiet (w : Walk α) : Prop where
  silent : w.warnings = []
  blameless : ∀ cause line column, w.outcome ≠ .error (.defect cause line column)

theorem quiet_pure : (pure a : Walk α).Quiet := ⟨rfl, nofun⟩

theorem quiet_fail {failure : Failure} (escaped : failure.isDefect = false) :
    (Walk.fail failure : Walk α).Quiet := by
  refine ⟨rfl, fun cause line column ended => ?_⟩
  cases Except.error.inj ended
  cases escaped

theorem Quiet.bind (h : first.Quiet) (hn : ∀ a, (next a).Quiet) : (first >>= next).Quiet := by
  have same : first >>= next = Walk.bind first next := rfl
  cases outcome : first.outcome with
  | error failure =>
      refine ⟨by simp only [same, Walk.bind, outcome, h.silent], fun cause line column ended => ?_⟩
      rw [outcome_bind_error outcome] at ended
      obtain rfl := Except.error.inj ended
      exact h.blameless cause line column outcome
  | ok a =>
      refine ⟨by simp only [same, Walk.bind, outcome, h.silent, (hn a).silent, List.append_nil], ?_⟩
      rw [outcome_bind_ok outcome]
      exact (hn a).blameless

end Walk

open Walk

variable {source : List UInt8}

/-! Reading names and values. -/

def text? (source : List UInt8) (n : Node) : Option String := Text.decode? (n.bytes source)

theorem textOf_quiet (n : Node) : (textOf source n).Quiet := by
  unfold textOf
  split
  · exact quiet_pure
  · exact quiet_fail rfl

theorem textOf_eq_ok {n : Node} {text : String} :
    (textOf source n).outcome = .ok text ↔ text? source n = some text := by
  unfold textOf text?
  split
  next other decoded =>
    change Except.ok other = Except.ok text ↔ _
    rw [decoded, Except.ok.injEq, Option.some.injEq]
  next decoded => simp [decoded, Walk.fail]

theorem keywordOf_quiet (n : Node) : (keywordOf source n).Quiet := by
  unfold keywordOf
  split
  · exact (textOf_quiet _).bind fun _ => quiet_pure
  · exact quiet_pure

theorem preludeParts_quiet (nodes : List Node) : (preludeParts source nodes).Quiet := by
  induction nodes with
  | nil => exact quiet_pure
  | cons n rest ih => exact (textOf_quiet n).bind fun _ => ih.bind fun _ => quiet_pure

theorem preludeOf_quiet (n : Node) : (preludeOf source n).Quiet :=
  (preludeParts_quiet _).bind fun _ => quiet_pure

theorem nameOf_quiet (declaration : Node) : (nameOf source declaration).Quiet := by
  unfold nameOf
  split
  · exact textOf_quiet _
  · exact quiet_pure

theorem hexColor_quiet (text : String) : (hexColor text).Quiet := by
  unfold hexColor
  split
  · exact quiet_pure
  · exact quiet_fail rfl
  · exact quiet_pure

theorem calledColor_quiet (call : Node) (name : String) :
    (calledColor source call name).Quiet := by
  unfold calledColor
  split
  next arguments function listed known =>
    refine (textOf_quiet arguments).bind fun text => ?_
    split
    · split
      · exact quiet_pure
      · exact quiet_fail rfl
      · exact quiet_pure
    · exact quiet_pure
  next => exact quiet_pure

theorem callColor_quiet (call : Node) : (callColor source call).Quiet := by
  refine Quiet.bind ?_ fun name => calledColor_quiet call name
  unfold functionName
  split
  · exact (textOf_quiet _).bind fun _ => quiet_pure
  · exact quiet_pure

theorem colorOf_quiet (values : List Node) : (colorOf source values).Quiet := by
  unfold colorOf
  split
  next value =>
    refine (textOf_quiet value).bind fun text => ?_
    dsimp only
    split
    · exact hexColor_quiet _
    · split
      · exact callColor_quiet value
      · split
        · split
          · exact quiet_pure
          · split <;> exact quiet_pure
        · exact quiet_pure
  next => exact quiet_pure

theorem isReference_quiet (value : Node) : (isReference source value).Quiet := by
  unfold isReference
  split
  · exact (textOf_quiet _).bind fun _ => quiet_pure
  · exact quiet_pure

theorem referenceOf_quiet (call : Node) : (referenceOf source call).Quiet := by
  unfold referenceOf
  split
  · exact (textOf_quiet _).bind fun _ => quiet_pure
  · exact quiet_pure

theorem ruleColor_quiet (values : List Node) : (ruleColor source values).Quiet :=
  (colorOf_quiet values).bind fun _ => quiet_pure

theorem ruleOf_quiet (values : List Node) : (ruleOf source values).Quiet := by
  unfold ruleOf
  split
  next value =>
    refine (isReference_quiet value).bind fun reference => ?_
    cases reference
    · exact ruleColor_quiet [value]
    · exact referenceOf_quiet value
  next => exact ruleColor_quiet values

end Palette.Theme
