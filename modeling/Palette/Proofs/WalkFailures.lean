import Palette.Proofs.TextDecoding
import Palette.Theme.Parse

/-!
How walks over style sheets end. A walk that ends early does so for a defect of the style sheet as a
whole, or escapes with something else. Over a tree whose nodes all cover texts, reading keywords,
names and preludes never ends a walk.
-/

namespace Palette.Theme

open Stylesheet

def Failure.isDefect : Failure → Bool
  | .defect _ _ _ => true
  | _ => false

namespace Walk

variable {α β : Type} {first : Walk α} {next : α → Walk β} {P Q : Prop}

/-- The walk ends early by something else than a defect. -/
def Escapes (w : Walk α) : Prop := ∃ failure, w.outcome = .error failure ∧ failure.isDefect = false

/-- The walk escapes exactly if `P`, and gives a result otherwise. -/
structure EscapesIff (w : Walk α) (P : Prop) : Prop where
  escapes : P → w.Escapes
  succeeds : ¬ P → ∃ a, w.outcome = .ok a

theorem outcome_bind_ok {a : α} (ok : first.outcome = .ok a) :
    (first >>= next).outcome = (next a).outcome := by
  change (Walk.bind first next).outcome = _
  simp only [Walk.bind, ok]

theorem outcome_bind_error {failure : Failure} (error : first.outcome = .error failure) :
    (first >>= next).outcome = .error failure := by
  change (Walk.bind first next).outcome = _
  simp only [Walk.bind, error]

theorem escapes_bind_iff :
    (first >>= next).Escapes ↔
      first.Escapes ∨ ∃ a, first.outcome = .ok a ∧ (next a).Escapes := by
  cases ended : first.outcome with
  | ok a => simp [Escapes, outcome_bind_ok ended, ended]
  | error failure => simp [Escapes, outcome_bind_error ended, ended]

theorem EscapesIff.escapes_iff {w : Walk α} (h : w.EscapesIff P) : w.Escapes ↔ P := by
  refine ⟨fun ⟨failure, error, _⟩ => ?_, h.escapes⟩
  by_contra other
  obtain ⟨a, ok⟩ := h.succeeds other
  rw [ok] at error
  cases error

theorem EscapesIff.congr {w : Walk α} (h : w.EscapesIff P) (same : P ↔ Q) : w.EscapesIff Q :=
  ⟨fun q => h.escapes (same.2 q), fun other => h.succeeds (mt same.1 other)⟩

theorem EscapesIff.bind (h : first.EscapesIff P)
    (hn : ∀ a, first.outcome = .ok a → (next a).EscapesIff Q) :
    (first >>= next).EscapesIff (P ∨ Q) := by
  by_cases p : P
  · obtain ⟨failure, error, escaped⟩ := h.escapes p
    exact ⟨fun _ => ⟨failure, outcome_bind_error error, escaped⟩,
      fun other => absurd (.inl p) other⟩
  · obtain ⟨a, ok⟩ := h.succeeds p
    have rest := hn a ok
    simp only [p, false_or]
    exact ⟨fun q => escapes_bind_iff.2 (.inr ⟨a, ok, rest.escapes q⟩),
      fun other => (rest.succeeds other).imp fun b ended => (outcome_bind_ok ok).trans ended⟩

/-- A walk that gives a result whatever it walks over. -/
abbrev Succeeds (w : Walk α) : Prop := w.EscapesIff False

theorem succeeds_pure (a : α) : (pure a : Walk α).Succeeds :=
  ⟨False.elim, fun _ => ⟨a, rfl⟩⟩

theorem Succeeds.bind (h : first.Succeeds)
    (hn : ∀ a, first.outcome = .ok a → (next a).EscapesIff Q) : (first >>= next).EscapesIff Q :=
  (EscapesIff.bind h hn).congr (or_iff_right id)

theorem EscapesIff.andThen (h : first.EscapesIff P) (hn : ∀ a, (next a).Succeeds) :
    (first >>= next).EscapesIff P :=
  (h.bind fun a _ => hn a).congr (or_iff_left id)

theorem escapes_bind_ok {a : α} (ok : first.outcome = .ok a) :
    (first >>= next).Escapes ↔ (next a).Escapes := by
  rw [Escapes, outcome_bind_ok ok, Escapes]

theorem not_escapes_iff {w : Walk α} :
    ¬ w.Escapes ↔ (∃ a, w.outcome = .ok a) ∨
      ∃ cause line column, w.outcome = .error (.defect cause line column) := by
  unfold Escapes
  cases w.outcome with
  | ok a => simp
  | error failure => cases failure <;> simp [Failure.isDefect]

theorem EscapesIff.escapes_bind_iff (h : first.EscapesIff P)
    (hn : ∀ a, first.outcome = .ok a → ¬ (next a).Escapes) : (first >>= next).Escapes ↔ P := by
  rw [Walk.escapes_bind_iff, h.escapes_iff, or_iff_left]
  rintro ⟨a, ok, escaped⟩
  exact hn a ok escaped

theorem Succeeds.not_escapes {w : Walk α} (h : w.Succeeds) : ¬ w.Escapes := h.escapes_iff.1

theorem not_escapes_pure {a : α} : ¬ (pure a : Walk α).Escapes := (succeeds_pure a).not_escapes

theorem not_escapes_failAt {defect : Defect} {point : Point} :
    ¬ (failAt defect point : Walk α).Escapes := by
  rintro ⟨failure, error, escaped⟩
  cases error
  cases escaped

theorem escapesIff_fail {failure : Failure} (escaped : failure.isDefect = false) :
    (Walk.fail failure : Walk α).EscapesIff True :=
  ⟨fun _ => ⟨failure, rfl, escaped⟩, fun other => absurd trivial other⟩

end Walk

open Walk

/-! Trees whose nodes can all be read. -/

inductive Within : Node → Node → Prop
  | self (n : Node) : Within n n
  | child {n c m : Node} : c ∈ n.children → Within c m → Within n m

/-- Every node of the tree covers a text. -/
def Legible (source : List UInt8) (tree : Node) : Prop :=
  ∀ n, Within tree n → ∃ text, Text.decode? (n.bytes source) = some text

variable {source : List UInt8}

theorem Legible.child {n c : Node} (legible : Legible source n) (member : c ∈ n.children) :
    Legible source c :=
  fun m within => legible m (.child member within)

theorem Legible.child? {n c : Node} {kind : String} (legible : Legible source n)
    (found : n.child? kind = some c) : Legible source c :=
  legible.child (List.mem_of_find?_eq_some found)

theorem Legible.filter {n : Node} (legible : Legible source n) (chosen : Node → Bool) :
    ∀ c ∈ n.children.filter chosen, Legible source c :=
  fun _ member => legible.child (List.mem_of_mem_filter member)

theorem textOf_succeeds {n : Node} (legible : Legible source n) : (textOf source n).Succeeds := by
  obtain ⟨text, decoded⟩ := legible n (.self n)
  rw [textOf, decoded]
  exact succeeds_pure text

theorem skip_succeeds {n : Node} (legible : Legible source n) (reason : Reason) :
    (skip source n reason).Succeeds :=
  (textOf_succeeds legible).bind fun _ _ => ⟨False.elim, fun _ => ⟨(), rfl⟩⟩

theorem skip_then {α : Type} {n : Node} (legible : Legible source n) (reason : Reason) (a : α) :
    (do skip source n reason; return a : Walk α).Succeeds :=
  (skip_succeeds legible reason).bind fun _ _ => succeeds_pure a

theorem keywordOf_succeeds {n : Node} (legible : Legible source n) :
    (keywordOf source n).Succeeds := by
  unfold keywordOf
  split
  next keyword found =>
    exact (textOf_succeeds (legible.child? found)).bind fun _ _ => succeeds_pure _
  next => exact succeeds_pure _

theorem nameOf_succeeds {n : Node} (legible : Legible source n) : (nameOf source n).Succeeds := by
  unfold nameOf
  split
  next name found => exact textOf_succeeds (legible.child? found)
  next => exact succeeds_pure _

theorem functionName_succeeds {n : Node} (legible : Legible source n) :
    (functionName source n).Succeeds := by
  unfold functionName
  split
  next name found =>
    exact (textOf_succeeds (legible.child? found)).bind fun _ _ => succeeds_pure _
  next => exact succeeds_pure _

theorem preludeParts_succeeds {nodes : List Node} (legible : ∀ n ∈ nodes, Legible source n) :
    (preludeParts source nodes).Succeeds := by
  induction nodes with
  | nil => exact succeeds_pure _
  | cons n rest ih =>
      refine (textOf_succeeds (legible n List.mem_cons_self)).bind fun _ _ => ?_
      exact (ih fun m member => legible m (List.mem_cons_of_mem n member)).bind
        fun _ _ => succeeds_pure _

theorem preludeOf_succeeds {n : Node} (legible : Legible source n) :
    (preludeOf source n).Succeeds :=
  (preludeParts_succeeds (legible.filter isPreludePart)).bind fun _ _ => succeeds_pure _

end Palette.Theme
