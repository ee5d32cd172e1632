import Palette.Color.Rgba
import Palette.Ordered

/-!
Themes: the colors of an application as a tree of rules. A leaf is a color or the name of one of the
theme's root colors.
-/

namespace Palette

namespace Theme

structure About where
  author : String
  iconSet : String
  deriving DecidableEq, Repr

inductive Rule where
  | color (value : Rgba)
  /-- A root color, by name. -/
  | ref (name : String)
  | nest (rules : List (String × Rule))

mutual

def Rule.decEq : (first second : Rule) → Decidable (first = second)
  | .color value, .color other => decidable_of_iff (value = other) ⟨congrArg _, Rule.color.inj⟩
  | .ref name, .ref other => decidable_of_iff (name = other) ⟨congrArg _, Rule.ref.inj⟩
  | .nest rules, .nest others =>
      have := Rule.decEqAll rules others
      decidable_of_iff (rules = others) ⟨congrArg _, Rule.nest.inj⟩
  | .color _, .ref _ | .color _, .nest _ | .ref _, .color _ | .ref _, .nest _ | .nest _, .color _
  | .nest _, .ref _ => isFalse (by simp)

def Rule.decEqAll : (first second : List (String × Rule)) → Decidable (first = second)
  | [], [] => isTrue rfl
  | (name, rule) :: rest, (other, second) :: others =>
      have := rule.decEq second
      have := Rule.decEqAll rest others
      decidable_of_iff ((name = other ∧ rule = second) ∧ rest = others) (by simp)
  | [], _ :: _ | _ :: _, [] => isFalse (by simp)

end

instance : DecidableEq Rule := Rule.decEq

abbrev Rules := List (String × Rule)

abbrev Colors := List (String × Rgba)

end Theme

structure Theme where
  about : Theme.About
  colors : Theme.Colors := []
  rules : Theme.Rules := []

end Palette
