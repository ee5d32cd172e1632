import Palette.Proofs.ThemePaths

/-!
What a theme is flattened to. The walk over the rules comes to their leaves in depth-first order and
writes each color to the path of its names, so of all leaves with one path the last counts and the
first gives the place, also where leaves of different depths meet. The walk ends early only at the
first leaf whose color is not defined.
-/

namespace Palette

namespace Theme

inductive Leaf where
  | color (value : Rgba)
  | ref (name : String)
  deriving DecidableEq, Repr

def Leaf.color? (colors : Colors) : Leaf → Option Rgba
  | .color value => some value
  | .ref name => colors.lookup name

def Leaf.undefined? (colors : Colors) : Leaf → Option String
  | .color _ => none
  | .ref name => if colors.lookup name = none then some name else none

mutual

/-- The leaves of a rule in depth-first order, each under the names that lead to it. -/
def Rule.leaves (outer : List String) : Rule → List (List String × Leaf)
  | .color value => [(outer, .color value)]
  | .ref name => [(outer, .ref name)]
  | .nest rules => leavesOfRules outer rules

def leavesOfRules (outer : List String) : List (String × Rule) → List (List String × Leaf)
  | [] => []
  | (name, rule) :: rest => rule.leaves (outer ++ [name]) ++ leavesOfRules outer rest

end

def allLeaves (theme : Theme) : List (List String × Leaf) := leavesOfRules [] theme.rules

def leafPath (leaf : List String × Leaf) : String := joined "" leaf.1

variable {colors : Colors}

theorem Leaf.undefined?_eq_some_iff {leaf : Leaf} {name : String} :
    leaf.undefined? colors = some name ↔ leaf = .ref name ∧ colors.lookup name = none := by
  cases leaf with
  | color value => simp [Leaf.undefined?]
  | ref target =>
      rw [Leaf.undefined?, Option.ite_none_right_eq_some, Option.some.injEq, Leaf.ref.injEq]
      constructor
      · rintro ⟨missing, rfl⟩
        exact ⟨rfl, missing⟩
      · rintro ⟨rfl, missing⟩
        exact ⟨missing, rfl⟩

theorem Leaf.undefined?_eq_none_iff {leaf : Leaf} :
    leaf.undefined? colors = none ↔ leaf.color? colors ≠ none := by
  cases leaf <;> simp [Leaf.undefined?, Leaf.color?]

/-! ### The walk as a fold over the leaves -/

def Leaf.rule : Leaf → Rule
  | .color value => .color value
  | .ref name => .ref name

def writeLeaf (colors out : Colors) (leaf : List String × Leaf) : Except UndefinedColor Colors :=
  leaf.2.rule.flattenInto colors (leafPath leaf) out

mutual

theorem Rule.flattenInto_eq_foldlM (outer : List String) (rule : Rule) (out : Colors) :
    rule.flattenInto colors (joined "" outer) out =
      (rule.leaves outer).foldlM (writeLeaf colors) out := by
  cases rule with
  | color value => rfl
  | ref name =>
      rw [Rule.leaves, List.foldlM_cons]
      cases written : writeLeaf colors out (outer, .ref name) <;> exact written
  | nest rules => exact flattenAllInto_eq_foldlM outer rules out

theorem flattenAllInto_eq_foldlM (outer : List String) (rules : Rules) (out : Colors) :
    flattenAllInto colors (joined "" outer) out rules =
      (leavesOfRules outer rules).foldlM (writeLeaf colors) out := by
  match rules with
  | [] => rfl
  | (name, rule) :: rest =>
      have first := Rule.flattenInto_eq_foldlM (outer ++ [name]) rule out
      rw [flattenAllInto, leavesOfRules, List.foldlM_append, ← first, joined_concat]
      cases rule.flattenInto colors (below (joined "" outer) name) out with
      | error failure => rfl
      | ok next => exact flattenAllInto_eq_foldlM outer rest next

end

theorem flatten_eq_foldlM (theme : Theme) :
    theme.flatten = (theme.allLeaves.foldlM (writeLeaf theme.colors) []).map
      fun rules => ⟨theme.about, rules⟩ := by
  rw [Theme.flatten, allLeaves, ← flattenAllInto_eq_foldlM]
  rfl

/-! ### What the fold comes to -/

theorem writeLeaf_of_undefined {out : Colors} {leaf : List String × Leaf} {name : String}
    (undefined : leaf.2.undefined? colors = some name) :
    writeLeaf colors out leaf = .error ⟨name⟩ := by
  obtain ⟨same, missing⟩ := Leaf.undefined?_eq_some_iff.mp undefined
  simp [writeLeaf, same, Leaf.rule, Rule.flattenInto, missing]

theorem writeLeaf_of_color {out : Colors} {leaf : List String × Leaf} {color : Rgba}
    (defined : leaf.2.color? colors = some color) :
    writeLeaf colors out leaf = .ok (Ordered.put (leafPath leaf) color out) := by
  rcases leaf with ⟨names, value | name⟩
  · cases defined
    rfl
  · have found : colors.lookup name = some color := defined
    simp [writeLeaf, Leaf.rule, Rule.flattenInto, found]

/-- The colors of the leaves that are defined, by path. -/
def written (colors : Colors) (leaves : List (List String × Leaf)) : List (String × Rgba) :=
  leaves.filterMap fun leaf => (leaf.2.color? colors).map fun color => (leafPath leaf, color)

/-- The first name that is not defined ends the fold; without one it writes all colors in order. -/
theorem foldlM_writeLeaf (leaves : List (List String × Leaf)) (out : Colors) :
    leaves.foldlM (writeLeaf colors) out =
      (leaves.findSome? fun leaf => leaf.2.undefined? colors).elim
        (.ok ((written colors leaves).foldl (fun m p => Ordered.put p.1 p.2 m) out))
        fun name => .error ⟨name⟩ := by
  induction leaves generalizing out with
  | nil => rfl
  | cons leaf rest ih =>
      rw [List.foldlM_cons, List.findSome?_cons]
      cases undefined : leaf.2.undefined? colors with
      | some name =>
          rw [writeLeaf_of_undefined undefined]
          rfl
      | none =>
          obtain ⟨color, defined⟩ :=
            Option.ne_none_iff_exists'.mp (Leaf.undefined?_eq_none_iff.mp undefined)
          have entry : written colors (leaf :: rest) =
              (leafPath leaf, color) :: written colors rest := by
            simp [written, defined]
          rw [writeLeaf_of_color defined, entry]
          exact ih (Ordered.put (leafPath leaf) color out)

theorem flatten_eq (theme : Theme) :
    theme.flatten = (theme.allLeaves.findSome? fun leaf => leaf.2.undefined? theme.colors).elim
      (.ok ⟨theme.about, Ordered.ofList (written theme.colors theme.allLeaves)⟩)
      fun name => .error ⟨name⟩ := by
  rw [flatten_eq_foldlM, foldlM_writeLeaf]
  cases theme.allLeaves.findSome? fun leaf => leaf.2.undefined? theme.colors <;> rfl

theorem keys_written {leaves : List (List String × Leaf)}
    (defined : ∀ leaf ∈ leaves, leaf.2.color? colors ≠ none) :
    (written colors leaves).map Prod.fst = leaves.map leafPath := by
  induction leaves with
  | nil => rfl
  | cons leaf rest ih =>
      rw [List.forall_mem_cons] at defined
      obtain ⟨color, here⟩ := Option.ne_none_iff_exists'.mp defined.1
      simpa [written, here] using ih defined.2

theorem lookup_written_of_last {front behind : List (List String × Leaf)}
    {leaf : List String × Leaf} (defined : leaf.2.color? colors ≠ none)
    (last : ∀ other ∈ behind, leafPath other ≠ leafPath leaf) :
    (written colors (front ++ leaf :: behind)).reverse.lookup (leafPath leaf) =
      leaf.2.color? colors := by
  obtain ⟨color, here⟩ := Option.ne_none_iff_exists'.mp defined
  have split : written colors (front ++ leaf :: behind) =
      written colors front ++ (leafPath leaf, color) :: written colors behind := by
    simp [written, here]
  rw [split, here]
  apply Ordered.lookup_reverse_split
  intro entry member
  obtain ⟨other, behindIt, made⟩ := List.mem_filterMap.mp member
  obtain ⟨_, _, rfl⟩ := Option.map_eq_some_iff.mp made
  exact last other behindIt

/-- Flattening fails exactly if a leaf refers to a color that is not defined, with the name at the
first such leaf. Otherwise each path has the color of the last leaf under it, no other paths are
there, and they stand in the order of their first leaves. -/
theorem flatten_follows_leaves (theme : Theme) :
    (∀ name, theme.flatten = .error ⟨name⟩ ↔
      ∃ front names behind, theme.allLeaves = front ++ (names, Leaf.ref name) :: behind ∧
        theme.colors.lookup name = none ∧
        ∀ leaf ∈ front, leaf.2.color? theme.colors ≠ none) ∧
    ((∀ leaf ∈ theme.allLeaves, leaf.2.color? theme.colors ≠ none) →
      ∃ flat, theme.flatten = .ok flat ∧ flat.about = theme.about ∧
        flat.rules.map Prod.fst = (theme.allLeaves.map leafPath).eraseDups ∧
        ∀ front leaf behind, theme.allLeaves = front ++ leaf :: behind →
          (∀ other ∈ behind, leafPath other ≠ leafPath leaf) →
          flat.rules.lookup (leafPath leaf) = leaf.2.color? theme.colors) := by
  constructor
  · intro name
    have failed : theme.flatten = .error ⟨name⟩ ↔
        (theme.allLeaves.findSome? fun leaf => leaf.2.undefined? theme.colors) = some name := by
      rw [flatten_eq]
      cases theme.allLeaves.findSome? fun leaf => leaf.2.undefined? theme.colors <;> simp
    rw [failed, List.findSome?_eq_some_iff]
    constructor
    · rintro ⟨front, ⟨names, leaf⟩, behind, split, undefined, before⟩
      obtain ⟨rfl, missing⟩ := Leaf.undefined?_eq_some_iff.mp undefined
      exact ⟨front, names, behind, split, missing,
        fun leaf member => Leaf.undefined?_eq_none_iff.mp (before leaf member)⟩
    · rintro ⟨front, names, behind, split, missing, before⟩
      exact ⟨front, (names, .ref name), behind, split,
        Leaf.undefined?_eq_some_iff.mpr ⟨rfl, missing⟩,
        fun leaf member => Leaf.undefined?_eq_none_iff.mpr (before leaf member)⟩
  · intro defined
    have fine : (theme.allLeaves.findSome? fun leaf => leaf.2.undefined? theme.colors) = none := by
      rw [List.findSome?_eq_none_iff]
      exact fun leaf member => Leaf.undefined?_eq_none_iff.mpr (defined leaf member)
    refine ⟨⟨theme.about, Ordered.ofList (written theme.colors theme.allLeaves)⟩, ?_, rfl, ?_, ?_⟩
    · rw [flatten_eq, fine]
      rfl
    · rw [Ordered.keys_ofList, keys_written defined]
    · intro front leaf behind split last
      have here := defined leaf (by simp [split])
      rw [Ordered.lookup_ofList, split, lookup_written_of_last here last]

def meetingTheme : Theme where
  about := ⟨"", ""⟩
  colors := [("--main", ⟨1, 2, 3, 255⟩)]
  rules := [("a", .nest [("B_b", .color ⟨4, 5, 6, 255⟩)]), ("c", .ref "--main"),
    ("A.bb", .ref "--main")]

theorem flatten_follows_leaves_meeting :
    ∃ flat, meetingTheme.flatten = .ok flat ∧ flat.rules.map Prod.fst = ["a.bb", "c"] ∧
      flat.rules.lookup "a.bb" = some ⟨1, 2, 3, 255⟩ := by
  obtain ⟨flat, flattened, _, paths, last⟩ :=
    (flatten_follows_leaves meetingTheme).2 (by decide +kernel)
  refine ⟨flat, flattened, ?_, ?_⟩
  · rw [paths]
    decide +kernel
  · exact last [(["a", "B_b"], .color ⟨4, 5, 6, 255⟩), (["c"], .ref "--main")]
      (["A.bb"], .ref "--main") [] rfl (by simp)

end Theme

end Palette
