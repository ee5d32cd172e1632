import Mathlib.Data.List.Forall2
import Palette.Proofs.ThemePaths

/-!
How much of a sequence of names its path shows. Names are joined by dots, so names without dots can
be told apart again, with one exception: the empty path is the top, and a name of hyphens and
underscores only, put below the top, leads to the empty path. Such names in front do not show; from
the first other name on every level does.
-/

namespace Palette.Theme

/-- Whether nothing of a name is left in a path. -/
def isHollow (name : String) : Bool := name.toList.all isFiller

/-- The names that show in a path: those from the first that is not hollow. -/
def shownNames (names : List String) : List String := names.dropWhile isHollow

def spelled (name : String) : List Char := normalChars name.toList

theorem toList_normalName (name : String) : (normalName name).toList = spelled name :=
  String.toList_ofList

theorem spelled_eq_nil_iff (name : String) : spelled name = [] ↔ isHollow name = true := by
  simp [spelled, normalChars, isHollow]

theorem sameName_iff_spelled (first second : String) :
    SameName first second ↔ spelled first = spelled second := by
  rw [sameName_iff, ← toList_normalName, ← toList_normalName, String.toList_inj]

theorem normalName_of_hollow {name : String} (hollow : isHollow name = true) :
    normalName name = "" := by
  apply String.toList_inj.mp
  rw [toList_normalName, (spelled_eq_nil_iff name).mpr hollow]
  rfl

theorem sameName_of_hollow {first second : String} (one : isHollow first = true)
    (other : isHollow second = true) : SameName first second := by
  rw [sameName_iff, normalName_of_hollow one, normalName_of_hollow other]

/-! ### The dots of a path -/

theorem dot_of_toLower {c : Char} (dot : c.toLower = '.') : c = '.' := by
  unfold Char.toLower at dot
  split at dot
  next upper =>
    have range : 65 ≤ c.val.toNat ∧ c.val.toNat ≤ 90 := upper
    have value : (c.val + ('a'.val - 'A'.val)).toNat = 46 :=
      congrArg (fun d : Char => d.val.toNat) dot
    rw [UInt32.toNat_add] at value
    change (c.val.toNat + 32) % 4294967296 = 46 at value
    omega
  next => exact dot

theorem dot_not_mem_spelled {name : String} (dotless : '.' ∉ name.toList) :
    '.' ∉ spelled name := by
  intro member
  obtain ⟨c, kept, lowered⟩ := List.mem_map.mp member
  rw [dot_of_toLower lowered] at kept
  exact dotless (List.mem_filter.mp kept).1

theorem toList_below {outer : String} (named : outer ≠ "") (name : String) :
    (below outer name).toList = outer.toList ++ '.' :: spelled name := by
  have notTop : outer.isEmpty = false := by simpa using named
  simp [below, notTop, toList_normalName]

theorem below_ne_empty {outer : String} (named : outer ≠ "") (name : String) :
    below outer name ≠ "" := by
  intro empty
  have characters := toList_below named name
  rw [empty] at characters
  simp at characters

theorem below_top (name : String) : below "" name = normalName name := rfl

theorem toList_joined {outer : String} (named : outer ≠ "") (names : List String) :
    (joined outer names).toList = ['.'].intercalate (outer.toList :: names.map spelled) := by
  induction names generalizing outer with
  | nil => simp [joined]
  | cons name names ih =>
    rw [joined_cons, ih (below_ne_empty named name), toList_below named, List.map_cons]
    cases names with
    | nil => simp
    | cons next names => simp

theorem toList_joined_top (names : List String) :
    (joined "" names).toList = ['.'].intercalate ((shownNames names).map spelled) := by
  induction names with
  | nil => rfl
  | cons name names ih =>
    rw [joined_cons, below_top]
    cases hollow : isHollow name with
    | true =>
      -- The name is gone, and the names behind it are at the top again.
      have dropped : shownNames (name :: names) = shownNames names :=
        List.dropWhile_cons_of_pos hollow
      rw [normalName_of_hollow hollow, ih, dropped]
    | false =>
      have kept : shownNames (name :: names) = name :: names :=
        List.dropWhile_cons_of_neg (by simp [hollow])
      have named : normalName name ≠ "" := by
        intro empty
        have nothing := toList_normalName name
        rw [empty] at nothing
        rw [(spelled_eq_nil_iff name).mp nothing.symm] at hollow
        cases hollow
      rw [toList_joined named, toList_normalName, kept, List.map_cons]

/-! ### Reading the names back -/

theorem shownNames_head {names : List String} {name : String} {rest : List String}
    (shown : shownNames names = name :: rest) : spelled name ≠ [] := by
  have first : (names.dropWhile isHollow).head? = some name := congrArg List.head? shown
  have visible := List.head?_dropWhile_not isHollow names
  simp only [first] at visible
  intro empty
  rw [(spelled_eq_nil_iff name).mp empty] at visible
  cases visible

theorem intercalate_shown_ne_nil {names : List String} (shown : shownNames names ≠ []) :
    ['.'].intercalate ((shownNames names).map spelled) ≠ [] := by
  obtain ⟨name, rest, listed⟩ := List.exists_cons_of_ne_nil shown
  have visible := shownNames_head listed
  rw [listed]
  cases rest <;> simp [visible]

theorem splitOn_joined {names : List String} (dotless : ∀ name ∈ names, '.' ∉ name.toList)
    (shown : shownNames names ≠ []) :
    (joined "" names).toList.splitOn '.' = (shownNames names).map spelled := by
  rw [toList_joined_top]
  apply List.splitOn_intercalate
  · intro characters member
    obtain ⟨name, listed, rfl⟩ := List.mem_map.mp member
    exact dot_not_mem_spelled (dotless name ((List.dropWhile_sublist isHollow).mem listed))
  · simpa using shown

theorem spelled_eq_of_joined_eq {first second : List String}
    (dotless : ∀ name ∈ first ++ second, '.' ∉ name.toList)
    (same : joined "" first = joined "" second) :
    (shownNames first).map spelled = (shownNames second).map spelled := by
  have paths : ['.'].intercalate ((shownNames first).map spelled) =
      ['.'].intercalate ((shownNames second).map spelled) := by
    rw [← toList_joined_top, ← toList_joined_top, same]
  by_cases none : shownNames first = []
  · by_cases nothing : shownNames second = []
    · rw [none, nothing]
    · rw [none] at paths
      exact absurd paths.symm (intercalate_shown_ne_nil nothing)
  · by_cases nothing : shownNames second = []
    · rw [nothing] at paths
      exact absurd paths (intercalate_shown_ne_nil none)
    · rw [← splitOn_joined (fun name member => dotless name (List.mem_append_left _ member)) none,
        ← splitOn_joined (fun name member => dotless name (List.mem_append_right _ member)) nothing,
        same]

theorem sameNames_iff_spelled (first second : List String) :
    List.Forall₂ SameName first second ↔ first.map spelled = second.map spelled := by
  rw [← List.forall₂_eq_eq_eq, List.forall₂_map_left_iff, List.forall₂_map_right_iff]
  constructor
  · exact .imp fun one other => (sameName_iff_spelled one other).mp
  · exact .imp fun one other => (sameName_iff_spelled one other).mpr

theorem sameNames_of_shown {first second : List String}
    (alike : List.Forall₂ SameName (shownNames first) (shownNames second))
    (sameLength : first.length = second.length) : List.Forall₂ SameName first second := by
  induction first generalizing second with
  | nil =>
    rw [List.length_nil] at sameLength
    rw [List.eq_nil_of_length_eq_zero sameLength.symm]
    exact .nil
  | cons one first ih =>
    match second with
    | [] => cases sameLength
    | other :: second =>
      have lengths := alike.length_eq
      have short := (List.dropWhile_sublist (l := first) isHollow).length_le
      have shortToo := (List.dropWhile_sublist (l := second) isHollow).length_le
      simp only [List.length_cons, Nat.add_right_cancel_iff] at sameLength
      simp only [shownNames, List.dropWhile_cons] at alike lengths
      cases hollow : isHollow one with
      | true =>
        cases hollowToo : isHollow other with
        | true =>
          simp only [hollow, hollowToo, if_true] at alike
          exact .cons (sameName_of_hollow hollow hollowToo) (ih alike sameLength)
        | false =>
          simp only [hollow, hollowToo, if_true, Bool.false_eq_true, if_false,
            List.length_cons] at lengths
          omega
      | false =>
        cases hollowToo : isHollow other with
        | true =>
          simp only [hollow, hollowToo, if_true, Bool.false_eq_true, if_false,
            List.length_cons] at lengths
          omega
        | false => simpa only [hollow, hollowToo, Bool.false_eq_true, if_false] using alike

/-- Two sequences of names without dots have one path exactly if they agree, up to hyphens,
underscores and the case of Latin letters, name by name from their first names that are more than
hyphens and underscores. Sequences of one length then agree at every level. -/
theorem joined_eq_iff (first second : List String)
    (dotless : ∀ name ∈ first ++ second, '.' ∉ name.toList) :
    (joined "" first = joined "" second ↔
      List.Forall₂ SameName (shownNames first) (shownNames second)) ∧
    (joined "" first = joined "" second → first.length = second.length →
      List.Forall₂ SameName first second) := by
  have exactly : joined "" first = joined "" second ↔
      List.Forall₂ SameName (shownNames first) (shownNames second) := by
    rw [sameNames_iff_spelled]
    constructor
    · exact spelled_eq_of_joined_eq dotless
    · intro alike
      apply String.toList_inj.mp
      rw [toList_joined_top, toList_joined_top, alike]
  exact ⟨exactly, fun same => sameNames_of_shown (exactly.mp same)⟩

theorem joined_eq_iff_hollow :
    (joined "" ["--", "_", "Tab-s", "_"] = joined "" ["_", "tabs", "-"] ∧
      List.Forall₂ SameName ["Tab-s", "_"] ["tabs", "-"]) ∧
    joined "" ["tabs", "-"] ≠ joined "" ["tabs"] := by
  have alike := (joined_eq_iff ["--", "_", "Tab-s", "_"] ["_", "tabs", "-"] (by decide)).1
  have apart := (joined_eq_iff ["tabs", "-"] ["tabs"] (by decide)).1
  have pairs : List.Forall₂ SameName ["Tab-s", "_"] ["tabs", "-"] :=
    .cons (by decide) (.cons (by decide) .nil)
  refine ⟨⟨alike.mpr pairs, pairs⟩, fun same => ?_⟩
  exact absurd (apart.mp same).length_eq (by decide)

/-- A color of a block with a hollow name has the path of a color at the top. -/
theorem joined_confuses_levels :
    ¬ ∀ first second : List String, first ≠ [] → second ≠ [] →
      (∀ name ∈ first ++ second, '.' ∉ name.toList) → joined "" first = joined "" second →
        first.length = second.length ∧ List.Forall₂ SameName first second := by
  intro claimed
  have lengths := (claimed ["_", "a"] ["a"] (by decide) (by decide) (by decide) rfl).1
  exact absurd lengths (by decide)

end Palette.Theme
