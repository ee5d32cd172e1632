import Mathlib.Data.List.TakeWhile
import Palette.Files.Path

/-!
Names with suffixes. A suffix takes the place of what a name has behind its last dot, unless that
dot is the first or the last character. So it is added to the whole of a name exactly if the last
piece of the name is one that is kept whole; else a part of the name is lost, or, where the last
piece says nothing, the suffix goes to another part of the path.
-/

namespace Palette.Files.Path

/-! ### Names and their dots -/

/-- The last dot of a name is its first or its last character, if there is one. -/
def Suffixless (name : String) : Prop :=
  ∀ front behind : List Char, name.toList = front ++ '.' :: behind → '.' ∉ behind →
    front = [] ∨ behind = []

/-- A name that stands for a file and has nothing to lose to a suffix. -/
def Whole (name : String) : Prop := name ≠ "" ∧ name ≠ "." ∧ Suffixless name

theorem exists_last_dot {cs : List Char} (dotted : '.' ∈ cs) :
    ∃ front behind, cs = front ++ '.' :: behind ∧ '.' ∉ behind := by
  obtain ⟨behind, front, reversed, dotless⟩ :=
    List.eq_append_cons_of_mem (List.mem_reverse.mpr dotted)
  refine ⟨front.reverse, behind.reverse, ?_, by simpa using dotless⟩
  rw [← List.reverse_reverse cs, reversed]
  simp

theorem no_dot_in_reverse {cs : List Char} (dotless : '.' ∉ cs) :
    ∀ c ∈ cs.reverse, decide (c ≠ '.') = true := by
  intro c member
  apply decide_eq_true
  rintro rfl
  exact dotless (List.mem_reverse.mp member)

theorem takeWhile_reverse {front behind : List Char} (dotless : '.' ∉ behind) :
    (front ++ '.' :: behind).reverse.takeWhile (· ≠ '.') = behind.reverse := by
  rw [List.reverse_append, List.reverse_cons, List.append_assoc,
    List.takeWhile_append_of_pos (no_dot_in_reverse dotless)]
  simp

theorem splitName_of_last_dot {name : String} {front behind : List Char}
    (same : name.toList = front ++ '.' :: behind) (dotless : '.' ∉ behind) :
    splitName name =
      if front = [] ∨ behind = [] then (name, "")
      else (String.ofList front, String.ofList ('.' :: behind)) := by
  have size : name.length - behind.reverse.length = front.length + 1 := by
    rw [← String.length_toList, same]
    simp only [List.length_append, List.length_cons, List.length_reverse]
    omega
  have inner : (behind.reverse.isEmpty ∨ front.length + 1 ≤ 1) ↔ (front = [] ∨ behind = []) := by
    simp [or_comm]
  simp only [splitName, same, takeWhile_reverse dotless, size, inner, Nat.add_sub_cancel,
    List.take_left, List.drop_left]

theorem splitName_of_dotless {name : String} (dotless : '.' ∉ name.toList) :
    splitName name = (name, "") := by
  have all : name.toList.reverse.takeWhile (· ≠ '.') = name.toList.reverse :=
    List.takeWhile_eq_self_iff.mpr (no_dot_in_reverse dotless)
  have size : name.length - name.toList.reverse.length = 0 := by
    rw [List.length_reverse, String.length_toList, Nat.sub_self]
  simp only [splitName, all, size, Nat.zero_le, or_true, if_true]

theorem splitName_eq_self_iff (name : String) : (splitName name).1 = name ↔ Suffixless name := by
  by_cases dotted : '.' ∈ name.toList
  · obtain ⟨front, behind, same, dotless⟩ := exists_last_dot dotted
    rw [splitName_of_last_dot same dotless]
    by_cases outer : front = [] ∨ behind = []
    · refine iff_of_true (by rw [if_pos outer]) fun front' behind' same' dotless' => ?_
      have tails : behind'.reverse = behind.reverse := by
        rw [← takeWhile_reverse dotless', ← same', same, takeWhile_reverse dotless]
      obtain rfl := List.reverse_inj.mp tails
      obtain rfl := List.append_cancel_right (same'.symm.trans same)
      exact outer
    · refine iff_of_false ?_ fun suffixless => outer (suffixless front behind same dotless)
      rw [if_neg outer]
      intro shorter
      have sizes := congrArg (fun s : String => s.toList.length) shorter
      simp [same] at sizes
  · rw [splitName_of_dotless dotted]
    refine iff_of_true rfl fun front behind same _ => absurd ?_ dotted
    simp [same]

instance (name : String) : Decidable (Suffixless name) :=
  decidable_of_iff _ (splitName_eq_self_iff name)

instance (name : String) : Decidable (Whole name) :=
  inferInstanceAs (Decidable (name ≠ "" ∧ name ≠ "." ∧ Suffixless name))

/-! ### Pieces between slashes -/

theorem slashless_of_mem_pieces {cs piece : List Char} (member : piece ∈ pieces cs) :
    '/' ∉ piece := by
  induction cs generalizing piece with
  | nil => simp_all [pieces]
  | cons c cs ih =>
    rw [pieces] at member
    split at member
    · rcases List.mem_cons.mp member with rfl | later
      · exact List.not_mem_nil
      · exact ih later
    · next other =>
      split at member
      · next first rest divided =>
        rcases List.mem_cons.mp member with rfl | later
        · have within : first ∈ pieces cs := by simp [divided]
          simp [Ne.symm other, ih within]
        · exact ih (by simp [divided, later])
      · simp_all [Ne.symm other]

theorem pieces_of_slashless {cs : List Char} (slashless : '/' ∉ cs) : pieces cs = [cs] := by
  induction cs with
  | nil => rfl
  | cons c cs ih =>
    have other : c ≠ '/' := fun slash => slashless (by simp [slash])
    rw [pieces, if_neg other, ih fun member => slashless (by simp [member])]

theorem pieces_append {suffix : List Char} (slashless : '/' ∉ suffix) (cs : List Char) :
    ∃ front last, pieces cs = front ++ [last] ∧
      pieces (cs ++ suffix) = front ++ [last ++ suffix] := by
  induction cs with
  | nil => exact ⟨[], [], rfl, pieces_of_slashless slashless⟩
  | cons c cs ih =>
    obtain ⟨front, last, divided, longer⟩ := ih
    rw [List.cons_append, pieces, pieces, divided, longer]
    by_cases slash : c = '/'
    · exact ⟨[] :: front, last, by simp [slash], by simp [slash]⟩
    · cases front with
      | nil => exact ⟨[], c :: last, by simp [slash], by simp [slash]⟩
      | cons first front =>
        exact ⟨(c :: first) :: front, last, by simp [slash], by simp [slash]⟩

theorem takeWhile_slash {cs : List Char} (slashless : '/' ∉ cs) :
    cs.takeWhile (· = '/') = [] := by
  cases cs with
  | nil => rfl
  | cons c cs =>
    have other : c ≠ '/' := fun slash => slashless (by simp [slash])
    simp [other]

def shown (all : List (List Char)) : List String :=
  (all.filter fun piece => piece ≠ [] ∧ piece ≠ ['.']).map String.ofList

/-- What stands behind the last slash. -/
def lastPiece (name : String) : String := String.ofList ((pieces name.toList).getLastD [])

def frontParts (name : String) : List String := shown (pieces name.toList).dropLast

theorem lastPiece_of_slashless {name : String} (slashless : '/' ∉ name.toList) :
    lastPiece name = name := by
  simp [lastPiece, pieces_of_slashless slashless]

theorem frontParts_of_slashless {name : String} (slashless : '/' ∉ name.toList) :
    frontParts name = [] := by
  simp [frontParts, pieces_of_slashless slashless, shown]

def isSilent (name : String) : Bool := name = "" ∨ name = "."

theorem shown_append_last (front : List (List Char)) (last : List Char) :
    shown (front ++ [last]) = shown front ++
      if isSilent (String.ofList last) then [] else [String.ofList last] := by
  have silent : isSilent (String.ofList last) = true ↔ ¬ (last ≠ [] ∧ last ≠ ['.']) := by
    simp only [isSilent, decide_eq_true_eq, ← String.toList_inj, String.toList_ofList]
    change last = [] ∨ last = ['.'] ↔ _
    simp only [ne_eq, not_and_or, not_not]
  rw [shown, List.filter_append, List.map_append, shown]
  congr 1
  by_cases speaks : last ≠ [] ∧ last ≠ ['.']
  · rw [if_neg (silent.not.mpr (not_not.mpr speaks))]
    simp [speaks]
  · rw [if_pos (silent.mpr speaks)]
    simp only [ne_eq, List.filter_cons, List.filter_nil]
    simp only [ne_eq] at speaks
    simp [speaks]

theorem parts_ofString (name : String) :
    (ofString name).parts =
      frontParts name ++ if isSilent (lastPiece name) then [] else [lastPiece name] := by
  obtain ⟨front, last, divided, _⟩ := pieces_append List.not_mem_nil name.toList
  change shown (pieces name.toList) = _
  rw [frontParts, lastPiece, divided, shown_append_last]
  simp

/-- A suffix leaves all parts of a name but the last as they are. -/
theorem ofString_append {suffix : String} (slashless : '/' ∉ suffix.toList)
    (long : 3 ≤ suffix.length) (name : String) :
    ofString (name ++ suffix) =
      { root := (ofString name).root, parts := frontParts name ++ [lastPiece name ++ suffix] } := by
  have root : (ofString (name ++ suffix)).root = (ofString name).root := by
    simp only [ofString, String.toList_append, List.takeWhile_append,
      takeWhile_slash slashless, List.append_nil]
    split
    · next all => rw [all]
    · rfl
  obtain ⟨front, last, divided, longer⟩ := pieces_append slashless name.toList
  have speaks : isSilent (String.ofList (last ++ suffix.toList)) = false := by
    have size : 3 ≤ (last ++ suffix.toList).length := by
      rw [List.length_append, String.length_toList]
      omega
    simp only [isSilent, decide_eq_false_iff_not, ← String.toList_inj, String.toList_ofList]
    rintro (empty | dot)
    · simp [empty] at size
    · simp [dot] at size
  have parts :
      (ofString (name ++ suffix)).parts = frontParts name ++ [lastPiece name ++ suffix] := by
    change shown (pieces (name ++ suffix).toList) = _
    rw [String.toList_append, longer, shown_append_last, speaks, frontParts, lastPiece, divided]
    simp
  rw [← root, ← parts]

theorem mem_splitName {name : String} {c : Char} (member : c ∈ (splitName name).1.toList) :
    c ∈ name.toList := by
  unfold splitName at member
  dsimp only at member
  split at member
  · exact member
  · rw [String.toList_ofList] at member
    exact List.mem_of_mem_take member

theorem slashless_stem (path : String) : '/' ∉ (ofString path).stem.toList := by
  intro member
  have inside := mem_splitName member
  rw [Path.name] at inside
  cases ends : (ofString path).parts.getLast? with
  | none => simp [ends] at inside
  | some part =>
    rw [ends] at inside
    obtain ⟨piece, listed, rfl⟩ := List.mem_map.mp (List.mem_of_getLast? ends)
    rw [Option.getD_some, String.toList_ofList] at inside
    exact slashless_of_mem_pieces (List.mem_filter.mp listed).1 inside

/-! ### Paths with suffixes -/

def below (p : Path) (part : String) : Path := { p with parts := p.parts ++ [part] }

theorem below_inj {p : Path} {part other : String} :
    p.below part = p.below other ↔ part = other := by
  simp [below]

theorem withSuffix?_below (p : Path) {part : String} (named : part ≠ "") (suffix : String) :
    (p.below part).withSuffix? suffix = some (p.below ((splitName part).1 ++ suffix)) := by
  have name : (p.below part).name = part := by simp [Path.name, below]
  rw [withSuffix?, stem, name, if_neg (by simpa using named)]
  simp [below]

theorem getLast?_withSuffix? {p q : Path} {suffix : String}
    (suffixed : p.withSuffix? suffix = some q) :
    q.parts.getLast? = some (p.stem ++ suffix) ∧ q.parts.length = p.parts.length := by
  rw [withSuffix?] at suffixed
  split at suffixed
  · cases suffixed
  · next named =>
    obtain rfl := Option.some.inj suffixed
    have size : p.parts ≠ [] := by
      intro none
      simp [Path.name, none] at named
    have := List.length_pos_iff.mpr size
    refine ⟨by simp, ?_⟩
    simp only [List.length_append, List.length_dropLast, List.length_cons, List.length_nil]
    omega

theorem join_eq (p : Path) (root : String) (front behind : List String) :
    p.join { root, parts := front ++ behind } =
      { p.join { root, parts := front } with
        parts := (p.join { root, parts := front }).parts ++ behind } := by
  unfold join
  dsimp only
  split <;> simp

/-- In any directory, a name with a suffix added to it is the name with its suffix replaced exactly
if the last piece of the name is kept whole. -/
theorem withSuffix?_join_eq_iff (p : Path) (name : String) {suffix : String}
    (slashless : '/' ∉ suffix.toList) (long : 3 ≤ suffix.length) :
    (p.join (ofString name)).withSuffix? suffix = some (p.join (ofString (name ++ suffix))) ↔
      Whole (lastPiece name) := by
  have longer : p.join (ofString (name ++ suffix)) =
      (p.join { root := (ofString name).root, parts := frontParts name }).below
        (lastPiece name ++ suffix) := by
    rw [ofString_append slashless long, join_eq]
    rfl
  have parts := parts_ofString name
  by_cases silent : isSilent (lastPiece name) = true
  · have same : p.join (ofString name) =
        p.join { root := (ofString name).root, parts := frontParts name } := by
      rw [if_pos silent, List.append_nil] at parts
      rw [← parts]
    refine iff_of_false ?_ ?_
    · intro suffixed
      have sizes := (getLast?_withSuffix? suffixed).2
      rw [longer, same] at sizes
      simp [below] at sizes
    · intro ⟨named, visible, _⟩
      simp [isSilent, named, visible] at silent
  · have same : p.join (ofString name) =
        (p.join { root := (ofString name).root, parts := frontParts name }).below
          (lastPiece name) := by
      rw [if_neg silent] at parts
      rw [below, ← join_eq, ← parts]
    simp only [isSilent, decide_eq_true_eq, not_or] at silent
    rw [same, longer, withSuffix?_below _ silent.1, Option.some.injEq, below_inj,
      String.append_left_inj, splitName_eq_self_iff]
    simp [Whole, silent]

theorem join_ofString {name : String} (slashless : '/' ∉ name.toList)
    (shows : isSilent name = false) (p : Path) : p.join (ofString name) = p.below name := by
  have parts := parts_ofString name
  rw [lastPiece_of_slashless slashless, frontParts_of_slashless slashless, shows] at parts
  have root : (ofString name).root = "" := by
    simp [ofString, takeWhile_slash slashless, rootOf]
  simp [join, root, parts, below]

end Palette.Files.Path
