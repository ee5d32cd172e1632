import Palette.Theme.Flatten
import Palette.Proofs.LayoutSource
import Palette.Proofs.PythonText

/-!
The text of a theme file and the theme determine each other. No line holds a line feed of its own,
so the lines can be told apart; and the color at the end of a line has a fixed width, so the path is
what stands in front of it, whatever signs it is made of. In turn, distinct paths have only one
order, so the order in which colors were put into the theme leaves no trace.
-/

namespace Palette

open Printer Target

/-! ### Colors of fixed width -/

theorem Text.length_hex (b : UInt8) : (Text.hex 2 b.toNat).toList.length = 2 := by
  rw [Python.hex_chars]
  rfl

theorem Text.hex_injective {b c : UInt8}
    (same : (Text.hex 2 b.toNat).toList = (Text.hex 2 c.toNat).toList) : b = c := by
  have read := Python.hexValue?_hex b
  rw [same, Python.hexValue?_hex c] at read
  exact UInt8.toNat_inj.mp (Option.some.inj read).symm

theorem Text.hex_oneLine (b : UInt8) : '\n' ∉ (Text.hex 2 b.toNat).toList := by
  have small := b.toNat_lt
  have high := Python.hexDigit_digitChar (b.toNat / 16) (by omega)
  have low := Python.hexDigit_digitChar (b.toNat % 16) (by omega)
  rw [Python.hex_chars]
  simp [high, low]

namespace Rgba

theorem toList_toArgbHex (c : Rgba) : c.toArgbHex.toList =
    '#' :: ((Text.hex 2 c.alpha.toNat).toList ++ ((Text.hex 2 c.red.toNat).toList ++
      ((Text.hex 2 c.green.toNat).toList ++ (Text.hex 2 c.blue.toNat).toList))) := by
  have sign : "#".toList = ['#'] := rfl
  simp only [toArgbHex, String.toList_append, sign, List.append_assoc, List.cons_append,
    List.nil_append]

theorem length_toArgbHex (c : Rgba) : c.toArgbHex.toList.length = 9 := by
  simp only [toList_toArgbHex, List.length_cons, List.length_append, Text.length_hex]

theorem toArgbHex_oneLine (c : Rgba) : '\n' ∉ c.toArgbHex.toList := by
  simp [toList_toArgbHex, Text.hex_oneLine]

theorem toArgbHex_injective : Function.Injective toArgbHex := by
  intro first second same
  have width : ∀ b c : UInt8,
      (Text.hex 2 b.toNat).toList.length = (Text.hex 2 c.toNat).toList.length := by
    intro b c
    rw [Text.length_hex, Text.length_hex]
  have chars := congrArg String.toList same
  rw [toList_toArgbHex, toList_toArgbHex] at chars
  obtain ⟨alpha, behind⟩ := List.append_inj (List.cons.inj chars).2 (width _ _)
  obtain ⟨red, rest⟩ := List.append_inj behind (width _ _)
  obtain ⟨green, blue⟩ := List.append_inj rest (width _ _)
  cases first
  cases second
  rw [Rgba.mk.injEq]
  exact ⟨Text.hex_injective red, Text.hex_injective green, Text.hex_injective blue,
    Text.hex_injective alpha⟩

end Rgba

/-! ### Lines -/

namespace Printer

def IsLine (line : String) : Prop := line ≠ "" ∧ '\n' ∉ line.toList

section Lines

variable {unit : String} {depth : Nat} {line other : String}

theorem isLine_append (front : IsLine line) (oneLine : '\n' ∉ other.toList) :
    IsLine (line ++ other) := by
  constructor
  · intro empty
    exact front.1 (String.append_eq_empty_iff.mp empty).1
  · rw [String.toList_append, List.mem_append, not_or]
    exact ⟨front.2, oneLine⟩

theorem toList_lineText_append (unit : String) (depth : Nat) (visible : line ≠ "") (rest : String) :
    (lineText unit depth line ++ rest).toList =
      Target.indentation unit.toList depth ++ (line.toList ++ '\n' :: rest.toList) := by
  rw [lineText, if_neg (by simpa using visible)]
  simp [Target.indentation, String.toList_join, List.flatMap_replicate]

theorem lineText_append_ne_empty (visible : line ≠ "") (rest : String) :
    lineText unit depth line ++ rest ≠ "" := by
  intro empty
  have chars := toList_lineText_append unit depth visible rest
  rw [empty] at chars
  simp at chars

theorem lineText_append_inj (left : IsLine line) (right : IsLine other) {rest behind : String}
    (same : lineText unit depth line ++ rest = lineText unit depth other ++ behind) :
    line = other ∧ rest = behind := by
  have chars := congrArg String.toList same
  rw [toList_lineText_append unit depth left.1, toList_lineText_append unit depth right.1] at chars
  have texts := List.append_cancel_left chars
  have lines := congrArg Text.lines texts
  rw [lines_append _ _ left.2, lines_append _ _ right.2] at lines
  have first : line = other := String.toList_inj.mp (List.cons.inj lines).1
  rw [first] at texts
  exact ⟨first, String.toList_inj.mp (List.cons.inj (List.append_cancel_left texts)).2⟩

theorem join_lineText_inj {first second : List String} (left : ∀ line ∈ first, IsLine line)
    (right : ∀ line ∈ second, IsLine line)
    (same : String.join (first.map (lineText unit depth)) =
      String.join (second.map (lineText unit depth))) : first = second := by
  induction first generalizing second with
  | nil =>
      cases second with
      | nil => rfl
      | cons other second =>
          rw [List.map_cons, String.join_cons] at same
          exact False.elim (lineText_append_ne_empty (right other (by simp)).1 _ same.symm)
  | cons line first ih =>
      cases second with
      | nil =>
          rw [List.map_cons, String.join_cons] at same
          exact False.elim (lineText_append_ne_empty (left line (by simp)).1 _ same)
      | cons other second =>
          rw [List.map_cons, List.map_cons, String.join_cons, String.join_cons] at same
          obtain ⟨here, behind⟩ :=
            lineText_append_inj (left line (by simp)) (right other (by simp)) same
          have later := ih (fun line member => left line (by simp [member]))
            (fun line member => right line (by simp [member])) behind
          rw [here, later]

end Lines

end Printer

namespace Theme.Flat

/-- What a theme file prints as it is holds no line feed. -/
structure OneLine (theme : Flat) : Prop where
  author : '\n' ∉ theme.about.author.toList
  iconSet : '\n' ∉ theme.about.iconSet.toList
  paths : ∀ path ∈ theme.rules.map Prod.fst, '\n' ∉ path.toList

/-- The same theme, whatever the order in which it has its colors. -/
def Same (first second : Flat) : Prop :=
  first.about = second.about ∧ ∀ path, first.rules.lookup path = second.rules.lookup path

end Theme.Flat

namespace Output

open Theme

theorem toList_colorLine (entry : String × Rgba) :
    (colorLine entry).toList = (entry.1.toList ++ ['=']) ++ entry.2.toArgbHex.toList := by
  have sign : "=".toList = ['='] := rfl
  rw [colorLine, String.toList_append, String.toList_append, sign]

theorem colorLine_injective : Function.Injective colorLine := by
  intro first second same
  have chars := congrArg String.toList same
  rw [toList_colorLine, toList_colorLine] at chars
  have width : first.2.toArgbHex.toList.length = second.2.toArgbHex.toList.length := by
    rw [Rgba.length_toArgbHex, Rgba.length_toArgbHex]
  obtain ⟨front, color⟩ := List.append_inj' chars width
  apply Prod.ext
  · exact String.toList_inj.mp (List.append_cancel_right front)
  · exact Rgba.toArgbHex_injective (String.toList_inj.mp color)

/-! ### The order of paths -/

theorem sortedByPath_perm (colors : Colors) : (sortedByPath colors).Perm colors :=
  List.mergeSort_perm _ _

theorem sortedByPath_eq_iff {first second : Colors} (distinct : (first.map Prod.fst).Nodup)
    (apart : (second.map Prod.fst).Nodup) :
    sortedByPath first = sortedByPath second ↔
      ∀ path, first.lookup path = second.lookup path := by
  rw [← Ordered.perm_iff_lookup distinct apart]
  constructor
  · intro same
    have moved := sortedByPath_perm first
    rw [same] at moved
    exact moved.symm.trans (sortedByPath_perm second)
  · intro same
    have moved : (sortedByPath first).Perm (sortedByPath second) :=
      (sortedByPath_perm first).trans (same.trans (sortedByPath_perm second).symm)
    apply Layout.eq_of_byName _ moved
    · exact List.pairwise_mergeSort' Layout.ByName first
    · exact List.pairwise_mergeSort' Layout.ByName second
    · exact ((sortedByPath_perm first).map Prod.fst).nodup_iff.mpr distinct

/-! ### The theme file -/

theorem isLine_colorLine {entry : String × Rgba} (oneLine : '\n' ∉ entry.1.toList) :
    IsLine (colorLine entry) := by
  constructor
  · intro empty
    have chars := toList_colorLine entry
    rw [empty] at chars
    simp at chars
  · rw [toList_colorLine]
    simp [oneLine, Rgba.toArgbHex_oneLine]

theorem isLine_of_mem_themeFileLines {theme : Flat} (oneLine : theme.OneLine) :
    ∀ line ∈ themeFileLines theme, IsLine line := by
  intro line member
  rcases List.mem_append.mp member with fixed | color
  · simp only [List.mem_cons, List.not_mem_nil, or_false] at fixed
    rcases fixed with rfl | rfl | rfl | rfl
    · exact ⟨by decide, by decide⟩
    · exact isLine_append ⟨by decide, by decide⟩ oneLine.author
    · exact isLine_append ⟨by decide, by decide⟩ oneLine.iconSet
    · exact ⟨by decide, by decide⟩
  · obtain ⟨entry, listed, rfl⟩ := List.mem_map.mp color
    have stored := (sortedByPath_perm theme.rules).mem_iff.mp listed
    exact isLine_colorLine (oneLine.paths entry.1 (List.mem_map_of_mem stored))

theorem themeFileLines_eq_iff {first second : Flat} (distinct : (first.rules.map Prod.fst).Nodup)
    (apart : (second.rules.map Prod.fst).Nodup) :
    themeFileLines first = themeFileLines second ↔ first.Same second := by
  rw [Flat.Same, ← sortedByPath_eq_iff distinct apart]
  constructor
  · intro same
    simp only [themeFileLines, List.cons_append, List.nil_append, List.cons.injEq, true_and,
      String.append_right_inj] at same
    obtain ⟨author, iconSet, colors⟩ := same
    have about : About.mk first.about.author first.about.iconSet = second.about := by
      rw [author, iconSet]
    exact ⟨about, colorLine_injective.list_map colors⟩
  · rintro ⟨about, colors⟩
    rw [themeFileLines, themeFileLines, about, colors]

theorem themeFile_prints {ε : Type} (theme : Flat) :
    Prints (themeFile theme : Program ε) fun unit depth =>
      String.join ((themeFileLines theme).map (lineText unit depth)) :=
  prints_map_line (themeFileLines theme)

/-- Where no author, icon set or path holds a line feed, themes that are printed as the same text
have the same author and icon set and the same color at each path. In turn the same theme is printed
as the same text, in whatever order it has its colors. -/
theorem themeFile_determines {ε : Type} (first second : Flat)
    (distinct : (first.rules.map Prod.fst).Nodup) (apart : (second.rules.map Prod.fst).Nodup)
    (p : Printer) :
    (first.OneLine → second.OneLine →
      (runAll (themeFile first : Program ε) p).1.text =
        (runAll (themeFile second : Program ε) p).1.text → first.Same second) ∧
    (first.Same second →
      runAll (themeFile first : Program ε) p = runAll (themeFile second : Program ε) p) := by
  rw [themeFile_prints first p, themeFile_prints second p,
    ← themeFileLines_eq_iff distinct apart]
  constructor
  · intro left right same
    have texts := (String.append_right_inj p.text).mp same
    exact join_lineText_inj (isLine_of_mem_themeFileLines left)
      (isLine_of_mem_themeFileLines right) texts
  · intro same
    rw [same]

theorem themeFile_determines_signs :
    runAll (themeFile ⟨⟨"", "@meta"⟩, [("", ⟨1, 2, 3, 4⟩), ("a=", ⟨5, 6, 7, 8⟩)]⟩ : Program Unit)
        ⟨"  ", 1, "", true⟩ =
      runAll (themeFile ⟨⟨"", "@meta"⟩, [("a=", ⟨5, 6, 7, 8⟩), ("", ⟨1, 2, 3, 4⟩)]⟩)
        ⟨"  ", 1, "", true⟩ ∧
    (runAll (themeFile ⟨⟨"", "@meta"⟩, [("", ⟨1, 2, 3, 4⟩), ("a=", ⟨5, 6, 7, 8⟩)]⟩ : Program Unit)
        ⟨"  ", 1, "", true⟩).1.text ≠
      (runAll (themeFile ⟨⟨"", "@meta"⟩, [("", ⟨1, 2, 3, 4⟩), ("=a", ⟨5, 6, 7, 8⟩)]⟩ : Program Unit)
        ⟨"  ", 1, "", true⟩).1.text := by
  constructor
  · apply (themeFile_determines _ _ (by decide) (by decide) _).2
    refine ⟨rfl, (Ordered.perm_iff_lookup (by decide) (by decide)).mp ?_⟩
    exact List.Perm.swap ..
  · intro texts
    have same := (themeFile_determines _ _ (by decide) (by decide) _).1
      ⟨by decide, by decide, by decide⟩ ⟨by decide, by decide, by decide⟩ texts
    exact absurd (same.2 "a=") (by decide)

end Output

end Palette
