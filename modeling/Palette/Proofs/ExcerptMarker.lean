import Palette.Excerpt
import Palette.Proofs.Outline
import Palette.Proofs.TextDecoding
import Palette.Stylesheet.Cursor

/-!
Where the marker of an excerpt stands. The line number in front of the source takes five columns or
more, and the column of a node counts bytes. The marker is set as if the number took five columns
and every byte were a character, so it stands under the character it is about where both hold, and
else only if one difference makes up for the other.
-/

namespace Palette

/-! ### Lines of a text -/

namespace Text

theorem lines_eq_splitOn (cs : List Char) : lines cs = cs.splitOn '\n' := by
  induction cs with
  | nil => rfl
  | cons c cs ih =>
    rw [lines, List.splitOn_cons_eq_if_modifyHead, ih]
    by_cases ends : c = '\n'
    · rw [if_pos ends, if_pos (by simp [ends])]
    · rw [if_neg ends, if_neg (by simp [ends])]
      obtain ⟨first, rest, split⟩ := List.exists_cons_of_ne_nil (List.splitOn_ne_nil '\n' cs)
      rw [split]
      rfl

theorem lines_of_oneLine {cs : List Char} (oneLine : '\n' ∉ cs) : lines cs = [cs] := by
  rw [lines_eq_splitOn, List.splitOn_eq_singleton oneLine]

theorem lines_break (above below : List Char) :
    lines (above ++ '\n' :: below) = lines above ++ lines below := by
  simp only [lines_eq_splitOn, List.splitOn_append_cons_self]

theorem lines_prepend {front : List Char} (oneLine : '\n' ∉ front) (rest : List Char) :
    ∃ first others, lines (front ++ rest) = (front ++ first) :: others := by
  by_cases broken : '\n' ∈ rest
  · obtain ⟨first, below, rfl, inside⟩ := List.eq_append_cons_of_mem broken
    refine ⟨first, lines below, ?_⟩
    rw [← List.append_assoc, Target.lines_append]
    simp [oneLine, inside]
  · refine ⟨rest, [], lines_of_oneLine ?_⟩
    simp [oneLine, broken]

/-- A line of a text has no break in it, and stands behind the lines above and their breaks. -/
theorem line_of_lines {cs line : List Char} {row : Nat} (listed : (lines cs)[row]? = some line) :
    '\n' ∉ line ∧
      ∃ behind, cs = ((lines cs).take row).flatMap (· ++ ['\n']) ++ (line ++ behind) := by
  induction row generalizing cs with
  | zero =>
    by_cases broken : '\n' ∈ cs
    · obtain ⟨first, rest, rfl, inside⟩ := List.eq_append_cons_of_mem broken
      rw [Target.lines_append _ _ inside] at listed ⊢
      obtain rfl : first = line := by simpa using listed
      exact ⟨inside, '\n' :: rest, rfl⟩
    · rw [lines_of_oneLine broken] at listed ⊢
      obtain rfl : cs = line := by simpa using listed
      exact ⟨broken, [], by simp⟩
  | succ row ih =>
    by_cases broken : '\n' ∈ cs
    · obtain ⟨first, rest, rfl, inside⟩ := List.eq_append_cons_of_mem broken
      rw [Target.lines_append _ _ inside] at listed ⊢
      obtain ⟨oneLine, behind, same⟩ := ih (by simpa using listed)
      refine ⟨oneLine, behind, ?_⟩
      rw [List.take_succ_cons, List.flatMap_cons, List.append_assoc, ← same]
      simp
    · rw [lines_of_oneLine broken] at listed
      cases listed

def byteLength (cs : List Char) : Nat := (encode (String.ofList cs)).length

theorem byteLength_cons (c : Char) (cs : List Char) :
    byteLength (c :: cs) = c.utf8Size + byteLength cs := by
  simp [byteLength, encode, String.length_utf8EncodeChar]

theorem length_le_byteLength (cs : List Char) : cs.length ≤ byteLength cs := by
  induction cs with
  | nil => exact Nat.zero_le _
  | cons c cs ih =>
    have := c.utf8Size_pos
    rw [byteLength_cons, List.length_cons]
    omega

/-- Only ASCII has as many bytes as characters. -/
theorem byteLength_eq_length_iff (cs : List Char) :
    byteLength cs = cs.length ↔ ∀ c ∈ cs, c.toNat < 128 := by
  induction cs with
  | nil => simp [byteLength, encode]
  | cons c cs ih =>
    have least := c.utf8Size_pos
    have rest := length_le_byteLength cs
    have one : c.utf8Size = 1 ↔ c.toNat < 128 := by
      rw [Char.utf8Size_eq_one_iff, UInt32.le_iff_toNat_le]
      change c.val.toNat ≤ 127 ↔ c.val.toNat < 128
      omega
    rw [byteLength_cons, List.length_cons, List.forall_mem_cons, ← one, ← ih]
    omega

theorem mem_dropReturn {c : Char} {line : List Char} (member : c ∈ dropReturn line) : c ∈ line := by
  unfold dropReturn at member
  split at member
  · exact (List.dropLast_sublist line).mem member
  · exact member

end Text

/-! ### The place of a character -/

namespace Stylesheet

open Text

/-- The place behind a character that stands at a place. -/
def Point.behind (p : Point) (c : Char) : Point :=
  if c = '\n' then ⟨p.row + 1, 0⟩ else ⟨p.row, p.column + c.utf8Size⟩

theorem Cursor.point_advance {front rest : List Char} {c : Cursor} (here : c.rest = front ++ rest) :
    (c.advance front.length).point = front.foldl Point.behind c.point := by
  induction front generalizing c with
  | nil => rfl
  | cons ch front ih =>
    have forward : c.forward.rest = front ++ rest ∧ c.forward.point = c.point.behind ch := by
      rw [Cursor.forward, here]
      exact ⟨rfl, rfl⟩
    rw [List.length_cons, Cursor.advance, ih forward.1, forward.2, List.foldl_cons]

theorem behind_line {line : List Char} (oneLine : '\n' ∉ line) (p : Point) :
    line.foldl Point.behind p = ⟨p.row, p.column + byteLength line⟩ := by
  induction line generalizing p with
  | nil => rfl
  | cons c line ih =>
    have inside : c ≠ '\n' := fun broken => oneLine (by simp [broken])
    have below : '\n' ∉ line := fun member => oneLine (by simp [member])
    rw [List.foldl_cons, ih below, Point.behind, if_neg inside, byteLength_cons, Nat.add_assoc]

theorem behind_lines {lines : List (List Char)} (oneLine : ∀ line ∈ lines, '\n' ∉ line)
    (row : Nat) :
    (lines.flatMap (· ++ ['\n'])).foldl Point.behind ⟨row, 0⟩ = ⟨row + lines.length, 0⟩ := by
  induction lines generalizing row with
  | nil => rfl
  | cons line lines ih =>
    have ended : (line ++ ['\n']).foldl Point.behind ⟨row, 0⟩ = ⟨row + 1, 0⟩ := by
      rw [List.foldl_append, behind_line (oneLine line (by simp))]
      rfl
    rw [List.flatMap_cons, List.foldl_append, ended,
      ih (fun other member => oneLine other (by simp [member])), List.length_cons]
    congr 1
    omega

def cursorAt (source : String) (row offset : Nat) : Cursor :=
  let all := lines source.toList
  let before := (all.take row).flatMap (· ++ ['\n']) ++ (all.getD row []).take offset
  Cursor.advance before.length { rest := source.toList }

theorem point_cursorAt {source : String} {row : Nat} {line : List Char}
    (listed : (lines source.toList)[row]? = some line) (offset : Nat) :
    (cursorAt source row offset).point = ⟨row, byteLength (line.take offset)⟩ := by
  obtain ⟨oneLine, behind, same⟩ := line_of_lines listed
  have above : ∀ other ∈ (lines source.toList).take row, '\n' ∉ other := by
    intro other member
    obtain ⟨n, found⟩ := List.mem_iff_getElem?.mp (List.mem_of_mem_take member)
    exact (line_of_lines found).1
  have front : '\n' ∉ line.take offset := fun member => oneLine (List.mem_of_mem_take member)
  have enough : row < (lines source.toList).length := (List.getElem?_eq_some_iff.mp listed).1
  have here : source.toList =
      (((lines source.toList).take row).flatMap (· ++ ['\n']) ++ line.take offset) ++
        (line.drop offset ++ behind) := by
    rw [List.append_assoc, ← List.append_assoc (line.take offset), List.take_append_drop]
    exact same
  have found : (lines source.toList).getD row [] = line := by
    rw [List.getD_eq_getElem?_getD, listed]
    rfl
  rw [cursorAt, found, Cursor.point_advance here, List.foldl_append, behind_lines above 0,
    behind_line front]
  simp [Nat.min_eq_left (Nat.le_of_lt enough)]

end Stylesheet

/-! ### The marker -/

namespace Excerpt

open Text Stylesheet

def excerptOf (name source message : String) (node : Node) : String :=
  let place := node.label.startPoint.location
  render name source message place.line place.column

/-- The lines of an excerpt behind its heading. -/
def bodyLines (name excerpt : String) : List (List Char) :=
  (lines excerpt.toList).drop (lines (name ++ ":").toList).length

/-- In the line above the marker a source line is shown, and the marker stands under the character
at an offset of it. -/
def MarksUnder (name excerpt : String) (line : List Char) (offset : Nat) : Prop :=
  ∃ previous gutter rest others, bodyLines name excerpt =
    previous :: (gutter ++ line) ::
      (List.replicate (gutter.length + offset) ' ' ++ '╰' :: rest) :: others

abbrev digitsOf (number : Nat) : List Char := Nat.toDigits 10 number

def gutter (number : Nat) : List Char :=
  List.replicate (5 - (digitsOf number).length) ' ' ++ digitsOf number ++ ['│', ' ']

theorem length_gutter (number : Nat) :
    (gutter number).length = max 5 (digitsOf number).length + 2 := by
  simp only [gutter, List.length_append, List.length_replicate, List.length_cons, List.length_nil]
  omega

theorem toList_numbered (number : Nat) (line : List Char) :
    (numbered number line).toList = gutter number ++ dropReturn line := by
  have digits : (toString (number : Int)).toList = digitsOf number := Target.toList_toString number
  have length : (toString (number : Int)).length = (digitsOf number).length := by
    rw [← String.length_toList, digits]
  rw [numbered, padLeft, length, gutter]
  simp only [String.toList_append, String.toList_ofList, digits]
  rfl

theorem oneLine_numbered (number : Nat) {line : List Char} (oneLine : '\n' ∉ line) :
    '\n' ∉ (numbered number line).toList := by
  have digits := Target.toString_oneLine number
  rw [Target.toList_toString] at digits
  rw [toList_numbered, gutter]
  intro member
  simp only [List.mem_append, List.mem_cons, List.not_mem_nil, or_false] at member
  rcases member with ((blank | digit) | border) | inside
  · exact absurd (List.eq_of_mem_replicate blank) (by decide)
  · exact digits digit
  · exact absurd border (by decide)
  · exact oneLine (mem_dropReturn inside)

/-- The marker stands behind seven blanks and one more for each byte before the column. -/
theorem toList_marker (bytes : Nat) (message : String) :
    (marker (bytes + 1 : Nat) message).toList =
      List.replicate (7 + bytes) ' ' ++ ('╰' :: '─' :: '►' :: ' ' :: message.toList) := by
  have blanks : (5 + 2 + ((bytes + 1 : Nat) : Int) - 1).toNat = 7 + bytes := by omega
  rw [marker, blanks]
  simp

theorem lines_marker (bytes : Nat) (message : String) :
    ∃ rest others, lines (marker (bytes + 1 : Nat) message).toList =
      (List.replicate (7 + bytes) ' ' ++ '╰' :: rest) :: others := by
  have oneLine : '\n' ∉ List.replicate (7 + bytes) ' ' ++ ['╰', '─', '►', ' '] := by
    simp [List.mem_replicate]
  obtain ⟨first, others, split⟩ := lines_prepend oneLine message.toList
  refine ⟨'─' :: '►' :: ' ' :: first, others, ?_⟩
  rw [toList_marker]
  simpa using split

section

variable {source : String} {row : Nat} {line : List Char}

theorem render_eq {previous : List Char} (listed : (lines source.toList)[row + 1]? = some line)
    (above : (lines source.toList)[row]? = some previous) (name message : String) (bytes : Nat) :
    render name source message (row + 2 : Nat) (bytes + 1 : Nat) =
      "\n".intercalate [name ++ ":", numbered (row + 1 : Nat) previous,
        numbered (row + 2 : Nat) line, marker (bytes + 1 : Nat) message] := by
  have enough : row + 1 < (lines source.toList).length := (List.getElem?_eq_some_iff.mp listed).1
  have inside : ¬ (((row + 2 : Nat) : Int) < 2 ∨
      ((row + 2 : Nat) : Int) > (lines source.toList).length ∨ ((bytes + 1 : Nat) : Int) < 1) := by
    omega
  have one : (((row + 2 : Nat) : Int) - 2).toNat = row := by omega
  have number : ((row + 2 : Nat) : Int) - 1 = (row + 1 : Nat) := by omega
  simp only [render, if_neg inside, one, number, Int.toNat_natCast, List.getD_eq_getElem?_getD,
    listed, above, Option.getD_some]

/-- Behind its heading an excerpt has the line above, the line itself and the marker. -/
theorem bodyLines_render (listed : (lines source.toList)[row + 1]? = some line)
    (name message : String) (bytes : Nat) :
    ∃ previous rest others,
      bodyLines name (render name source message (row + 2 : Nat) (bytes + 1 : Nat)) =
        previous :: (gutter (row + 2) ++ dropReturn line) ::
          (List.replicate (7 + bytes) ' ' ++ '╰' :: rest) :: others := by
  have enough : row < (lines source.toList).length := by
    have := (List.getElem?_eq_some_iff.mp listed).1
    omega
  obtain ⟨previous, above⟩ : ∃ previous, (lines source.toList)[row]? = some previous :=
    ⟨_, List.getElem?_eq_getElem enough⟩
  have whole := oneLine_numbered (row + 1) (line_of_lines above).1
  have wholeToo := oneLine_numbered (row + 2) (line_of_lines listed).1
  obtain ⟨rest, others, marked⟩ := lines_marker bytes message
  have text : (render name source message (row + 2 : Nat) (bytes + 1 : Nat)).toList =
      (name ++ ":").toList ++ '\n' :: ((numbered (row + 1 : Nat) previous).toList ++ '\n' ::
        ((numbered (row + 2 : Nat) line).toList ++ '\n' ::
          (marker (bytes + 1 : Nat) message).toList)) := by
    rw [render_eq listed above, String.toList_intercalate]
    simp
  refine ⟨(numbered (row + 1 : Nat) previous).toList, rest, others, ?_⟩
  rw [bodyLines, text, lines_break, List.drop_left, Target.lines_append _ _ whole,
    Target.lines_append _ _ wholeToo, marked, toList_numbered (row + 2)]

theorem replicate_marker_inj {n m : Nat} {rest rest' : List Char}
    (same : List.replicate n ' ' ++ '╰' :: rest = List.replicate m ' ' ++ '╰' :: rest') :
    n = m := by
  have blanks : ∀ k (cs : List Char),
      ((List.replicate k ' ' ++ '╰' :: cs).takeWhile (· = ' ')).length = k := by
    intro k cs
    rw [List.takeWhile_append_of_pos (by simp)]
    simp
  rw [← blanks n rest, same, blanks m rest']

theorem excerptOf_nodeAt (listed : (lines source.toList)[row + 1]? = some line)
    (name message kind : String) (stop : Cursor) (children : List Node) (offset : Nat) :
    excerptOf name source message (nodeAt kind (cursorAt source (row + 1) offset) stop children) =
      render name source message (row + 2 : Nat) (byteLength (line.take offset) + 1 : Nat) := by
  have start : (nodeAt kind (cursorAt source (row + 1) offset) stop children).label.startPoint =
      ⟨row + 1, byteLength (line.take offset)⟩ := point_cursorAt listed offset
  rw [excerptOf, start]
  rfl

theorem marksUnder_render_iff (listed : (lines source.toList)[row + 1]? = some line)
    (name message : String) (bytes offset : Nat) :
    MarksUnder name (render name source message (row + 2 : Nat) (bytes + 1 : Nat))
        (dropReturn line) offset ↔
      max 5 (digitsOf (row + 2)).length + 2 + offset = 7 + bytes := by
  obtain ⟨previous, rest, others, body⟩ := bodyLines_render listed name message bytes
  rw [MarksUnder, body, ← length_gutter]
  constructor
  · intro ⟨_, front, _, _, same⟩
    obtain ⟨_, same⟩ := List.cons.inj same
    obtain ⟨shown, same⟩ := List.cons.inj same
    obtain ⟨marked, _⟩ := List.cons.inj same
    rw [List.append_cancel_right shown]
    exact (replicate_marker_inj marked).symm
  · intro aligned
    exact ⟨previous, gutter (row + 2), rest, others, by rw [aligned]⟩

theorem length_digitsOf_le {number : Nat} (small : number < 100000) :
    (digitsOf number).length ≤ 5 :=
  (Nat.length_toDigits_le_iff (by decide) (by decide)).mpr small

theorem length_dropReturn_le (line : List Char) : (dropReturn line).length ≤ line.length := by
  unfold dropReturn
  split
  · exact (List.dropLast_sublist line).length_le
  · exact Nat.le_refl _

theorem length_take_of_shown {offset : Nat} (shown : offset < (dropReturn line).length) :
    (line.take offset).length = offset := by
  have := length_dropReturn_le line
  rw [List.length_take]
  omega

theorem marksUnder_excerptOf_iff (listed : (lines source.toList)[row + 1]? = some line)
    {offset : Nat} (shown : offset < (dropReturn line).length) (name message kind : String)
    (stop : Cursor) (children : List Node) :
    MarksUnder name (excerptOf name source message
        (nodeAt kind (cursorAt source (row + 1) offset) stop children)) (dropReturn line) offset ↔
      (digitsOf (row + 2)).length - 5 = byteLength (line.take offset) - offset := by
  have length := length_take_of_shown shown
  have least := length_le_byteLength (line.take offset)
  rw [excerptOf_nodeAt listed, marksUnder_render_iff listed]
  omega

end

/-- An excerpt for a node that starts at a character of the second or a later line shows that line
behind its number, and below it the marker behind as many blanks as there are bytes before the
character, and seven. So the marker stands under the character exactly if the line number has as
many digits beyond five as there are bytes beyond the characters, which up to line 99999 means that
only ASCII stands before the character. -/
theorem excerptOf_marks (name source message kind : String) (stop : Cursor) (children : List Node)
    (row offset : Nat) (line : List Char) (listed : (lines source.toList)[row + 1]? = some line)
    (shown : offset < (dropReturn line).length) :
    let excerpt := excerptOf name source message
      (nodeAt kind (cursorAt source (row + 1) offset) stop children)
    (∃ previous gutter rest others, gutter.length = max 5 (digitsOf (row + 2)).length + 2 ∧
      bodyLines name excerpt = previous :: (gutter ++ dropReturn line) ::
        (List.replicate (7 + byteLength (line.take offset)) ' ' ++ '╰' :: rest) :: others) ∧
    (MarksUnder name excerpt (dropReturn line) offset ↔
      (digitsOf (row + 2)).length - 5 = byteLength (line.take offset) - offset) ∧
    (row + 2 < 100000 → (MarksUnder name excerpt (dropReturn line) offset ↔
      ∀ c ∈ line.take offset, c.toNat < 128)) := by
  have aligned := marksUnder_excerptOf_iff listed shown name message kind stop children
  refine ⟨?_, aligned, fun small => ?_⟩
  · obtain ⟨previous, rest, others, body⟩ :=
      bodyLines_render listed name message (byteLength (line.take offset))
    refine ⟨previous, gutter (row + 2), rest, others, length_gutter (row + 2), ?_⟩
    rw [excerptOf_nodeAt listed, body]
  · have digits := length_digitsOf_le small
    have length := length_take_of_shown shown
    have least := length_le_byteLength (line.take offset)
    rw [aligned, ← byteLength_eq_length_iff]
    omega

theorem excerptOf_marks_ascii :
    MarksUnder "Dark.css" (excerptOf "Dark.css" "a \x7b\r\n    b: nope;\r\n\x7d\n" "bad"
        (nodeAt "plain_value" (cursorAt "a \x7b\r\n    b: nope;\r\n\x7d\n" 1 7) { rest := [] } []))
      "    b: nope;".toList 7 := by
  have listed : (lines "a \x7b\r\n    b: nope;\r\n\x7d\n".toList)[0 + 1]? =
      some "    b: nope;\r".toList := by decide
  have marks := excerptOf_marks "Dark.css" "a \x7b\r\n    b: nope;\r\n\x7d\n" "bad" "plain_value"
    { rest := [] } [] 0 7 "    b: nope;\r".toList listed (by decide)
  have ascii : ("    b: nope;\r".toList.take 7).all (·.toNat < 128) = true := by decide
  exact (marks.2.2 (by decide)).mpr fun c member =>
    of_decide_eq_true (List.all_eq_true.mp ascii c member)

theorem excerptOf_marks_beside :
    ¬ ∀ (name source message kind : String) (stop : Cursor) (children : List Node)
      (row offset : Nat) (line : List Char), (lines source.toList)[row + 1]? = some line →
      offset < (dropReturn line).length →
      MarksUnder name (excerptOf name source message
          (nodeAt kind (cursorAt source (row + 1) offset) stop children))
        (dropReturn line) offset := by
  intro claimed
  have listed : (lines "a\né: x".toList)[0 + 1]? = some "é: x".toList := by decide
  have shown : 1 < (dropReturn "é: x".toList).length := by decide
  have aligned := marksUnder_excerptOf_iff listed shown "Dark.css" "bad" "declaration"
    { rest := [] } []
  exact absurd (aligned.mp (claimed _ _ _ _ _ _ _ _ _ listed shown)) (by decide)

end Excerpt

end Palette
