import Mathlib.Data.List.TakeDrop
import Palette.Color.Function
import Palette.Proofs.BlankText

/-!
The two ways to write the arguments of a color function: with commas throughout, or with blanks
between the channels and a slash before alpha. Arguments are cut without regard to which of the two
it is, so what has to be shown is that no cut gets in the way of a later one: the outer parentheses
go first, a slash can only be the one before alpha, and a comma counts as one more blank.
-/

namespace Palette

namespace Text

/-! ### Words -/

theorem words_blanks_append {gap : List Char} (blank : gap.all isBlank = true)
    (rest : List Char) : words (gap ++ rest) = words rest := by
  induction gap with
  | nil => rfl
  | cons c gap ih =>
    obtain ⟨first, others⟩ := Bool.and_eq_true_iff.mp blank
    simpa [words, wordsFrom, first] using ih others

theorem wordsFrom_append {word : List Char} (solid : ∀ c ∈ word, isBlank c = false)
    (current rest : List Char) :
    wordsFrom current (word ++ rest) = wordsFrom (current ++ word) rest := by
  induction word generalizing current with
  | nil => simp
  | cons c word ih =>
    have first := solid c List.mem_cons_self
    have others := ih (fun d member => solid d (List.mem_cons_of_mem c member)) (current ++ [c])
    simpa [wordsFrom, first] using others

theorem words_append {word gap : List Char} (filled : word ≠ [])
    (solid : ∀ c ∈ word, isBlank c = false) (apart : gap ≠ []) (blank : gap.all isBlank = true)
    (rest : List Char) : words (word ++ (gap ++ rest)) = word :: words rest := by
  obtain ⟨c, others, rfl⟩ := List.exists_cons_of_ne_nil apart
  obtain ⟨first, behind⟩ := Bool.and_eq_true_iff.mp blank
  rw [words, wordsFrom_append solid, List.nil_append, List.cons_append, wordsFrom, if_pos first,
    if_neg (by simpa using filled)]
  exact congrArg (word :: ·) (words_blanks_append behind rest)

theorem words_append_blanks {word gap : List Char} (filled : word ≠ [])
    (solid : ∀ c ∈ word, isBlank c = false) (blank : gap.all isBlank = true) :
    words (word ++ gap) = [word] := by
  by_cases apart : gap = []
  · rw [apart, words, wordsFrom_append solid, List.nil_append, wordsFrom,
      if_neg (by simpa using filled)]
  · have cut := words_append filled solid apart blank []
    rwa [List.append_nil] at cut

end Text

namespace Rgba

open Text

/-- Whether an argument can be written as it is. Parentheses in it do no harm. -/
def isToken (token : String) : Bool :=
  !token.isEmpty && token.toList.all fun c => !isBlank c && c != ',' && c != '/'

def Marks (mark gap : String) : Prop :=
  ∃ before after, isBlanks before = true ∧ isBlanks after = true ∧ gap = before ++ mark ++ after

inductive Style where
  | commas
  | spaces

/-- What stands between two channels. -/
def Style.Separates : Style → String → Prop
  | .commas, gap => Marks "," gap
  | .spaces, gap => isBlanks gap = true ∧ gap ≠ ""

/-- What stands before alpha. -/
def Style.LeadsAlpha : Style → String → Prop
  | .commas, gap => Marks "," gap
  | .spaces, gap => Marks "/" gap

/-! ### Cutting -/

/-- A comma counts as a blank. -/
def uncomma : Char → Char := fun c => if c = ',' then ' ' else c

def fourthAsAlpha : List String → List String × Option String
  | [a, b, c, d] => ([a, b, c], some d)
  | parts => (parts, none)

theorem span_slash {front : List Char} (unslashed : '/' ∉ front) (rest : List Char)
    (ends : ∀ c ∈ rest.head?, c = '/') : (front ++ rest).span (· ≠ '/') = (front, rest) := by
  have passed : ∀ c ∈ front, decide (c ≠ '/') = true := by
    intro c member
    exact decide_eq_true fun slash => unslashed (slash ▸ member)
  rw [List.span_eq_takeWhile_dropWhile, List.takeWhile_append_of_pos passed,
    List.dropWhile_append_of_pos passed]
  cases rest with
  | nil => simp
  | cons c rest => simp [ends c rfl]

theorem splitArguments_unslashed {text : String} {body : List Char}
    (inside : dropParentheses (stripChars text.toList) = body) (unslashed : '/' ∉ body) :
    splitArguments text = fourthAsAlpha ((words (body.map uncomma)).map String.ofList) := by
  have cut := span_slash unslashed [] (by simp)
  rw [List.append_nil] at cut
  unfold uncomma
  simp only [splitArguments, inside, cut]
  generalize List.map String.ofList _ = parts
  rcases parts with _ | ⟨a, _ | ⟨b, _ | ⟨c, _ | ⟨d, _ | ⟨e, rest⟩⟩⟩⟩⟩ <;> rfl

theorem splitArguments_slashed {text : String} {front alpha : List Char}
    (inside : dropParentheses (stripChars text.toList) = front ++ '/' :: alpha)
    (unslashed : '/' ∉ front) :
    splitArguments text = ((words (front.map uncomma)).map String.ofList,
      some (String.ofList (stripChars alpha))) := by
  have cut := span_slash unslashed ('/' :: alpha) (by simp)
  simp only [splitArguments, inside, cut]
  rfl

/-- The outer parentheses go, whatever the body has of them. -/
theorem dropParentheses_text {lead trail : String} (front : isBlanks lead = true)
    (back : isBlanks trail = true) (body : String) :
    dropParentheses (stripChars (lead ++ "(" ++ body ++ ")" ++ trail).toList) = body.toList := by
  have written : (lead ++ "(" ++ body ++ ")" ++ trail).toList =
      lead.toList ++ (('(' :: (body.toList ++ [')'])) ++ trail.toList) := by simp
  have opening : isBlank '(' = false := by decide
  have closing : isBlank ')' = false := by decide
  have starts : ∀ c ∈ ('(' :: (body.toList ++ [')'])).head?, isBlank c = false := by
    simpa using opening
  have ends : ∀ c ∈ ('(' :: (body.toList ++ [')'])).getLast?, isBlank c = false := by
    rw [← List.cons_append, List.getLast?_concat]
    simpa using closing
  have core : HasCore (lead.toList ++ (('(' :: (body.toList ++ [')'])) ++ trail.toList))
      ('(' :: (body.toList ++ [')'])) := ⟨⟨_, _, front, back, rfl⟩, starts, ends⟩
  rw [written, core.stripChars_eq, dropParentheses]
  simp

/-! ### Rows of arguments -/

/-- Arguments in a row, each with what stands behind it, and blanks in front of the first. -/
inductive Row (style : Style) : List String → String → Prop
  | last {token gap : String} (proper : isToken token = true) (blank : isBlanks gap = true) :
      Row style [token] (token ++ gap)
  | next {token gap rest : String} {tokens : List String} (proper : isToken token = true)
      (between : style.Separates gap) (others : Row style tokens rest) :
      Row style (token :: tokens) (token ++ (gap ++ rest))
  | ahead {gap text : String} {tokens : List String} (blank : isBlanks gap = true)
      (row : Row style tokens text) : Row style tokens (gap ++ text)

section

variable {token : String} (proper : isToken token = true)

include proper

theorem token_filled : token.toList ≠ [] := by
  simpa using (Bool.and_eq_true_iff.mp proper).1

theorem token_plain : ∀ c ∈ token.toList, isBlank c = false ∧ c ≠ ',' ∧ c ≠ '/' := by
  simpa [and_assoc] using (Bool.and_eq_true_iff.mp proper).2

theorem token_solid : ∀ c ∈ token.toList, isBlank c = false :=
  fun c member => (token_plain proper c member).1

theorem token_commaless : ',' ∉ token.toList :=
  fun member => (token_plain proper ',' member).2.1 rfl

theorem token_unslashed : '/' ∉ token.toList :=
  fun member => (token_plain proper '/' member).2.2 rfl

end

theorem map_uncomma {cs : List Char} (plain : ',' ∉ cs) : cs.map uncomma = cs := by
  have same : ∀ c ∈ cs, uncomma c = c := by
    intro c member
    exact if_neg fun (comma : c = ',') => plain (comma ▸ member)
  rw [List.map_congr_left same, List.map_id']

theorem not_mem_blanks {gap : String} (blank : isBlanks gap = true) {c : Char}
    (solid : isBlank c = false) : c ∉ gap.toList := by
  intro member
  rw [List.all_eq_true.mp blank c member] at solid
  cases solid

theorem map_uncomma_blanks {gap : String} (blank : isBlanks gap = true) :
    gap.toList.map uncomma = gap.toList := map_uncomma (not_mem_blanks blank (by decide))

theorem Style.Separates.blank {style : Style} {gap : String} (between : style.Separates gap) :
    gap.toList.map uncomma ≠ [] ∧ (gap.toList.map uncomma).all isBlank = true ∧
      '/' ∉ gap.toList := by
  cases style with
  | commas =>
    obtain ⟨before, after, blank, blankToo, rfl⟩ := between
    have marked : (before ++ "," ++ after).toList = before.toList ++ ',' :: after.toList := by simp
    rw [marked, List.map_append, List.map_cons, map_uncomma_blanks blank,
      map_uncomma_blanks blankToo]
    refine ⟨by simp, ?_, ?_⟩
    · rw [List.all_append, List.all_cons]
      exact Bool.and_eq_true_iff.mpr ⟨blank, Bool.and_eq_true_iff.mpr ⟨by decide, blankToo⟩⟩
    · have front := not_mem_blanks blank (c := '/') (by decide)
      have back := not_mem_blanks blankToo (c := '/') (by decide)
      simp [front, back]
  | spaces =>
    obtain ⟨blank, apart⟩ := between
    rw [map_uncomma_blanks blank]
    exact ⟨by simpa using apart, blank, not_mem_blanks blank (by decide)⟩

theorem words_row {style : Style} {tokens : List String} {text : String}
    (row : Row style tokens text) :
    words (text.toList.map uncomma) = tokens.map String.toList := by
  induction row with
  | last proper blank =>
    rw [String.toList_append, List.map_append, map_uncomma (token_commaless proper),
      map_uncomma_blanks blank,
      words_append_blanks (token_filled proper) (token_solid proper) blank]
    rfl
  | next proper between _ ih =>
    obtain ⟨apart, blank, _⟩ := between.blank
    rw [String.toList_append, String.toList_append, List.map_append, List.map_append,
      map_uncomma (token_commaless proper),
      words_append (token_filled proper) (token_solid proper) apart blank, ih]
    rfl
  | ahead blank _ ih =>
    rw [String.toList_append, List.map_append, map_uncomma_blanks blank, words_blanks_append blank,
      ih]

theorem slash_not_mem_row {style : Style} {tokens : List String} {text : String}
    (row : Row style tokens text) : '/' ∉ text.toList := by
  induction row with
  | last proper blank =>
    have behind := not_mem_blanks blank (c := '/') (by decide)
    simpa [behind] using token_unslashed proper
  | next proper between _ ih =>
    simpa [between.blank.2.2, ih] using token_unslashed proper
  | ahead blank _ ih =>
    have front := not_mem_blanks blank (c := '/') (by decide)
    simpa [front] using ih

section

variable {style : Style} {tokens : List String} {lead body trail : String}

theorem splitArguments_row (front : isBlanks lead = true) (row : Row style tokens body)
    (back : isBlanks trail = true) :
    splitArguments (lead ++ "(" ++ body ++ ")" ++ trail) = fourthAsAlpha tokens := by
  rw [splitArguments_unslashed (dropParentheses_text front back body) (slash_not_mem_row row),
    words_row row]
  simp

theorem splitArguments_row_slash (front : isBlanks lead = true) (row : Row style tokens body)
    (back : isBlanks trail = true) (alpha : String) :
    splitArguments (lead ++ "(" ++ (body ++ "/" ++ alpha) ++ ")" ++ trail) =
      (tokens, some (strip alpha)) := by
  have inside := dropParentheses_text front back (body ++ "/" ++ alpha)
  have marked : (body ++ "/" ++ alpha).toList = body.toList ++ '/' :: alpha.toList := by simp
  rw [marked] at inside
  rw [splitArguments_slashed inside (slash_not_mem_row row), words_row row]
  simp [strip]

end

theorem strip_token {before token after : String} (front : isBlanks before = true)
    (proper : isToken token = true) (back : isBlanks after = true) :
    strip (before ++ (token ++ after)) = token := by
  have starts : ∀ c ∈ token.toList.head?, isBlank c = false :=
    fun c first => token_solid proper c (List.mem_of_mem_head? first)
  have ends : ∀ c ∈ token.toList.getLast?, isBlank c = false :=
    fun c last => token_solid proper c (List.mem_of_mem_getLast? last)
  exact strip_eq_iff.mpr ⟨⟨before.toList, after.toList, front, back, by simp⟩, starts, ends⟩

/-- Three channels, and alpha behind them if it is there, are cut alike in both styles. -/
theorem splitArguments_either_style (style : Style) {red green blue alpha : String}
    (proper : ∀ token ∈ [red, green, blue, alpha], isToken token = true)
    {lead ahead first second third behind trail : String}
    (blank : ∀ gap ∈ [lead, ahead, behind, trail], isBlanks gap = true)
    (between : ∀ gap ∈ [first, second], style.Separates gap) (last : style.LeadsAlpha third) :
    splitArguments (lead ++ "(" ++ ahead ++ red ++ first ++ green ++ second ++ blue ++ third ++
        alpha ++ behind ++ ")" ++ trail) = ([red, green, blue], some alpha) ∧
    splitArguments (lead ++ "(" ++ ahead ++ red ++ first ++ green ++ second ++ blue ++ behind ++
        ")" ++ trail) = ([red, green, blue], none) := by
  simp only [List.forall_mem_cons, List.not_mem_nil, false_implies, implies_true, and_true]
    at proper blank between
  obtain ⟨properRed, properGreen, properBlue, properAlpha⟩ := proper
  obtain ⟨blankLead, blankAhead, blankBehind, blankTrail⟩ := blank
  obtain ⟨betweenFirst, betweenSecond⟩ := between
  -- The channels and any end that makes a row with them.
  have row : ∀ {tokens rest}, Row style tokens (blue ++ rest) →
      Row style (red :: green :: tokens)
        (ahead ++ (red ++ (first ++ (green ++ (second ++ (blue ++ rest)))))) := fun others =>
    .ahead blankAhead (.next properRed betweenFirst (.next properGreen betweenSecond others))
  constructor
  · cases style with
    | commas =>
      have cut := splitArguments_row blankLead
        (row (.next properBlue last (.last properAlpha blankBehind))) blankTrail
      simpa only [fourthAsAlpha, String.append_assoc] using cut
    | spaces =>
      obtain ⟨before, after, blankBefore, blankAfter, rfl⟩ := last
      have cut := splitArguments_row_slash blankLead (row (.last properBlue blankBefore)) blankTrail
        (after ++ (alpha ++ behind))
      rw [strip_token blankAfter properAlpha blankBehind] at cut
      simpa only [String.append_assoc] using cut
  · have cut := splitArguments_row blankLead (row (.last properBlue blankBehind)) blankTrail
    simpa only [fourthAsAlpha, String.append_assoc] using cut

theorem splitArguments_either_style_spaced :
    splitArguments "\t(1,(2),3%, .5 )" = (["1", "(2)", "3%"], some ".5") ∧
    splitArguments "( 1 \n(2)\u20033% /.5)" = (["1", "(2)", "3%"], some ".5") ∧
    splitArguments "( 1 \n(2)\u20033%)" = (["1", "(2)", "3%"], none) := by
  have narrow : ∀ gap ∈ [",", ","], Style.commas.Separates gap := by
    simp only [List.forall_mem_cons, List.not_mem_nil, false_implies, implies_true, and_true]
    exact ⟨⟨"", "", rfl, rfl, rfl⟩, ⟨"", "", rfl, rfl, rfl⟩⟩
  have wide : ∀ gap ∈ [" \n", "\u2003"], Style.spaces.Separates gap := by
    simp only [List.forall_mem_cons, List.not_mem_nil, false_implies, implies_true, and_true]
    exact ⟨⟨rfl, by decide⟩, ⟨rfl, by decide⟩⟩
  have commas := @splitArguments_either_style .commas "1" "(2)" "3%" ".5" (by decide)
    "\t" "" "," "," ", " " " "" (by decide) narrow ⟨"", " ", rfl, rfl, rfl⟩
  have spaces := @splitArguments_either_style .spaces "1" "(2)" "3%" ".5" (by decide)
    "" " " " \n" "\u2003" " /" "" "" (by decide) wide ⟨" ", "", rfl, rfl, rfl⟩
  exact ⟨commas.1, spaces⟩

end Rgba

end Palette
