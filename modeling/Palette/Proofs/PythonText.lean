import Palette.Matcher.Languages
import Palette.Proofs.Outline
import Palette.Proofs.TestWording

/-!
Reading Python: the lexical rules, the layout by indentation, and the grammar of the statements that
a lookup function is made of. Indentation is measured twice, with tab stops at every eighth column
and with a tab as wide as a space; lines are only related when both measures agree.
-/

namespace Palette.Target.Python

open KeyTrie Matcher

def unit? : List Char → Option (UInt8 × Nat)
  | [] | ['\\'] => none
  | '\\' :: 'x' :: c :: d :: _ => (hexValue? 0 [c, d]).map fun n => (UInt8.ofNat n, 4)
  | '\\' :: c :: _ => (simpleEscape? c).map fun b => (b, 2)
  | c :: _ => plainUnit? c

def literal? : List Char → Option (Token × Nat)
  | 'b' :: '\'' :: rest =>
      (quotedContent '\'' unit? rest).map fun (bytes, length) => (.bytes bytes, length + 2)
  | 'b' :: '"' :: rest =>
      (quotedContent '"' unit? rest).map fun (bytes, length) => (.bytes bytes, length + 2)
  | _ => none

def numeral? : List Char → Option Nat
  | '0' :: 'x' :: digit :: digits => hexValue? 0 (digit :: digits)
  | run => decimal? run

def lexicon : Lexicon where
  signs := ["==", ">=", "->", "(", ")", "[", "]", ":", ",", "-"]
  numeral? := numeral?
  literal? := literal?

/-! ### Layout -/

structure Indent where
  /-- The column with tab stops. -/
  column : Nat
  /-- The column where a tab is one wide. -/
  narrow : Nat
  deriving DecidableEq

def margin : Indent := ⟨0, 0⟩

def Indent.advance (indent : Indent) (blank : Char) : Indent where
  column := if blank = '\t' then (indent.column / 8 + 1) * 8 else indent.column + 1
  narrow := indent.narrow + 1

def Indent.ofBlanks (blanks : List Char) : Indent := blanks.foldl Indent.advance margin

/-- Ends blocks until a line stands where a block that is still open stands. -/
def settle (indent : Indent) : List Indent → Option (List Token × List Indent)
  | [] => if indent = margin then some ([], []) else none
  | top :: below =>
      if indent = top then some ([], top :: below)
      else if indent.column < top.column then
        (settle indent below).map fun (moves, stack) => (.dedent :: moves, stack)
      else none

/-- Begins or ends blocks for a line, with the indentations of the open blocks on the stack. -/
def enter (indent : Indent) (stack : List Indent) : Option (List Token × List Indent) :=
  if (stack.headD margin).column < indent.column ∧ (stack.headD margin).narrow < indent.narrow then
    some ([.indent], indent :: stack)
  else settle indent stack

def layout (stack : List Indent) : List (List Char × List Token) → Option (List Token)
  | [] => some (stack.map fun _ => .dedent)
  | (blanks, tokens) :: rest =>
      match enter (Indent.ofBlanks blanks) stack with
      | none => none
      | some (moves, stack) => (layout stack rest).map (moves ++ tokens ++ .newline :: ·)

/-! ### Grammar -/

def comparison : Parse Condition
  | .word "size" :: .sign ">=" :: .number least :: rest => some (.sizeAtLeast least, rest)
  | .word "size" :: .sign "==" :: .number length :: rest => some (.sizeIs length, rest)
  | .word "data" :: .sign "[" :: .number position :: .sign "]" :: .sign "==" :: .number value ::
      rest => some (.byteIs position value, rest)
  | .word "data" :: .sign "[" :: .number start :: .sign ":" :: .number stop :: .sign "]" ::
      .sign "==" :: .bytes bytes :: rest => some (.sliceIs start stop bytes, rest)
  | _ => none

def condition : Parse Condition := fun tokens =>
  match conjunction comparison (.word "and") tokens.length tokens with
  | some (condition, .sign ":" :: .newline :: .indent :: rest) => some (condition, rest)
  | _ => none

def closes (token : Token) : Bool := token = .dedent

def suite (one : Parse Statement) : Parse Code := fun tokens =>
  match statements one closes (tokens.length + 1) tokens with
  | some (.cons first others, .dedent :: rest) => some (.cons first others, rest)
  | _ => none

/-- One statement, in which others are nested less than `fuel` deep. An `elif` is an `if` in the
alternative. -/
def statement : Nat → Parse Statement
  | 0, _ => none
  | fuel + 1, tokens =>
      match tokens with
      | .word "return" :: rest =>
          match value rest with
          | some (v, .newline :: rest) => some (.answer v, rest)
          | _ => none
      | .word "if" :: rest =>
          match condition rest with
          | none => none
          | some (condition, rest) =>
              match suite (statement fuel) rest with
              | none => none
              | some (yes, .word "elif" :: rest) =>
                  (statement fuel (.word "if" :: rest)).map fun (no, rest) =>
                    (.choose condition yes (.cons no .done), rest)
              | some (yes, rest) => some (.choose condition yes .done, rest)
      | _ => none

def header : List Token :=
  [.word "def", .word "get_data_index", .sign "(", .word "data", .sign ":", .word "bytes",
    .sign ",", .word "size", .sign ":", .word "int", .sign ")", .sign "->", .word "int", .sign ":",
    .newline, .indent]

def read (text : String) : Option Code :=
  match sourceRows lexicon (Text.lines text.toList) with
  | none => none
  | some rows =>
      match layout [] rows with
      | none => none
      | some tokens =>
          match header.isPrefixOf? tokens with
          | none => none
          | some body =>
              match suite (statement body.length) body with
              | some (code, []) => some code
              | _ => none

/-! ### Literals and numbers -/

theorem hex_chars (b : UInt8) : (Text.hex 2 b.toNat).toList =
    [(b.toNat / 16).digitChar, (b.toNat % 16).digitChar] := by
  have small := b.toNat_lt
  rw [Text.hex, padded_digits 16 0 _ (by decide), padded_digit 16 _ (by omega)]
  rfl

theorem hexDigit_digitChar : ∀ n < 16, hexDigit? n.digitChar = some n ∧
    isWordChar n.digitChar = true ∧ n.digitChar ≠ '\'' ∧ n.digitChar ≠ '"' ∧ n.digitChar ≠ '\\' ∧
    '\n' ≠ n.digitChar := by decide

theorem hexValue?_hex (b : UInt8) : hexValue? 0 (Text.hex 2 b.toNat).toList = some b.toNat := by
  have small := b.toNat_lt
  have high := (hexDigit_digitChar (b.toNat / 16) (by omega)).1
  have low := (hexDigit_digitChar (b.toNat % 16) (by omega)).1
  rw [hex_chars]
  simp only [hexValue?, high, low, Option.some.injEq]
  omega

theorem shortEscape?_some {quote c : Char} {escape : String} (kind : quote = '\'' ∨ quote = '"')
    (found : Text.shortEscape? quote c = some escape) : ∃ d, escape.toList = ['\\', d] ∧
      simpleEscape? d = some (UInt8.ofNat c.toNat) ∧ d ≠ 'x' ∧ '\n' ≠ d := by
  unfold Text.shortEscape? at found
  split_ifs at found with backslash quoted newline carriage tab
  · obtain rfl := Option.some.inj found
    exact ⟨'\\', rfl, by rw [backslash]; rfl, by decide, by decide⟩
  · obtain rfl := Option.some.inj found
    refine ⟨quote, String.toList_ofList, ?_⟩
    rw [quoted]
    rcases kind with rfl | rfl <;> exact ⟨rfl, by decide, by decide⟩
  · obtain rfl := Option.some.inj found
    exact ⟨'n', rfl, by rw [newline]; rfl, by decide, by decide⟩
  · obtain rfl := Option.some.inj found
    exact ⟨'r', rfl, by rw [carriage]; rfl, by decide, by decide⟩
  · obtain rfl := Option.some.inj found
    exact ⟨'t', rfl, by rw [tab]; rfl, by decide, by decide⟩

theorem shortEscape?_none {quote c : Char} (none : Text.shortEscape? quote c = none) :
    c ≠ quote ∧ c ≠ '\\' ∧ c ≠ '\n' := by
  unfold Text.shortEscape? at none
  split_ifs at none with backslash quoted newline
  exact ⟨quoted, backslash, newline⟩

theorem writes_quotedByte (quote : Char) (kind : quote = '\'' ∨ quote = '"') (b : UInt8) :
    Writes quote unit? b (Text.quotedByte quote b).toList := by
  have noBackslash : quote ≠ '\\' := by rcases kind with rfl | rfl <;> decide
  unfold Text.quotedByte
  simp only
  cases found : Text.shortEscape? quote (Char.ofNat b.toNat) with
  | some escape =>
      obtain ⟨d, written, denotes, noHex, oneLine⟩ := shortEscape?_some kind found
      rw [toNat_char, UInt8.ofNat_toNat] at denotes
      rw [written]
      refine writes_escape quote d [] unit? b noBackslash (by simp) (by simpa using oneLine) ?_
      intro rest
      simp [unit?, noHex, denotes]
  | none =>
      obtain ⟨quoted, backslash, newline⟩ := shortEscape?_none found
      simp only
      split_ifs with printable
      · have visible : 0x20 ≤ b.toNat ∧ b.toNat ≤ 0x7E := by
          rw [Bool.and_eq_true, decide_eq_true_eq, decide_eq_true_eq] at printable
          exact ⟨UInt8.le_iff_toNat_le.mp printable.1, UInt8.le_iff_toNat_le.mp printable.2⟩
        have self : (Char.ofNat b.toNat).toString.toList = [Char.ofNat b.toNat] :=
          String.toList_singleton _
        rw [self]
        refine writes_plain quote _ unit? b ⟨quoted, backslash⟩ (Ne.symm newline) ?_
        intro rest
        rw [unit?, plainUnit?_byte b visible] <;> simp [backslash]
      · have small := b.toNat_lt
        have value := hexValue?_hex b
        have high := (hexDigit_digitChar (b.toNat / 16) (by omega)).2.2
        have low := (hexDigit_digitChar (b.toNat % 16) (by omega)).2.2
        rw [hex_chars] at value
        rw [String.toList_append, hex_chars]
        refine writes_escape quote 'x' _ unit? b noBackslash ?_ (by simp [high, low]) ?_
        · rcases kind with rfl | rfl <;> simp [high, low]
        · intro rest
          simp [unit?, value]

theorem quoteFor_kind (hasSingle hasDouble : Bool) :
    Text.quoteFor hasSingle hasDouble = '\'' ∨ Text.quoteFor hasSingle hasDouble = '"' := by
  cases hasSingle <;> cases hasDouble <;> decide

theorem literal?_quoted (quote : Char) (kind : quote = '\'' ∨ quote = '"') (rest : List Char) :
    literal? ('b' :: quote :: rest) =
      (quotedContent quote unit? rest).map fun (bytes, length) => (.bytes bytes, length + 2) := by
  rcases kind with rfl | rfl <;> rfl

theorem cuts_quotedBytes (bytes : Key) :
    lexicon.Cuts (Text.quotedBytes bytes).toList [.bytes bytes] := by
  have kind := quoteFor_kind (bytes.contains 0x27) (bytes.contains 0x22)
  unfold Text.quotedBytes
  generalize Text.quoteFor (bytes.contains 0x27) (bytes.contains 0x22) = quote at kind
  have writes := writes_quotedByte quote kind
  have self : quote.toString.toList = [quote] := String.toList_singleton _
  have text : ("b" ++ quote.toString ++ String.join (bytes.map (Text.quotedByte quote)) ++
      quote.toString).toList =
      'b' :: quote :: (bytes.flatMap (fun b => (Text.quotedByte quote b).toList) ++ [quote]) := by
    simp only [String.toList_append, String.toList_join, List.flatMap_map, self]
    rfl
  rw [text]
  refine Lexicon.cuts_literal rfl ?_ ?_
  · rcases kind with rfl | rfl <;> simpa using literal_oneLine writes bytes
  · intro rest
    have content := quotedContent_eq quote unit? _ writes bytes rest
    change literal? _ = _
    rw [List.cons_append, List.cons_append, List.append_assoc, List.singleton_append,
      literal?_quoted quote kind, content]
    simp

theorem readsNumerals : lexicon.ReadsNumerals where
  noLiteral c rest digit := by
    change literal? (c :: rest) = none
    rw [literal?]
    · rintro more ⟨⟩
      exact absurd digit (by decide)
    · rintro more ⟨⟩
      exact absurd digit (by decide)
  decimal run value read := by
    change numeral? run = some value
    unfold numeral?
    split
    · simp [decimal?] at read
    · exact read
  minus c rest digit := by
    have other : ('>' == c) = false := by
      rw [beq_eq_false_iff_ne]
      rintro rfl
      exact absurd digit (by decide)
    have noArrow : ['>'].isPrefixOf (c :: rest) = false := by
      rw [List.isPrefixOf, other]
      rfl
    change (lexicon.signs.find? fun sign => sign.toList.isPrefixOf ('-' :: c :: rest)).map _ = _
    simp [lexicon, noArrow]

theorem reads_hex (b : UInt8) :
    lexicon.Reads ("0x".toList ++ (Text.hex 2 b.toNat).toList) [.number b.toNat] := by
  have small := b.toNat_lt
  have value := hexValue?_hex b
  have high := (hexDigit_digitChar (b.toNat / 16) (by omega)).2
  have low := (hexDigit_digitChar (b.toNat % 16) (by omega)).2
  rw [hex_chars] at value ⊢
  constructor
  · simp [high, low]
  · intro rest stop
    exact lexicon.lexFrom_numeral b.toNat '0' ['x', _, _] rest rfl (by simp [high, low]; decide)
      stop rfl value

/-! ### Layout of an outline -/

/-- What the lines below a line add around their own tokens. -/
def indented : Outline → List Token → List Token
  | .done, _ => []
  | .row _ _ _, tokens => .indent :: tokens ++ [.dedent]

def laid : Outline → List Token
  | .done => []
  | .row line inside next =>
      line.tokens ++ .newline :: indented inside (laid inside) ++ laid next

theorem advance_lt (indent : Indent) (blank : Char) :
    indent.column < (indent.advance blank).column ∧
      indent.narrow < (indent.advance blank).narrow := by
  simp only [Indent.advance]
  split_ifs <;> omega

theorem foldl_advance_lt (indent : Indent) (blank : Char) (blanks : List Char) :
    indent.column < ((blank :: blanks).foldl Indent.advance indent).column ∧
      indent.narrow < ((blank :: blanks).foldl Indent.advance indent).narrow := by
  have step := advance_lt indent blank
  rw [List.foldl_cons]
  induction blanks generalizing indent blank with
  | nil => exact step
  | cons next blanks ih =>
      have later := ih (indent.advance blank) next (advance_lt _ _)
      rw [List.foldl_cons]
      omega

section Levels

variable (unit : List Char)

def level (depth : Nat) : Indent := Indent.ofBlanks (indentation unit depth)

def levels : Nat → List Indent
  | 0 => []
  | depth + 1 => level unit (depth + 1) :: levels depth

theorem headD_levels (depth : Nat) : (levels unit depth).headD margin = level unit depth := by
  cases depth <;> rfl

theorem enter_same (depth : Nat) :
    enter (level unit depth) (levels unit depth) = some ([], levels unit depth) := by
  rw [enter, headD_levels, if_neg (by omega)]
  cases depth with
  | zero => rfl
  | succ depth => rw [levels, settle, if_pos rfl]

variable {unit} (nonempty : unit ≠ [])

include nonempty

theorem level_succ (depth : Nat) : (level unit depth).column < (level unit (depth + 1)).column ∧
    (level unit depth).narrow < (level unit (depth + 1)).narrow := by
  obtain ⟨blank, blanks, rfl⟩ := List.exists_cons_of_ne_nil nonempty
  have deeper := foldl_advance_lt (level (blank :: blanks) depth) blank blanks
  rw [level, Indent.ofBlanks, ← List.foldl_append] at deeper
  rw [level, level, Indent.ofBlanks, Indent.ofBlanks, indentation, indentation,
    List.replicate_succ', List.flatten_append, List.flatten_singleton]
  exact deeper

theorem level_le {shallow depth : Nat} (above : shallow ≤ depth) :
    (level unit shallow).column ≤ (level unit depth).column := by
  induction above with
  | refl => exact Nat.le_refl _
  | step _ ih => exact Nat.le_trans ih (Nat.le_of_lt (level_succ nonempty _).1)

theorem enter_deeper (depth : Nat) : enter (level unit (depth + 1)) (levels unit depth) =
    some ([.indent], levels unit (depth + 1)) := by
  rw [enter, headD_levels, if_pos (level_succ nonempty depth), levels]

theorem enter_shallower {shallow depth : Nat} (above : shallow ≤ depth) :
    enter (level unit shallow) (levels unit (depth + 1)) =
      (enter (level unit shallow) (levels unit depth)).map fun (moves, stack) =>
        (.dedent :: moves, stack) := by
  have here := level_le nonempty above
  have deeper := level_succ nonempty depth
  have differ : level unit shallow ≠ level unit (depth + 1) := by
    intro same
    rw [same] at here
    omega
  rw [enter, headD_levels, if_neg (by omega), levels, settle, if_neg differ, if_pos (by omega),
    enter, headD_levels, if_neg (by omega)]

theorem layout_shallower (depth : Nat) (rest : List (List Char × List Token))
    (near : ∀ row ∈ rest.head?, ∃ shallow ≤ depth, row.1 = indentation unit shallow) :
    layout (levels unit (depth + 1)) rest =
      (layout (levels unit depth) rest).map (.dedent :: ·) := by
  cases rest with
  | nil => rfl
  | cons row rest =>
      obtain ⟨shallow, above, stands⟩ := near row rfl
      have step := enter_shallower nonempty above
      obtain ⟨blanks, tokens⟩ := row
      obtain rfl : blanks = indentation unit shallow := stands
      rw [layout, layout, ← level, step]
      cases enter (level unit shallow) (levels unit depth) with
      | none => rfl
      | some moved =>
          simp only [Option.map_some, Option.map_map]
          rfl

theorem layout_deeper (depth : Nat) (tokens : List Token) (rest : List (List Char × List Token)) :
    layout (levels unit depth) ((indentation unit (depth + 1), tokens) :: rest) =
      (layout (levels unit (depth + 1)) ((indentation unit (depth + 1), tokens) :: rest)).map
        (.indent :: ·) := by
  rw [layout, layout, ← level, enter_deeper nonempty, enter_same, Option.map_map]
  rfl

/-- A block that is laid out at its own depth is entered and left from the depth above. -/
theorem layout_block (inside : Outline) (depth : Nat) (behind : List (List Char × List Token))
    (near : ∀ row ∈ behind.head?, ∃ shallow ≤ depth, row.1 = indentation unit shallow)
    (body : layout (levels unit (depth + 1))
        ((inside.rows (depth + 1)).map (fun row => (indentation unit row.1, row.2.tokens)) ++
          behind) =
      (layout (levels unit (depth + 1)) behind).map (laid inside ++ ·)) :
    layout (levels unit depth)
        ((inside.rows (depth + 1)).map (fun row => (indentation unit row.1, row.2.tokens)) ++
          behind) =
      (layout (levels unit depth) behind).map (indented inside (laid inside) ++ ·) := by
  cases inside with
  | done => simp [Outline.rows, indented]
  | row first _ _ =>
      rw [Outline.rows, List.cons_append, List.map_cons, List.cons_append] at body ⊢
      rw [layout_deeper nonempty, body, layout_shallower nonempty depth behind near]
      simp [indented, Function.comp_def]

/-- The lines of an outline begin and end exactly its blocks. -/
theorem layout_rows (outline : Outline) (depth : Nat) (rest : List (List Char × List Token))
    (near : ∀ row ∈ rest.head?, ∃ shallow ≤ depth, row.1 = indentation unit shallow) :
    layout (levels unit depth)
        ((outline.rows depth).map (fun row => (indentation unit row.1, row.2.tokens)) ++ rest) =
      (layout (levels unit depth) rest).map (laid outline ++ ·) := by
  induction outline generalizing depth rest with
  | done => simp [Outline.rows, laid]
  | row line inside next insideIh nextIh =>
      have later := nextIh depth rest near
      rw [Outline.rows, List.map_append, List.map_cons, List.append_assoc, List.cons_append, layout,
        ← level, enter_same]
      generalize others : (next.rows depth).map _ ++ rest = behind at later ⊢
      have stands : ∀ row ∈ behind.head?, ∃ shallow ≤ depth, row.1 = indentation unit shallow := by
        subst others
        cases next with
        | done => exact near
        | row first _ _ =>
            rintro row ⟨⟩
            exact ⟨depth, Nat.le_refl _, rfl⟩
      have body := insideIh (depth + 1) behind (fun row member => by
        obtain ⟨shallow, above, same⟩ := stands row member
        exact ⟨shallow, Nat.le_succ_of_le above, same⟩)
      simp only [List.nil_append]
      rw [layout_block nonempty inside depth behind stands body, later]
      simp [laid, Function.comp_def]

theorem layout_outline (outline : Outline) :
    layout [] ((outline.rows 0).map fun row => (indentation unit row.1, row.2.tokens)) =
      some (laid outline) := by
  have rows := layout_rows nonempty outline 0 [] (by simp)
  rw [List.append_nil] at rows
  calc layout [] _ = (layout (levels unit 0) []).map (laid outline ++ ·) := rows
    _ = some (laid outline ++ []) := rfl
    _ = some (laid outline) := by rw [List.append_nil]

end Levels

/-! ### Tests -/

def testTokens : Test → List Token
  | .sizeIs length => [.word "size", .sign "==", .number length]
  | .byteIs position b =>
      [.word "data", .sign "[", .number position, .sign "]", .sign "==", .number b.toNat]
  | .rangeIs position bytes =>
      [.word "data", .sign "[", .number position, .sign ":", .number (position + bytes.length),
        .sign "]", .sign "==", .bytes bytes]

def testCondition : Test → Condition
  | .sizeIs length => .sizeIs length
  | .byteIs position b => .byteIs position b.toNat
  | .rangeIs position bytes => .sliceIs position (position + bytes.length) bytes

theorem reads_test (test : Test) :
    lexicon.Reads (Dialect.python.test test).toList (testTokens test) := by
  have number := reads_nat readsNumerals
  have opening : lexicon.Cuts "data[".toList [.word "data", .sign "["] := ⟨by decide, fun _ => rfl⟩
  have closing : lexicon.Cuts "] == ".toList [.sign "]", .sign "=="] := ⟨by decide, fun _ => rfl⟩
  cases test with
  | sizeIs length =>
      have name : lexicon.Cuts "size == ".toList [.word "size", .sign "=="] :=
        ⟨by decide, fun _ => rfl⟩
      change lexicon.Reads ("size == " ++ toString length).toList _
      rw [String.toList_append]
      exact name.append_reads (number length)
  | byteIs position b =>
      have front := (opening.append_reads (number position)).append_cuts closing ⟨']', _, rfl, rfl⟩
      have piece := front.append_reads (reads_hex b)
      have joined : "] == ".toList ++ "0x".toList = "] == 0x".toList := rfl
      rw [← List.append_assoc, List.append_assoc _ "] == ".toList, joined] at piece
      change lexicon.Reads
        ("data[" ++ toString position ++ "] == 0x" ++ Text.hex 2 b.toNat).toList _
      simp only [String.toList_append]
      exact piece
  | rangeIs position bytes =>
      have colon : lexicon.Cuts ":".toList [.sign ":"] := ⟨by decide, fun _ => rfl⟩
      have start := (opening.append_reads (number position)).append_cuts colon ⟨':', _, rfl, rfl⟩
      have front := (start.append_reads (number (position + bytes.length))).append_cuts closing
        ⟨']', _, rfl, rfl⟩
      change lexicon.Reads ("data[" ++ toString position ++ ":" ++
        toString (position + bytes.length) ++ "] == " ++ Text.quotedBytes bytes).toList _
      simp only [String.toList_append]
      exact (front.append (cuts_quotedBytes bytes)).reads

def wording : TestWording lexicon Dialect.python where
  conjunct := .word "and"
  tokens := testTokens
  condition := testCondition
  comparison := comparison
  separator := ⟨_, rfl, by decide, fun _ => rfl⟩
  reads := reads_test
  parsed test rest := by cases test <;> rfl
  decides data test bounds := by
    cases test with
    | sizeIs length => exact Condition.decides_sizeIs data length
    | byteIs position b => exact Condition.decides_byteIs data position b bounds
    | rangeIs position bytes => exact Condition.decides_sliceIs data position bytes bounds

/-! ### Statements -/

theorem condition_sizeAtLeast (least : Nat) (more : List Token) :
    condition (.word "size" :: .sign ">=" :: .number least :: .sign ":" :: .newline :: .indent ::
      more) = some (.sizeAtLeast least, more) := rfl

theorem condition_tests (tests : List Test) (nonempty : tests ≠ []) (more : List Token) :
    condition (wording.allTokens tests ++ .sign ":" :: .newline :: .indent :: more) =
      some (wording.allConditions tests, more) := by
  have read := wording.conjunction_eq tests nonempty (.sign ":" :: .newline :: .indent :: more)
    (by rintro token ⟨⟩; decide)
  change conjunction comparison (.word "and") _ _ = _ at read
  rw [condition, read]
  rfl

theorem suite_eq {tokens rest : List Token} {first : Statement} {others : Code} {fuel : Nat}
    (inner : StatementsAre statement closes tokens (.cons first others) (.dedent :: rest))
    (deep : tokens.length ≤ fuel) :
    suite (statement fuel) tokens = some (.cons first others, rest) := by
  rw [suite, inner fuel _ deep (by omega)]

theorem statement_return (v : Int) (rest : List Token) (fuel : Nat) :
    statement (fuel + 1) (Token.word "return" :: valueTokens v ++ .newline :: rest) =
      some (.answer v, rest) := by
  rw [List.cons_append, statement, value_valueTokens]

def NoAlternative (tokens : List Token) : Prop := tokens.head? ≠ some (.word "elif")

theorem statement_if {tokens block rest : List Token} {test : Condition} {yes : Code} {fuel : Nat}
    (is : condition tokens = some (test, block))
    (body : suite (statement fuel) block = some (yes, rest))
    (last : NoAlternative rest) :
    statement (fuel + 1) (.word "if" :: tokens) = some (.choose test yes .done, rest) := by
  rw [NoAlternative] at last
  rw [statement, is]
  simp only [body]
  split <;> simp_all

theorem statement_elif {tokens block rest more : List Token} {test : Condition} {yes : Code}
    {no : Statement} {fuel : Nat} (is : condition tokens = some (test, block))
    (body : suite (statement fuel) block = some (yes, .word "elif" :: rest))
    (chain : statement fuel (.word "if" :: rest) = some (no, more)) :
    statement (fuel + 1) (.word "if" :: tokens) =
      some (.choose test yes (.cons no .done), more) := by
  rw [statement, is]
  simp only [body, chain]
  rfl

section Sequences

variable {tokens body after rest : List Token} {test : Condition} {first : Statement}
variable {others code : Code}

theorem statementsAre_return (v : Int) (next : StatementsAre statement closes after code rest) :
    StatementsAre statement closes
      (Token.word "return" :: (valueTokens v ++ [Token.newline]) ++ after)
      (.cons (.answer v) code) rest := by
  refine statementsAre_cons rfl (fun depth _ => ?_) next
  simpa using statement_return v after depth

theorem statementsAre_if
    (is : ∀ more,
      condition (tokens ++ .sign ":" :: .newline :: .indent :: more) = some (test, more))
    (inner : StatementsAre statement closes (body ++ .dedent :: after) (.cons first others)
      (.dedent :: after))
    (last : NoAlternative after) (next : StatementsAre statement closes after code rest) :
    StatementsAre statement closes
      (Token.word "if" :: (tokens ++ .sign ":" :: .newline :: .indent :: body ++ [.dedent]) ++
        after)
      (.cons (.choose test (.cons first others) .done) code) rest := by
  refine statementsAre_cons rfl (fun depth deep => ?_) next
  have block := suite_eq inner (by simp at deep ⊢; omega : _ ≤ depth)
  have whole := statement_if (is _) block last
  simpa using whole

end Sequences

end Palette.Target.Python
