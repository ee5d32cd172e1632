import Palette.Proofs.PythonText

/-!
The Python text of a decision. A decision becomes an outline, whose lines are what the dialect
prints, and a list of statements, which is what the outline is read as once it is laid out. Run on a
byte string, the statements answer what the decision answers.
-/

namespace Palette.Target.Python

open KeyTrie Matcher Printer

/-! ### Lines -/

def sizeLine (least : Int) : Line where
  text := Dialect.python.sizeAtLeast least
  tokens := [.word "if", .word "size", .sign ">="] ++ valueTokens least ++ [.sign ":"]

def rangeLine (position : Nat) (bytes : Key) : Line where
  text := Dialect.python.conditional (Dialect.python.rangeIs position bytes)
  tokens := [.word "if"] ++ testTokens (.rangeIs position bytes) ++ [.sign ":"]

def testsLine (tests : List Test) : Line where
  text := Dialect.python.conditional (Dialect.python.tests tests)
  tokens := [.word "if"] ++ wording.allTokens tests ++ [.sign ":"]

def returnLine (v : Int) : Line where
  text := Dialect.python.answer (toString v)
  tokens := [.word "return"] ++ valueTokens v

def caseWord (index : Nat) : String := if index = 0 then "if" else "elif"

def caseLine (position : Nat) (b : UInt8) (index : Nat) : Line where
  text := (if index = 0 then "if " else "elif ") ++ Dialect.python.byteIs position b ++ ":"
  tokens := [.word (caseWord index)] ++ testTokens (.byteIs position b) ++ [.sign ":"]

theorem cuts_if : lexicon.Cuts "if ".toList [.word "if"] := ⟨by decide, fun _ => rfl⟩

theorem cuts_colon : lexicon.Cuts ":".toList [.sign ":"] := ⟨by decide, fun _ => rfl⟩

theorem readIn_sizeLine (least : Int) : (sizeLine least).ReadIn lexicon := by
  have opening : lexicon.Cuts "if size >= ".toList [.word "if", .word "size", .sign ">="] :=
    ⟨by decide, fun _ => rfl⟩
  have piece := (opening.append_reads (reads_int readsNumerals least)).append_cuts cuts_colon
    ⟨':', _, rfl, rfl⟩
  simp only [← String.toList_append] at piece
  exact ⟨piece.reads, (Visible.append ⟨'i', _, rfl, rfl⟩ _).append _⟩

theorem readIn_conditional {text : String} {tokens : List Token}
    (reads : lexicon.Reads text.toList tokens) :
    Line.ReadIn lexicon
      ⟨Dialect.python.conditional text, [Token.word "if"] ++ tokens ++ [Token.sign ":"]⟩ := by
  have piece := (cuts_if.append_reads reads).append_cuts cuts_colon ⟨':', _, rfl, rfl⟩
  simp only [← String.toList_append] at piece
  exact ⟨piece.reads, (Visible.append ⟨'i', _, rfl, rfl⟩ _).append _⟩

theorem readIn_rangeLine (position : Nat) (bytes : Key) :
    (rangeLine position bytes).ReadIn lexicon :=
  readIn_conditional (reads_test (.rangeIs position bytes))

theorem readIn_testsLine (tests : List Test) (nonempty : tests ≠ []) :
    (testsLine tests).ReadIn lexicon := readIn_conditional (wording.reads_all tests nonempty)

theorem readIn_returnLine (v : Int) : (returnLine v).ReadIn lexicon := by
  have opening : lexicon.Cuts "return ".toList [.word "return"] := ⟨by decide, fun _ => rfl⟩
  have piece := opening.append_reads (reads_int readsNumerals v)
  rw [← String.toList_append] at piece
  exact ⟨piece, Visible.append ⟨'r', _, rfl, rfl⟩ _⟩

theorem readIn_caseLine (position : Nat) (b : UInt8) (index : Nat) :
    (caseLine position b index).ReadIn lexicon := by
  have word : lexicon.Cuts (if index = 0 then "if " else "elif ").toList [.word (caseWord index)] ∧
      Visible (if index = 0 then "if " else "elif ") := by
    unfold caseWord
    split_ifs
    · exact ⟨cuts_if, 'i', _, rfl, rfl⟩
    · exact ⟨⟨by decide, fun _ => rfl⟩, 'e', _, rfl, rfl⟩
  have piece := (word.1.append_reads (reads_test (.byteIs position b))).append_cuts cuts_colon
    ⟨':', _, rfl, rfl⟩
  simp only [← String.toList_append] at piece
  exact ⟨piece.reads, (word.2.append _).append _⟩

/-! ### Outline of a decision -/

mutual

def outline : Decision → Outline → Outline
  | .done, after | .stuck _, after => after
  | .whenSize least body, after => .row (sizeLine least) (outline body .done) after
  | .whenRange position bytes body, after =>
      .row (rangeLine position bytes) (outline body .done) after
  | .answerWhen tests v next, after =>
      .row (testsLine tests) (.row (returnLine v) .done .done) (outline next after)
  | .switch position cases, after => caseOutline position 0 cases after

def caseOutline (position index : Nat) : Cases → Outline → Outline
  | .done, after | .stuck _, after => after
  | .case b body next, after =>
      .row (caseLine position b index) (outline body .done)
        (caseOutline position (index + 1) next after)

end

theorem caseOpening_eq : Dialect.python.caseOpening =
    some fun position b index => (caseLine position b index).text := by
  refine congrArg some (funext fun position => funext fun b => funext fun index => ?_)
  exact congrArg (· ++ ":") String.append_assoc

mutual

theorem written_outline (decision : Decision) (proper : decision.Proper) {program : Program Fault}
    {after : Outline} (others : Written lexicon program after) :
    Written lexicon (decision.print Dialect.python ++ program) (outline decision after) := by
  match decision with
  | .done => exact others
  | .stuck _ => exact proper.elim
  | .whenSize least body =>
      have inner := (written_outline body proper.2.2 written_done).of_append_nil
      rw [Decision.print, Dialect.nested, List.append_assoc]
      exact written_row (readIn_sizeLine least) inner others
  | .whenRange position bytes body =>
      have inner := (written_outline body proper.2 written_done).of_append_nil
      rw [Decision.print, Dialect.nested, List.append_assoc]
      exact written_row (readIn_rangeLine position bytes) inner others
  | .answerWhen tests v next =>
      have later := written_outline next proper.2 others
      exact written_row (readIn_testsLine tests proper.1)
        (written_line (readIn_returnLine v) written_done) later
  | .switch position cases => exact written_caseOutline cases proper.2 position 0 others

theorem written_caseOutline (cases : Cases) (proper : cases.Proper) (position index : Nat)
    {program : Program Fault} {after : Outline} (others : Written lexicon program after) :
    Written lexicon (cases.print Dialect.python position index ++ program)
      (caseOutline position index cases after) := by
  match cases with
  | .done => exact others
  | .stuck _ => exact proper.elim
  | .case b body next =>
      have inner := (written_outline body proper.2.1 written_done).of_append_nil
      have later := written_caseOutline next proper.2.2.2 position (index + 1) others
      rw [Cases.print, caseOpening_eq]
      simp only [List.append_assoc]
      exact written_row (readIn_caseLine position b index) inner later

end

/-! ### Statements of a decision -/

mutual

def code : Decision → Code → Code
  | .done, after | .stuck _, after => after
  | .whenSize least body, after =>
      .cons (.choose (.sizeAtLeast least.toNat) (code body .done) .done) after
  | .whenRange position bytes body, after =>
      .cons (.choose (.sliceIs position (position + bytes.length) bytes)
        (code body .done) .done) after
  | .answerWhen tests v next, after =>
      .cons (.choose (wording.allConditions tests) (.cons (.answer v) .done) .done)
        (code next after)
  | .switch position cases, after => caseCode position cases after

def caseCode (position : Nat) : Cases → Code → Code
  | .done, after | .stuck _, after => after
  | .case b body next, after =>
      .cons (.choose (.byteIs position b.toNat) (code body .done)
        (caseCode position next .done)) after

end

/-- A decision that does something has a first line and a first statement. -/
theorem outline_code_start (decision : Decision) (proper : decision.Proper)
    (some : decision ≠ .done) (after : Outline) (afterCode : Code) :
    (∃ line inside next, outline decision after = .row line inside next) ∧
      ∃ first others, code decision afterCode = .cons first others := by
  match decision with
  | .done => exact absurd rfl some
  | .stuck _ => exact proper.elim
  | .whenSize _ _ | .whenRange _ _ _ | .answerWhen _ _ _ =>
      exact ⟨⟨_, _, _, rfl⟩, ⟨_, _, rfl⟩⟩
  | .switch _ .done => exact absurd rfl proper.1
  | .switch _ (.stuck _) => exact proper.2.elim
  | .switch _ (.case _ _ _) => exact ⟨⟨_, _, _, rfl⟩, ⟨_, _, rfl⟩⟩

theorem noAlternative_dedent (more : List Token) :
    NoAlternative (laid .done ++ .dedent :: more) := by
  simp [NoAlternative, laid]

theorem noAlternative_outline (decision : Decision) (after : Outline) (more : List Token)
    (others : NoAlternative (laid after ++ more)) :
    NoAlternative (laid (outline decision after) ++ more) := by
  match decision with
  | .done | .stuck _ | .switch _ .done | .switch _ (.stuck _) => exact others
  | .whenSize _ _ | .whenRange _ _ _ | .answerWhen _ _ _ | .switch _ (.case _ _ _) =>
      simp [NoAlternative, outline, caseOutline, laid, sizeLine, rangeLine, testsLine, caseLine,
        caseWord]

theorem condition_size (least : Int) (positive : 0 ≤ least) (more : List Token) :
    condition ([Token.word "size", .sign ">="] ++ valueTokens least ++
      .sign ":" :: .newline :: .indent :: more) = some (.sizeAtLeast least.toNat, more) := by
  obtain ⟨n, rfl⟩ := Int.eq_ofNat_of_zero_le positive
  exact condition_sizeAtLeast n more

theorem laid_block (line : Line) (body : Decision) (proper : body.Proper) (nonempty : body ≠ .done)
    (next : Outline) : laid (.row line (outline body .done) next) =
      line.tokens ++ .newline :: .indent :: laid (outline body .done) ++ .dedent :: laid next := by
  obtain ⟨⟨first, inside, others, start⟩, _⟩ :=
    outline_code_start body proper nonempty .done .done
  rw [laid, start, indented]
  simp

/-- The cases of a switch begin with a word of their own and end where `after` begins. -/
theorem laid_caseOutline (cases : Cases) (proper : cases.Proper) (nonempty : cases ≠ .done)
    (position index : Nat) (after : Outline) : ∃ chunk,
      laid (caseOutline position index cases after) =
        Token.word (caseWord index) :: chunk ++ laid after := by
  match cases with
  | .done => exact absurd rfl nonempty
  | .stuck _ => exact proper.elim
  | .case b body .done => exact ⟨_, rfl⟩
  | .case b body (.stuck _) => exact proper.2.2.2.elim
  | .case b body (.case c inside later) =>
      obtain ⟨chunk, tokens⟩ := laid_caseOutline (.case c inside later) proper.2.2.2 (by simp)
        position (index + 1) after
      rw [caseOutline, laid, tokens, ← List.append_assoc]
      exact ⟨_, rfl⟩

mutual

theorem statementsAre_outline (decision : Decision) (proper : decision.Proper) (after : Outline)
    (more : List Token) {rest : List Token} {afterCode : Code}
    (last : NoAlternative (laid after ++ more))
    (others : StatementsAre statement closes (laid after ++ more) afterCode rest) :
    StatementsAre statement closes (laid (outline decision after) ++ more)
      (code decision afterCode) rest := by
  match decision with
  | .done => exact others
  | .stuck _ => exact proper.elim
  | .whenSize least body =>
      have inner := statementsAre_outline body proper.2.2 .done (.dedent :: (laid after ++ more))
        (noAlternative_dedent _) (statementsAre_done _ _ rfl)
      obtain ⟨_, first, next, start⟩ :=
        outline_code_start body proper.2.2 proper.2.1 .done .done
      rw [start] at inner
      have whole := statementsAre_if (condition_size least proper.1) inner last others
      simpa [outline, laid_block _ _ proper.2.2 proper.2.1, sizeLine, code, start] using whole
  | .whenRange position bytes body =>
      have inner := statementsAre_outline body proper.2 .done (.dedent :: (laid after ++ more))
        (noAlternative_dedent _) (statementsAre_done _ _ rfl)
      obtain ⟨_, first, next, start⟩ := outline_code_start body proper.2 proper.1 .done .done
      rw [start] at inner
      have test : ∀ more, condition (testTokens (.rangeIs position bytes) ++
          .sign ":" :: .newline :: .indent :: more) =
          some (.sliceIs position (position + bytes.length) bytes, more) :=
        condition_tests [.rangeIs position bytes] (by simp)
      have whole := statementsAre_if test inner last others
      simpa [outline, laid_block _ _ proper.2 proper.1, rangeLine, code, start] using whole
  | .answerWhen tests v next =>
      have later := statementsAre_outline next proper.2 after more last others
      have final := noAlternative_outline next after more last
      have inner := statementsAre_return v
        (statementsAre_done .dedent (laid (outline next after) ++ more) rfl)
      have whole := statementsAre_if (condition_tests tests proper.1) inner final later
      simpa [outline, laid, indented, testsLine, returnLine, code] using whole
  | .switch position cases =>
      obtain ⟨first, shape, chain⟩ :=
        statement_chain cases proper.2 proper.1 position 0 after more last
      obtain ⟨chunk, split⟩ := laid_caseOutline cases proper.2 proper.1 position 0 after
      rw [outline, code, shape, split, List.append_assoc]
      rw [split, List.append_assoc] at chain
      exact statementsAre_cons rfl (fun depth deep => chain depth (by simpa using deep)) others

/-- The cases of a switch are read as one statement, whatever word stands in front of the first. -/
theorem statement_chain (cases : Cases) (proper : cases.Proper) (nonempty : cases ≠ .done)
    (position index : Nat) (after : Outline) (more : List Token)
    (last : NoAlternative (laid after ++ more)) :
    ∃ first, (∀ behind, caseCode position cases behind = .cons first behind) ∧
      ∀ depth, (laid (caseOutline position index cases after) ++ more).length ≤ depth + 1 →
        statement (depth + 1)
            (.word "if" :: (laid (caseOutline position index cases after) ++ more).tail) =
          some (first, laid after ++ more) := by
  match cases with
  | .done => exact absurd rfl nonempty
  | .stuck _ => exact proper.elim
  | .case b body next =>
      refine ⟨_, fun _ => rfl, fun depth deep => ?_⟩
      obtain ⟨_, start, others, begins⟩ := outline_code_start body proper.2.1 proper.1 .done .done
      have inner := statementsAre_outline body proper.2.1 .done
        (.dedent :: (laid (caseOutline position (index + 1) next after) ++ more))
        (noAlternative_dedent _) (statementsAre_done _ _ rfl)
      have test : ∀ more, condition (testTokens (.byteIs position b) ++
          .sign ":" :: .newline :: .indent :: more) = some (.byteIs position b.toNat, more) :=
        condition_tests [.byteIs position b] (by simp)
      have tokens : laid (caseOutline position index (.case b body next) after) ++ more =
          .word (caseWord index) :: (testTokens (.byteIs position b) ++
            .sign ":" :: .newline :: .indent :: (laid (outline body .done) ++
              .dedent :: (laid (caseOutline position (index + 1) next after) ++ more))) := by
        rw [caseOutline, laid_block _ _ proper.2.1 proper.1]
        simp [caseLine]
      rw [begins] at inner ⊢
      rw [tokens] at deep ⊢
      simp only [List.length_cons, List.length_append] at deep
      have block := suite_eq inner
        (by simp only [List.length_append, List.length_cons]; omega : _ ≤ depth)
      by_cases final : next = .done
      · subst final
        exact statement_if (test _) block last
      · obtain ⟨second, shape, chain⟩ :=
          statement_chain next proper.2.2.2 final position (index + 1) after more last
        obtain ⟨chunk, split⟩ := laid_caseOutline next proper.2.2.2 final position (index + 1) after
        obtain ⟨depth, rfl⟩ : ∃ less, depth = less + 1 := ⟨depth - 1, by omega⟩
        have rest := chain depth (by rw [List.length_append]; omega)
        rw [split] at block rest ⊢
        rw [shape]
        exact statement_elif (test _) block rest

end

/-! ### Running the statements -/

mutual

theorem code_ends (decision : Decision) (proper : decision.Proper) (data : Key)
    {answer otherwise : Option Int} {after : Code} (finds : decision.Finds data answer)
    (others : (after.exec data none).Ends data otherwise) :
    ((code decision after).exec data none).Ends data (answer.or otherwise) := by
  match decision with
  | .done =>
      obtain rfl : none = answer := finds.2
      exact others
  | .stuck _ => exact proper.elim
  | .whenSize least body =>
      refine Code.ends_whenSize finds (fun inner => ?_) others
      exact (code_ends body proper.2.2 data inner (Code.ends_done data)).of_or_none
  | .whenRange position bytes body =>
      refine wording.ends_whenRange finds (fun inner => ?_) others
      exact (code_ends body proper.2 data inner (Code.ends_done data)).of_or_none
  | .answerWhen tests v next =>
      rw [code]
      exact wording.ends_answerWhen proper.1 finds
        (fun later => code_ends next proper.2 data later others)
  | .switch position cases =>
      obtain ⟨bound, inside⟩ := Decision.finds_switch.mp finds
      exact caseCode_ends cases proper.2 data position bound inside others

/-- A chain compares the byte with one label after the other. -/
theorem caseCode_ends (cases : Cases) (proper : cases.Proper) (data : Key) (position : Nat)
    (bound : position < data.length) {answer otherwise : Option Int} {after : Code}
    (finds : cases.Finds data data[position]? answer)
    (others : (after.exec data none).Ends data otherwise) :
    ((caseCode position cases after).exec data none).Ends data (answer.or otherwise) := by
  match cases with
  | .done =>
      obtain rfl : none = answer := finds.2
      exact others
  | .stuck _ => exact proper.elim
  | .case label body next =>
      obtain ⟨here, elsewhere⟩ := Cases.finds_case.mp finds
      have decides := Condition.decides_byteIs data position label bound
      refine Code.ends_cons (Statement.ends_choose decides ?_) others
      by_cases same : data[position]? = some label
      · rw [decide_eq_true same, if_pos rfl]
        exact (code_ends body proper.2.1 data (here same) (Code.ends_done data)).of_or_none
      · rw [decide_eq_false same, if_neg (by simp)]
        exact (caseCode_ends next proper.2.2.2 data position bound (elsewhere same)
          (Code.ends_done data)).of_or_none

end

/-! ### The function -/

def signatureLine : Line where
  text := "def get_data_index(data: bytes, size: int) -> int:"
  tokens := [.word "def", .word "get_data_index", .sign "(", .word "data", .sign ":", .word "bytes",
    .sign ",", .word "size", .sign ":", .word "int", .sign ")", .sign "->", .word "int", .sign ":"]

def bodyOutline (decision : Decision) : Outline :=
  outline decision (.row (returnLine notFound) .done .done)

def functionOutline (decision : Decision) : Outline :=
  .row signatureLine (bodyOutline decision) .done

def functionCode (decision : Decision) : Code := code decision (.cons (.answer notFound) .done)

theorem written_function (tree : Node Int) (proper : (Decision.ofTrie tree).Proper) :
    Written lexicon (Dialect.python.function tree) (functionOutline (Decision.ofTrie tree)) := by
  have signature : signatureLine.ReadIn lexicon :=
    Line.readIn_fixed ⟨by decide, fun _ => rfl⟩ ⟨'d', _, rfl, rfl⟩
  have body := written_outline _ proper (written_line (readIn_returnLine notFound) written_done)
  exact written_row signature body written_done

theorem body_start (decision : Decision) (proper : decision.Proper) :
    (∃ line inside next, bodyOutline decision = .row line inside next) ∧
      ∃ first others, functionCode decision = .cons first others := by
  by_cases empty : decision = .done
  · rw [empty]
    exact ⟨⟨_, _, _, rfl⟩, ⟨_, _, rfl⟩⟩
  · exact outline_code_start decision proper empty _ _

theorem read_function (decision : Decision) (proper : decision.Proper) (unit : String)
    (readable : (functionOutline decision).ReadIn lexicon) (nonempty : unit.toList ≠ [])
    (blank : ∀ c ∈ unit.toList, isBlank c = true) :
    read ((functionOutline decision).text unit 0) = some (functionCode decision) := by
  have rows := Outline.sourceRows_text readable unit blank
  have lay := layout_outline nonempty (functionOutline decision)
  obtain ⟨⟨line, inside, next, begins⟩, first, others, starts⟩ := body_start decision proper
  have last := statementsAre_return notFound (statementsAre_done .dedent [] rfl)
  have body := statementsAre_outline decision proper (.row (returnLine notFound) .done .done)
    [.dedent] (by simp [NoAlternative, laid, returnLine])
    (by simpa [laid, indented, returnLine] using last)
  change StatementsAre statement closes (laid (bodyOutline decision) ++ [Token.dedent])
    (functionCode decision) [.dedent] at body
  have split : laid (functionOutline decision) =
      header ++ (laid (bodyOutline decision) ++ [Token.dedent]) := by
    rw [functionOutline, laid, begins]
    simp [indented, laid, signatureLine, header]
  have start := List.isPrefixOf?_eq_some_iff_append_eq.mpr split.symm
  rw [starts] at body ⊢
  have block := suite_eq body (Nat.le_refl _)
  rw [read, rows]
  simp only [lay, start, block]

theorem functionCode_ends (decision : Decision) (proper : decision.Proper) (data : Key)
    {answer : Option Int} (finds : decision.Finds data answer) :
    ((functionCode decision).run data).Ends data (some (answer.getD notFound)) := by
  have last := Code.ends_single (Statement.ends_answer data notFound)
  have ends := code_ends decision proper data finds last
  rwa [Option.or_some] at ends

end Palette.Target.Python
