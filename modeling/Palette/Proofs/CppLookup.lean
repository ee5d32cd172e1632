import Palette.Proofs.CppText

/-!
The C++ text of a decision. A decision becomes an outline, whose lines are what the dialect prints,
and a list of statements, which is what the tokens of the outline are read as. Run on a byte string,
the statements answer what the decision answers.
-/

namespace Palette.Target.Cpp

open KeyTrie Matcher Printer

/-! ### Lines -/

def sizeLine (least : Int) : Line where
  text := Dialect.cpp.sizeAtLeast least
  tokens := [.word "if", .sign "(", .word "size", .sign ">="] ++ valueTokens least ++
    [.sign ")", openBrace]

def rangeLine (position : Nat) (bytes : Key) : Line where
  text := Dialect.cpp.conditional (Dialect.cpp.rangeIs position bytes)
  tokens := [.word "if", .sign "("] ++ testTokens (.rangeIs position bytes) ++
    [.sign ")", openBrace]

def answerLine (tests : List Test) (v : Int) : Line where
  text := "if (" ++ Dialect.cpp.tests tests ++ ") return " ++ toString v ++ ";"
  tokens := [.word "if", .sign "("] ++ wording.allTokens tests ++ [.sign ")", .word "return"] ++
    valueTokens v ++ [.sign ";"]

def switchLine (position : Nat) : Line where
  text := "switch (data[" ++ toString position ++ "]) \x7b"
  tokens := [.word "switch", .sign "(", .word "data", .sign "[", .number position, .sign "]",
    .sign ")", openBrace]

theorem switchLine_tokens (position : Nat) : (switchLine position).tokens =
    [.word "switch", .sign "(", .word "data", .sign "[", .number position, .sign "]", .sign ")",
      openBrace] := rfl

def caseLine (b : UInt8) : Line where
  text := "case " ++ cppChar b ++ ": \x7b"
  tokens := [.word "case", .byte b, .sign ":", openBrace]

def closeLine : Line := ⟨"\x7d", [closeBrace]⟩

def breakLine : Line := ⟨"break;", [.word "break", .sign ";"]⟩

def returnLine (v : Int) : Line where
  text := Dialect.cpp.answer (toString v)
  tokens := [.word "return"] ++ valueTokens v ++ [.sign ";"]

theorem cuts_if : lexicon.Cuts "if (".toList [.word "if", .sign "("] := ⟨by decide, fun _ => rfl⟩

theorem cuts_brace : lexicon.Cuts ") \x7b".toList [.sign ")", openBrace] :=
  ⟨by decide, fun _ => rfl⟩

theorem cuts_semicolon : lexicon.Cuts ";".toList [.sign ";"] := ⟨by decide, fun _ => rfl⟩

theorem readIn_sizeLine (least : Int) : (sizeLine least).ReadIn lexicon := by
  have opening : lexicon.Cuts "if (size >= ".toList
      [.word "if", .sign "(", .word "size", .sign ">="] := ⟨by decide, fun _ => rfl⟩
  have piece := (opening.append_reads (reads_int readsNumerals least)).append_cuts cuts_brace
    ⟨')', _, rfl, rfl⟩
  simp only [← String.toList_append] at piece
  exact ⟨piece.reads, (Visible.append ⟨'i', _, rfl, rfl⟩ _).append _⟩

theorem readIn_rangeLine (position : Nat) (bytes : Key) :
    (rangeLine position bytes).ReadIn lexicon := by
  have piece := (cuts_if.append_reads (reads_test (.rangeIs position bytes))).append_cuts cuts_brace
    ⟨')', _, rfl, rfl⟩
  simp only [← String.toList_append] at piece
  exact ⟨piece.reads, (Visible.append ⟨'i', _, rfl, rfl⟩ _).append _⟩

theorem readIn_answerLine (tests : List Test) (nonempty : tests ≠ []) (v : Int) :
    (answerLine tests v).ReadIn lexicon := by
  have middle : lexicon.Cuts ") return ".toList [.sign ")", .word "return"] :=
    ⟨by decide, fun _ => rfl⟩
  have front := (cuts_if.append_reads (wording.reads_all tests nonempty)).append_cuts middle
    ⟨')', _, rfl, rfl⟩
  have piece := (front.append_reads (reads_int readsNumerals v)).append_cuts cuts_semicolon
    ⟨';', _, rfl, rfl⟩
  simp only [← String.toList_append] at piece
  exact ⟨piece.reads, (((Visible.append ⟨'i', _, rfl, rfl⟩ _).append _).append _).append _⟩

theorem readIn_switchLine (position : Nat) : (switchLine position).ReadIn lexicon := by
  have opening : lexicon.Cuts "switch (data[".toList
      [.word "switch", .sign "(", .word "data", .sign "["] := ⟨by decide, fun _ => rfl⟩
  have closing : lexicon.Cuts "]) \x7b".toList [.sign "]", .sign ")", openBrace] :=
    ⟨by decide, fun _ => rfl⟩
  have piece := (opening.append_reads (reads_nat readsNumerals position)).append_cuts closing
    ⟨']', _, rfl, rfl⟩
  simp only [← String.toList_append] at piece
  exact ⟨piece.reads, (Visible.append ⟨'s', _, rfl, rfl⟩ _).append _⟩

theorem readIn_caseLine (b : UInt8) : (caseLine b).ReadIn lexicon := by
  have opening : lexicon.Cuts "case ".toList [.word "case"] := ⟨by decide, fun _ => rfl⟩
  have closing : lexicon.Cuts ": \x7b".toList [.sign ":", openBrace] := ⟨by decide, fun _ => rfl⟩
  have piece := (opening.append (cuts_cppChar b)).append closing
  simp only [← String.toList_append] at piece
  exact ⟨piece.reads, (Visible.append ⟨'c', _, rfl, rfl⟩ _).append _⟩

theorem readIn_returnLine (v : Int) : (returnLine v).ReadIn lexicon := by
  have opening : lexicon.Cuts "return ".toList [.word "return"] := ⟨by decide, fun _ => rfl⟩
  have piece := (opening.append_reads (reads_int readsNumerals v)).append_cuts cuts_semicolon
    ⟨';', _, rfl, rfl⟩
  simp only [← String.toList_append] at piece
  exact ⟨piece.reads, (Visible.append ⟨'r', _, rfl, rfl⟩ _).append _⟩

theorem readIn_closeLine : closeLine.ReadIn lexicon :=
  Line.readIn_fixed ⟨by decide, fun _ => rfl⟩ ⟨'\x7d', _, rfl, rfl⟩

theorem readIn_breakLine : breakLine.ReadIn lexicon :=
  Line.readIn_fixed ⟨by decide, fun _ => rfl⟩ ⟨'b', _, rfl, rfl⟩

/-! ### Outline of a decision -/

mutual

def outline : Decision → Outline → Outline
  | .done, after | .stuck _, after => after
  | .whenSize least body, after =>
      .row (sizeLine least) (outline body .done) (.row closeLine .done after)
  | .whenRange position bytes body, after =>
      .row (rangeLine position bytes) (outline body .done) (.row closeLine .done after)
  | .answerWhen tests v next, after => .row (answerLine tests v) .done (outline next after)
  | .switch position cases, after => .row (switchLine position) .done (caseOutline cases after)

def caseOutline : Cases → Outline → Outline
  | .done, after | .stuck _, after => .row closeLine .done after
  | .case b body next, after =>
      .row (caseLine b) (outline body .done)
        (.row closeLine .done (.row breakLine .done (caseOutline next after)))

end

theorem caseOpening_eq : Dialect.cpp.caseOpening = some fun _ b _ => (caseLine b).text := rfl

mutual

theorem written_outline (decision : Decision) (proper : decision.Proper) {program : Program Fault}
    {after : Outline} (others : Written lexicon program after) :
    Written lexicon (decision.print Dialect.cpp ++ program) (outline decision after) := by
  have closed := written_line readIn_closeLine others
  match decision with
  | .done => exact others
  | .stuck _ => exact proper.elim
  | .whenSize least body =>
      have inner := (written_outline body proper.2.2 written_done).of_append_nil
      rw [Decision.print, Dialect.nested, List.append_assoc]
      exact written_row (readIn_sizeLine least) inner closed
  | .whenRange position bytes body =>
      have inner := (written_outline body proper.2 written_done).of_append_nil
      rw [Decision.print, Dialect.nested, List.append_assoc]
      exact written_row (readIn_rangeLine position bytes) inner closed
  | .answerWhen tests v next =>
      have later := written_outline next proper.2 others
      exact written_line (readIn_answerLine tests proper.1 v) later
  | .switch position cases =>
      have inside := written_caseOutline cases proper.2 position 0 others
      exact written_line (readIn_switchLine position) inside

theorem written_caseOutline (cases : Cases) (proper : cases.Proper) (position index : Nat)
    {program : Program Fault} {after : Outline} (others : Written lexicon program after) :
    Written lexicon (cases.print Dialect.cpp position index ++ program)
      (caseOutline cases after) := by
  match cases with
  | .done => exact written_line readIn_closeLine others
  | .stuck _ => exact proper.elim
  | .case b body next =>
      have inner := (written_outline body proper.2.1 written_done).of_append_nil
      have later := written_caseOutline next proper.2.2.2 position (index + 1) others
      have closed := written_line readIn_closeLine (written_line readIn_breakLine later)
      rw [Cases.print, caseOpening_eq]
      simp only [List.append_assoc]
      exact written_row (readIn_caseLine b) inner closed

end

/-! ### Statements of a decision -/

mutual

def code : Decision → Code → Code
  | .done, after | .stuck _, after => after
  | .whenSize least body, after =>
      .cons (.choose (.sizeAtLeast least.toNat)
        (.cons (.block (code body .done)) .done) .done) after
  | .whenRange position bytes body, after =>
      .cons (.choose (.memoryIs position bytes bytes.length)
        (.cons (.block (code body .done)) .done) .done) after
  | .answerWhen tests v next, after =>
      .cons (.choose (wording.allConditions tests) (.cons (.answer v) .done) .done)
        (code next after)
  | .switch position cases, after => .cons (.switch position (caseCode cases)) after

def caseCode : Cases → Code
  | .done | .stuck _ => .done
  | .case b body next =>
      .cons (.label b) (.cons (.block (code body .done)) (.cons .leave (caseCode next)))

end

theorem condition_size (least : Int) (positive : 0 ≤ least) (more : List Token) :
    condition ([Token.word "size", .sign ">="] ++ valueTokens least ++ .sign ")" :: more) =
      some (.sizeAtLeast least.toNat, more) := by
  obtain ⟨n, rfl⟩ := Int.eq_ofNat_of_zero_le positive
  exact condition_sizeAtLeast n more

theorem caseOutline_tokens (cases : Cases) (after : Outline) :
    ∃ body, (caseOutline cases after).tokens = body ++ closeBrace :: after.tokens := by
  match cases with
  | .done | .stuck _ => exact ⟨[], rfl⟩
  | .case b body next =>
      obtain ⟨others, tokens⟩ := caseOutline_tokens next after
      rw [caseOutline]
      simp only [Outline.tokens, tokens, ← List.append_assoc]
      exact ⟨_, rfl⟩

mutual

/-- The lines of a decision are read as its statements. -/
theorem statementsAre_outline (decision : Decision) (proper : decision.Proper) (after : Outline)
    (more : List Token) {rest : List Token} {afterCode : Code}
    (others : StatementsAre statement closes (after.tokens ++ more) afterCode rest) :
    StatementsAre statement closes ((outline decision after).tokens ++ more)
      (code decision afterCode) rest := by
  match decision with
  | .done => exact others
  | .stuck _ => exact proper.elim
  | .whenSize least body =>
      have inner := statementsAre_outline body proper.2.2 .done
        (closeBrace :: (after.tokens ++ more)) (statementsAre_done _ _ rfl)
      have whole := statementsAre_if (condition_size least proper.1) inner others
      simpa [outline, Outline.tokens, sizeLine, closeLine, code] using whole
  | .whenRange position bytes body =>
      have inner := statementsAre_outline body proper.2 .done
        (closeBrace :: (after.tokens ++ more)) (statementsAre_done _ _ rfl)
      have test : ∀ more, condition (testTokens (.rangeIs position bytes) ++ .sign ")" :: more) =
          some (.memoryIs position bytes bytes.length, more) :=
        condition_tests [.rangeIs position bytes] (by simp)
      have whole := statementsAre_if test inner others
      simpa [outline, Outline.tokens, rangeLine, closeLine, code] using whole
  | .answerWhen tests v next =>
      have later := statementsAre_outline next proper.2 after more others
      have whole := statementsAre_answer v (condition_tests tests proper.1) later
      simpa [outline, Outline.tokens, answerLine, code] using whole
  | .switch position cases =>
      have inner := statementsAre_caseOutline cases proper.2 after more
      obtain ⟨body, tokens⟩ := caseOutline_tokens cases after
      rw [tokens, List.append_assoc] at inner
      have whole := statementsAre_switch position inner others
      simpa [outline, Outline.tokens, switchLine_tokens, tokens, code] using whole

theorem statementsAre_caseOutline (cases : Cases) (proper : cases.Proper) (after : Outline)
    (more : List Token) :
    StatementsAre statement closes ((caseOutline cases after).tokens ++ more) (caseCode cases)
      (closeBrace :: (after.tokens ++ more)) := by
  match cases with
  | .done => exact statementsAre_done closeBrace (after.tokens ++ more) rfl
  | .stuck _ => exact proper.elim
  | .case b body next =>
      have later := statementsAre_leave (statementsAre_caseOutline next proper.2.2.2 after more)
      have inner := statementsAre_outline body proper.2.1 .done
        (closeBrace :: .word "break" :: .sign ";" :: ((caseOutline next after).tokens ++ more))
        (statementsAre_done _ _ rfl)
      have whole := statementsAre_label b (statementsAre_block inner later)
      simpa [caseOutline, Outline.tokens, caseLine, closeLine, breakLine, caseCode] using whole

end

/-! ### Running the statements -/

mutual

/-- The statements answer what the decision finds, and otherwise what is answered behind them. -/
theorem code_ends (decision : Decision) (proper : decision.Proper) (data : Key)
    {answer otherwise : Option Int} {after : Code} (finds : decision.Finds data answer)
    (others : (after.exec data none).Ends data otherwise) :
    ((code decision after).exec data none).Ends data (answer.or otherwise) := by
  match decision with
  | .done =>
      obtain rfl : none = answer := finds.2
      exact others
  | .stuck _ => exact proper.elim
  | .whenSize least body =>
      refine Code.ends_whenSize finds (fun inner => ?_) others
      exact Code.ends_single (code_ends body proper.2.2 data inner (Code.ends_done data)).of_or_none
  | .whenRange position bytes body =>
      refine wording.ends_whenRange finds (fun inner => ?_) others
      exact Code.ends_single (code_ends body proper.2 data inner (Code.ends_done data)).of_or_none
  | .answerWhen tests v next =>
      rw [code]
      exact wording.ends_answerWhen proper.1 finds
        (fun later => code_ends next proper.2 data later others)
  | .switch position cases =>
      obtain ⟨bound, inside⟩ := Decision.finds_switch.mp finds
      rw [List.getElem?_eq_getElem bound] at inside
      refine Code.ends_cons ?_ others
      rw [Statement.exec, List.getElem?_eq_getElem bound]
      refine Run.ends_andThen (Run.ends_reads data _ ?_)
        (caseCode_ends cases proper.2 data _ inside)
      intro access member
      obtain rfl := List.mem_singleton.mp member
      exact bound

/-- Control goes to the label of the byte, if there is one, and leaves the switch behind its
block. -/
theorem caseCode_ends (cases : Cases) (proper : cases.Proper) (data : Key) (byte : UInt8)
    {answer : Option Int} (finds : cases.Finds data (some byte) answer) :
    ((caseCode cases).exec data (some byte)).caught.Ends data answer := by
  match cases with
  | .done =>
      obtain rfl : none = answer := finds.2
      exact Run.ends_start data
  | .stuck _ => exact proper.elim
  | .case label body next =>
      obtain ⟨here, elsewhere⟩ := Cases.finds_case.mp finds
      rw [caseCode, Code.exec, Statement.sought]
      by_cases same : label = byte
      · subst same
        have block := code_ends body proper.2.1 data (here rfl) (Code.ends_done data)
        rw [if_pos rfl, Code.exec]
        exact Run.ends_caught_leave block.of_or_none
      · rw [if_neg same]
        exact caseCode_ends next proper.2.2.2 data byte (elsewhere (by simpa using Ne.symm same))

end

/-! ### The function -/

theorem labels_caseCode (cases : Cases) : (caseCode cases).labels = cases.bytes := by
  match cases with
  | .done | .stuck _ => rfl
  | .case b body next =>
      rw [caseCode, Cases.bytes, Code.labels, Code.labels, Code.labels, labels_caseCode next] <;>
        simp

theorem nodup_bytes (cases : Cases) (proper : cases.Proper) : cases.bytes.Nodup := by
  match cases with
  | .done | .stuck _ => exact List.nodup_nil
  | .case b body next => exact List.nodup_cons.mpr ⟨proper.2.2.1, nodup_bytes next proper.2.2.2⟩

mutual

theorem placed_code (decision : Decision) (proper : decision.Proper) (inside : Bool) (after : Code)
    (others : after.placed inside false = true) :
    (code decision after).placed inside false = true := by
  match decision with
  | .done => exact others
  | .stuck _ => exact proper.elim
  | .whenSize least body =>
      have inner := placed_code body proper.2.2 inside .done rfl
      simp [code, Code.placed, Statement.placed, inner, others]
  | .whenRange position bytes body =>
      have inner := placed_code body proper.2 inside .done rfl
      simp [code, Code.placed, Statement.placed, inner, others]
  | .answerWhen tests v next =>
      have later := placed_code next proper.2 inside after others
      simp [code, Code.placed, Statement.placed, later]
  | .switch position cases =>
      have inner := placed_caseCode cases proper.2
      have different := nodup_bytes cases proper.2
      simp [code, Code.placed, Statement.placed, labels_caseCode, inner, different, others]

theorem placed_caseCode (cases : Cases) (proper : cases.Proper) :
    (caseCode cases).placed true true = true := by
  match cases with
  | .done => rfl
  | .stuck _ => exact proper.elim
  | .case b body next =>
      have inner := placed_code body proper.2.1 true .done rfl
      have later := placed_caseCode next proper.2.2.2
      simp [caseCode, Code.placed, Statement.placed, inner, later]

end

def signatureLine : Line where
  text := Dialect.cppSignature ++ " \x7b"
  tokens := [.word "int", .word "getDataIndex", .sign "(", .word "const", .word "QLatin1String",
    .sign "&", .word "name", .sign ")", openBrace]

def sizeDeclaration : Line where
  text := "auto size = name.size();"
  tokens := [.word "auto", .word "size", .sign "=", .word "name", .sign ".", .word "size",
    .sign "(", .sign ")", .sign ";"]

def dataDeclaration : Line where
  text := "auto data = name.data();"
  tokens := [.word "auto", .word "data", .sign "=", .word "name", .sign ".", .word "data",
    .sign "(", .sign ")", .sign ";"]

def functionOutline (decision : Decision) : Outline :=
  .row signatureLine
    (.row sizeDeclaration .done
      (.row dataDeclaration .done
        (outline decision (.row (returnLine notFound) .done .done))))
    (.row closeLine .done .done)

def functionCode (decision : Decision) : Code := code decision (.cons (.answer notFound) .done)

theorem written_function (tree : Node Int) (proper : (Decision.ofTrie tree).Proper) :
    Written lexicon (Dialect.cpp.function tree) (functionOutline (Decision.ofTrie tree)) := by
  have signature : signatureLine.ReadIn lexicon :=
    Line.readIn_fixed ⟨by decide, fun _ => rfl⟩ ⟨'i', _, rfl, rfl⟩
  have size : sizeDeclaration.ReadIn lexicon :=
    Line.readIn_fixed ⟨by decide, fun _ => rfl⟩ ⟨'a', _, rfl, rfl⟩
  have data : dataDeclaration.ReadIn lexicon :=
    Line.readIn_fixed ⟨by decide, fun _ => rfl⟩ ⟨'a', _, rfl, rfl⟩
  have body := written_outline _ proper (written_line (readIn_returnLine notFound) written_done)
  exact written_row signature (written_line size (written_line data body))
    (written_line readIn_closeLine written_done)

theorem read_function (decision : Decision) (proper : decision.Proper) (unit : String)
    (readable : (functionOutline decision).ReadIn lexicon)
    (blank : ∀ c ∈ unit.toList, isBlank c = true) :
    read ((functionOutline decision).text unit 0) = some (functionCode decision) := by
  have rows := Outline.sourceRows_text readable unit blank
  have last := statementsAre_return notFound (statementsAre_done closeBrace [] rfl)
  have body := statementsAre_outline decision proper (.row (returnLine notFound) .done .done)
    [closeBrace] (by simpa [Outline.tokens, returnLine] using last)
  have placed := placed_code decision proper false (.cons (.answer notFound) .done) rfl
  have split : (functionOutline decision).tokens = header ++
      ((outline decision (.row (returnLine notFound) .done .done)).tokens ++ [closeBrace]) := by
    simp [functionOutline, Outline.tokens, signatureLine, sizeDeclaration, dataDeclaration,
      closeLine, header]
  have start := List.isPrefixOf?_eq_some_iff_append_eq.mpr split.symm
  rw [read, rows]
  simp only [List.flatMap_map, Outline.flatMap_rows, start,
    body _ _ (Nat.le_refl _) (Nat.lt_succ_self _)]
  exact if_pos placed

theorem functionCode_ends (decision : Decision) (proper : decision.Proper) (data : Key)
    {answer : Option Int} (finds : decision.Finds data answer) :
    ((functionCode decision).run data).Ends data (some (answer.getD notFound)) := by
  have last := Code.ends_single (Statement.ends_answer data notFound)
  have ends := code_ends decision proper data finds last
  rwa [Option.or_some] at ends

end Palette.Target.Cpp
