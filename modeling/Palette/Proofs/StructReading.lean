import Palette.Proofs.StructText

/-!
Reading the structs of the theme class. The lines of declarations and of initializers are read one
by one, with a stack of what is still open. Where all names are identifiers, what was printed for
a tree is read as that tree.
-/

namespace Palette.Output

open Printer Layout Target

/-! ### Reading lines -/

def structLexicon : Lexicon where
  signs := ["->", "-", "\x7b", "\x7d", "(", ")", ";", ",", "="]
  numeral? := decimal?
  literal? _ := none

def isIdentifier (name : String) : Bool :=
  match name.toList with
  | [] => false
  | first :: rest => !first.isDigit && (first :: rest).all isWordChar

theorem readsNumerals_structLexicon : structLexicon.ReadsNumerals where
  noLiteral _ _ _ := rfl
  decimal _ _ read := read
  minus c rest digit := by
    have other : ('>' == c) = false := by
      rw [beq_eq_false_iff_ne]
      rintro rfl
      exact absurd digit (by decide)
    simp [Lexicon.token?, structLexicon, isWordChar, List.isPrefixOf, other]

theorem reads_identifier {name : String} (identifier : isIdentifier name = true) :
    structLexicon.Reads name.toList [.word name] := by
  unfold isIdentifier at identifier
  split at identifier
  · simp at identifier
  · rename_i first rest chars
    simp only [Bool.and_eq_true, Bool.not_eq_true', List.all_eq_true] at identifier
    obtain ⟨letter, word⟩ := identifier
    have visible : isBlank first = false := by
      by_contra blank
      simp only [isBlank, Bool.not_eq_false, Bool.or_eq_true, decide_eq_true_eq] at blank
      have inside := word first List.mem_cons_self
      rcases blank with rfl | rfl <;> exact absurd inside (by decide)
    constructor
    · intro newline
      rw [chars] at newline
      exact absurd (word _ newline) (by decide)
    · intro others stop
      have whole : String.ofList (first :: rest) = name := by rw [← chars, String.ofList_toList]
      rw [chars]
      apply structLexicon.lexFrom_token _ _ _ _ visible
      simp only [Lexicon.token?, structLexicon,
        Lexicon.takeWhile_append_stop isWordChar (first :: rest) others word stop, letter,
        Bool.false_eq_true, if_false, whole]

section Reading

variable {α : Type}

def readLines (read? : List Token → Option α) (text : String) : Option (List α) :=
  (Text.lines text.toList).mapM fun line => (structLexicon.lex line).bind read?

/-- Written out, the line is one line and is read as what it was. -/
def Legible (text : α → String) (read? : List Token → Option α) (line : α) : Prop :=
  '\n' ∉ (text line).toList ∧ (structLexicon.lex (text line).toList).bind read? = some line

theorem Legible.of_reads {text : α → String} {read? : List Token → Option α} {line : α}
    {tokens : List Token} (reads : structLexicon.Reads (text line).toList tokens)
    (read : read? tokens = some line) : Legible text read? line := by
  refine ⟨reads.oneLine, ?_⟩
  rw [reads.lex]
  exact read

theorem toList_lineText (unit : String) (depth : Nat) (text : String) :
    ∃ blanks : List Char, (∀ c ∈ blanks, c ∈ unit.toList) ∧
      (lineText unit depth text).toList = blanks ++ text.toList ++ ['\n'] := by
  unfold lineText
  split
  · rename_i empty
    refine ⟨[], by simp, ?_⟩
    rw [String.isEmpty_iff.mp empty]
    rfl
  · refine ⟨Target.indentation unit.toList depth, fun c member => mem_indentation member, ?_⟩
    simp [Target.indentation, String.toList_join, List.flatMap_replicate]

theorem readLines_rowsText {text : α → String} {read? : List Token → Option α} {nothing : α}
    (empty : read? [] = some nothing) {unit : String} (blank : ∀ c ∈ unit.toList, isBlank c = true)
    (rows : List (Nat × α)) (legible : ∀ row ∈ rows, Legible text read? row.2) :
    readLines read? (rowsText text unit rows) = some (rows.map Prod.snd ++ [nothing]) := by
  induction rows with
  | nil =>
      change (do let line ← read? []; some [line]) = some [nothing]
      rw [empty]
      rfl
  | cons row rows ih =>
      obtain ⟨oneLine, read⟩ := legible row List.mem_cons_self
      obtain ⟨blanks, inside, chars⟩ := toList_lineText unit row.1 (text row.2)
      have spaces : ∀ c ∈ blanks, isBlank c = true := fun c member => blank c (inside c member)
      have noBreak : '\n' ∉ blanks ++ (text row.2).toList := by
        rw [List.mem_append, not_or]
        exact ⟨fun member => absurd (spaces _ member) (by decide), oneLine⟩
      have others := ih fun other member => legible other (List.mem_cons_of_mem row member)
      unfold readLines at others ⊢
      rw [rowsText_cons, String.toList_append, chars, List.append_assoc, List.singleton_append,
        lines_append _ _ noBreak, List.mapM_cons, structLexicon.lex_blanks _ _ spaces, read, others]
      rfl

theorem foldlM_flatMap {β σ : Type} {step : σ → α → Option σ} {lines : β → List α}
    (state : List β → σ) (elements : List β)
    (each : ∀ b ∈ elements, ∀ done, (lines b).foldlM step (state done) = some (state (done ++ [b])))
    (done : List β) :
    (elements.flatMap lines).foldlM step (state done) = some (state (done ++ elements)) := by
  induction elements generalizing done with
  | nil => simp
  | cons b elements ih =>
      have later := ih fun other member => each other (List.mem_cons_of_mem b member)
      rw [List.flatMap_cons, List.foldlM_append, each b List.mem_cons_self, Option.bind_eq_bind,
        Option.bind_some, later, List.append_assoc, List.singleton_append]

end Reading

/-! ### Declarations -/

def DeclarationLine.ofTokens? : List Token → Option DeclarationLine
  | [] => some .blank
  | [.word type, .word name, .sign ";"] => some (.member type name)
  | [.word "struct", .sign "\x7b"] => some .openMember
  | [.sign "\x7d", .word name, .sign ";"] => some (.closeMember name)
  | [.word "struct", .word name, .sign "\x7b"] => some (.openDefinition name)
  | [.sign "\x7d", .sign ";"] => some .closeDefinition
  | _ => none

def DeclarationLine.Named : DeclarationLine → Prop
  | .member type name => isIdentifier type = true ∧ isIdentifier name = true
  | .closeMember name | .openDefinition name => isIdentifier name = true
  | .blank | .openMember | .closeDefinition => True

theorem DeclarationLine.Named.legible {line : DeclarationLine} (named : line.Named) :
    Legible DeclarationLine.text DeclarationLine.ofTokens? line := by
  have semicolon : structLexicon.Cuts ";".toList [.sign ";"] := ⟨by decide, fun _ => rfl⟩
  cases line with
  | blank | openMember | closeDefinition => exact ⟨by decide, rfl⟩
  | member type name =>
      have space : structLexicon.Cuts " ".toList [] := ⟨by decide, fun _ => rfl⟩
      have piece := (((reads_identifier named.1).append_cuts space ⟨' ', _, rfl, rfl⟩).append_reads
        (reads_identifier named.2)).append_cuts semicolon ⟨';', _, rfl, rfl⟩
      simp only [← String.toList_append] at piece
      exact .of_reads piece.reads rfl
  | closeMember name =>
      have brace : structLexicon.Cuts "\x7d ".toList [.sign "\x7d"] := ⟨by decide, fun _ => rfl⟩
      have piece := (brace.append_reads (reads_identifier named)).append_cuts semicolon
        ⟨';', _, rfl, rfl⟩
      simp only [← String.toList_append] at piece
      exact .of_reads piece.reads rfl
  | openDefinition name =>
      have keyword : structLexicon.Cuts "struct ".toList [.word "struct"] :=
        ⟨by decide, fun _ => rfl⟩
      have brace : structLexicon.Cuts " \x7b".toList [.sign "\x7b"] := ⟨by decide, fun _ => rfl⟩
      have piece := (keyword.append_reads (reads_identifier named)).append_cuts brace
        ⟨' ', _, rfl, rfl⟩
      simp only [← String.toList_append] at piece
      exact .of_reads piece.reads rfl

/-- Structs that were read to their end, and those that are open, from the inside out: each with the
name of the type that it declares, if any, and its members so far. -/
structure DeclarationReader where
  structs : Structs
  pending : List (Option String × List Declared)

def Declared.ofType (type name : String) : Declared :=
  if type = "QColor" then .color name else .typed type name

def DeclarationReader.step? : DeclarationReader → DeclarationLine → Option DeclarationReader
  | reader, .blank => some reader
  | ⟨structs, pending⟩, .openMember => some ⟨structs, (none, []) :: pending⟩
  | ⟨structs, []⟩, .openDefinition name => some ⟨structs, [(some name, [])]⟩
  | ⟨structs, (label, members) :: outer⟩, .member type name =>
      some ⟨structs, (label, members ++ [.ofType type name]) :: outer⟩
  | ⟨structs, [(none, members)]⟩, .closeMember name =>
      some ⟨{ structs with items := structs.items ++ [(name, members)] }, []⟩
  | ⟨structs, (none, members) :: (label, before) :: outer⟩, .closeMember name =>
      some ⟨structs, (label, before ++ [.struct name members]) :: outer⟩
  | ⟨structs, [(some name, members)]⟩, .closeDefinition =>
      some ⟨{ structs with definitions := structs.definitions ++ [(name, members)] }, []⟩
  | _, _ => none

def Structs.read (text : String) : Option Structs := do
  let lines ← readLines DeclarationLine.ofTokens? text
  let reader ← lines.foldlM DeclarationReader.step? ⟨⟨[], []⟩, []⟩
  if reader.pending.isEmpty then some reader.structs else none

mutual

/-- All names are identifiers, and no type is taken for that of a color. -/
def Declared.Named : Declared → Prop
  | .color name => isIdentifier name = true
  | .typed type name => isIdentifier type = true ∧ isIdentifier name = true ∧ type ≠ "QColor"
  | .struct name members => isIdentifier name = true ∧ NamedAll members

def NamedAll : List Declared → Prop
  | [] => True
  | member :: rest => member.Named ∧ NamedAll rest

end

mutual

instance decidableNamed : (member : Declared) → Decidable member.Named
  | .color name => inferInstanceAs (Decidable (isIdentifier name = true))
  | .typed type name => inferInstanceAs (Decidable
      (isIdentifier type = true ∧ isIdentifier name = true ∧ type ≠ "QColor"))
  | .struct name members =>
      have := decidableNamedAll members
      inferInstanceAs (Decidable (isIdentifier name = true ∧ NamedAll members))

instance decidableNamedAll : (members : List Declared) → Decidable (NamedAll members)
  | [] => isTrue trivial
  | member :: rest =>
      have := decidableNamed member
      have := decidableNamedAll rest
      inferInstanceAs (Decidable (member.Named ∧ NamedAll rest))

end

def Structs.Named (structs : Structs) : Prop :=
  ∀ entry ∈ structs.definitions ++ structs.items, isIdentifier entry.1 = true ∧ NamedAll entry.2

instance (structs : Structs) : Decidable structs.Named :=
  inferInstanceAs (Decidable (∀ entry ∈ structs.definitions ++ structs.items,
    isIdentifier entry.1 = true ∧ NamedAll entry.2))

mutual

theorem Declared.Named.rows {member : Declared} (named : member.Named) (depth : Nat) :
    ∀ row ∈ member.rows depth, row.2.Named := by
  cases member with
  | color name => simpa [Declared.rows] using ⟨by decide, named⟩
  | typed type name => simpa [Declared.rows] using ⟨named.1, named.2.1⟩
  | struct name members =>
      have inside := NamedAll.rows named.2 (depth + 1)
      simp only [Declared.rows, List.mem_cons, List.mem_append, List.not_mem_nil, or_false,
        List.cons_append]
      rintro row (rfl | rfl | member | rfl)
      · trivial
      · trivial
      · exact inside row member
      · exact named.1

theorem NamedAll.rows {members : List Declared} (named : NamedAll members) (depth : Nat) :
    ∀ row ∈ declaredRows depth members, row.2.Named := by
  cases members with
  | nil => simp [declaredRows]
  | cons member rest =>
      intro row inside
      rw [declaredRows, List.mem_append] at inside
      rcases inside with first | later
      · exact named.1.rows depth row first
      · exact named.2.rows depth row later

end

theorem Structs.Named.rows {structs : Structs} (named : structs.Named) (depth : Nat) :
    ∀ row ∈ structs.rows depth, row.2.Named := by
  intro row inside
  rw [Structs.rows, List.mem_append, List.mem_flatMap, List.mem_flatMap] at inside
  rcases inside with ⟨entry, listed, inside⟩ | ⟨entry, listed, inside⟩
  · obtain ⟨identifier, members⟩ := named entry (List.mem_append_left _ listed)
    simp only [definitionRows, List.cons_append, List.mem_cons, List.mem_append, List.not_mem_nil,
      or_false] at inside
    rcases inside with rfl | inside | rfl
    · exact identifier
    · exact members.rows (depth + 1) row inside
    · trivial
  · have item : (Declared.struct entry.1 entry.2).Named :=
      named entry (List.mem_append_right _ listed)
    exact item.rows depth row inside

section Folding

variable (structs : Structs)

mutual

theorem Declared.Named.foldlM_rows {member : Declared} (named : member.Named) (depth : Nat)
    (label : Option String) (before : List Declared)
    (outer : List (Option String × List Declared)) :
    ((member.rows depth).map Prod.snd).foldlM DeclarationReader.step?
        ⟨structs, (label, before) :: outer⟩ =
      some ⟨structs, (label, before ++ [member]) :: outer⟩ := by
  cases member with
  | color name => rfl
  | typed type name =>
      have other : Declared.ofType type name = .typed type name := if_neg named.2.2
      simp [Declared.rows, DeclarationReader.step?, other]
  | struct name members =>
      -- Its members go to a struct of their own, opened on top of the one that was open before.
      have inside := NamedAll.foldlM_rows named.2 (depth + 1) none [] ((label, before) :: outer)
      simp only [Declared.rows, List.map_cons, List.map_append, List.cons_append, List.foldlM_cons,
        List.foldlM_append, DeclarationReader.step?, Option.bind_eq_bind, Option.bind_some, inside]
      rfl

theorem NamedAll.foldlM_rows {members : List Declared} (named : NamedAll members) (depth : Nat)
    (label : Option String) (before : List Declared)
    (outer : List (Option String × List Declared)) :
    ((declaredRows depth members).map Prod.snd).foldlM DeclarationReader.step?
        ⟨structs, (label, before) :: outer⟩ =
      some ⟨structs, (label, before ++ members) :: outer⟩ := by
  cases members with
  | nil => simp [declaredRows]
  | cons member rest =>
      rw [declaredRows, List.map_append, List.foldlM_append, named.1.foldlM_rows,
        Option.bind_eq_bind, Option.bind_some, named.2.foldlM_rows, List.append_assoc,
        List.singleton_append]

end

end Folding

theorem NamedAll.foldlM_definition {members : List Declared} (named : NamedAll members)
    (depth : Nat) (name : String) (definitions items : List (String × List Declared)) :
    ((definitionRows depth (name, members)).map Prod.snd).foldlM DeclarationReader.step?
        ⟨⟨definitions, items⟩, []⟩ =
      some ⟨⟨definitions ++ [(name, members)], items⟩, []⟩ := by
  have inside := named.foldlM_rows ⟨definitions, items⟩ (depth + 1) (some name) [] []
  simp only [definitionRows, List.map_cons, List.map_append, List.cons_append, List.foldlM_cons,
    List.foldlM_append, DeclarationReader.step?, Option.bind_eq_bind, Option.bind_some, inside]
  rfl

theorem NamedAll.foldlM_item {members : List Declared} (named : NamedAll members) (depth : Nat)
    (name : String) (definitions items : List (String × List Declared)) :
    (((Declared.struct name members).rows depth).map Prod.snd).foldlM DeclarationReader.step?
        ⟨⟨definitions, items⟩, []⟩ =
      some ⟨⟨definitions, items ++ [(name, members)]⟩, []⟩ := by
  have inside := named.foldlM_rows ⟨definitions, items⟩ (depth + 1) none [] []
  simp only [Declared.rows, List.map_cons, List.map_append, List.cons_append, List.foldlM_cons,
    List.foldlM_append, DeclarationReader.step?, Option.bind_eq_bind, Option.bind_some, inside]
  rfl

/-- Declarations with plain names can be read in one way only. -/
theorem Structs.Named.read_text {structs : Structs} (named : structs.Named) {unit : String}
    (blank : ∀ c ∈ unit.toList, isBlank c = true) (depth : Nat) :
    Structs.read (structs.text unit depth) = some structs := by
  have empty : DeclarationLine.ofTokens? [] = some .blank := rfl
  have lines := readLines_rowsText empty blank (structs.rows depth) fun row member =>
    (named.rows depth row member).legible
  have definitions := foldlM_flatMap (fun done => DeclarationReader.mk ⟨done, []⟩ [])
    structs.definitions (fun entry member done =>
      (named entry (List.mem_append_left _ member)).2.foldlM_definition depth entry.1 done []) []
  have items := foldlM_flatMap (fun done => DeclarationReader.mk ⟨structs.definitions, done⟩ [])
    structs.items (fun entry member done =>
      (named entry (List.mem_append_right _ member)).2.foldlM_item depth entry.1 _ done) []
  rw [List.nil_append] at definitions items
  rw [Structs.read, Structs.text, lines]
  simp only [Structs.rows, List.map_append, List.map_flatMap, Option.bind_eq_bind, Option.bind_some,
    List.foldlM_append, definitions, items]
  rfl

/-! ### Assignments -/

def AssignmentLine.ofTokens? : List Token → Option AssignmentLine
  | [] => some .blank
  | [.word "this", .sign "->", .word name, .sign "=", .sign "\x7b"] => some (.openStruct name)
  | [.sign "\x7d", .sign ";"] => some .closeStruct
  | [.word "d", .sign "(", .number id, .sign ")", .sign ","] => some (.color id)
  | [.sign "\x7b"] => some .openGroup
  | [.sign "\x7d", .sign ","] => some .closeGroup
  | _ => none

def AssignmentLine.Named : AssignmentLine → Prop
  | .openStruct name => isIdentifier name = true
  | .blank | .closeStruct | .color _ | .openGroup | .closeGroup => True

theorem AssignmentLine.Named.legible {line : AssignmentLine} (named : line.Named) :
    Legible AssignmentLine.text AssignmentLine.ofTokens? line := by
  cases line with
  | blank | closeStruct | openGroup | closeGroup => exact ⟨by decide, rfl⟩
  | openStruct name =>
      have front : structLexicon.Cuts "this->".toList [.word "this", .sign "->"] :=
        ⟨by decide, fun _ => rfl⟩
      have back : structLexicon.Cuts " = \x7b".toList [.sign "=", .sign "\x7b"] :=
        ⟨by decide, fun _ => rfl⟩
      have piece := (front.append_reads (reads_identifier named)).append_cuts back
        ⟨' ', _, rfl, rfl⟩
      simp only [← String.toList_append] at piece
      exact .of_reads piece.reads rfl
  | color id =>
      have front : structLexicon.Cuts "d(".toList [.word "d", .sign "("] :=
        ⟨by decide, fun _ => rfl⟩
      have back : structLexicon.Cuts "),".toList [.sign ")", .sign ","] :=
        ⟨by decide, fun _ => rfl⟩
      have piece := (front.append_reads (reads_nat readsNumerals_structLexicon id)).append_cuts back
        ⟨')', _, rfl, rfl⟩
      simp only [← String.toList_append] at piece
      exact .of_reads piece.reads rfl

mutual

theorem Braced.named_rows (part : Braced) (depth : Nat) : ∀ row ∈ part.rows depth, row.2.Named := by
  cases part with
  | color id => simp [Braced.rows, AssignmentLine.Named]
  | group parts =>
      simp only [Braced.rows, List.mem_cons, List.mem_append, List.not_mem_nil, or_false,
        List.cons_append]
      rintro row (rfl | member | rfl)
      · trivial
      · exact named_bracedRows parts (depth + 1) row member
      · trivial

theorem named_bracedRows (parts : List Braced) (depth : Nat) :
    ∀ row ∈ bracedRows depth parts, row.2.Named := by
  cases parts with
  | nil => simp [bracedRows]
  | cons part rest =>
      intro row inside
      rw [bracedRows, List.mem_append] at inside
      rcases inside with first | later
      · exact part.named_rows depth row first
      · exact named_bracedRows rest depth row later

end

theorem named_assignmentRows {entry : String × List Braced}
    (identifier : isIdentifier entry.1 = true) (depth : Nat) :
    ∀ row ∈ assignmentRows depth entry, row.2.Named := by
  simp only [assignmentRows, List.cons_append, List.mem_cons, List.mem_append, List.not_mem_nil,
    or_false]
  rintro row (rfl | member | rfl)
  · exact identifier
  · exact named_bracedRows entry.2 (depth + 1) row member
  · trivial

/-- Structs whose lists were read to their end, and the lists that are open, from the inside out: the
outermost with the name of its struct, and each with its parts so far. -/
structure AssignmentReader where
  assigned : Assigned
  pending : List (Option String × List Braced)

def AssignmentReader.step? : AssignmentReader → AssignmentLine → Option AssignmentReader
  | reader, .blank => some reader
  | ⟨assigned, []⟩, .openStruct name => some ⟨assigned, [(some name, [])]⟩
  | ⟨assigned, (label, parts) :: outer⟩, .color id =>
      some ⟨assigned, (label, parts ++ [.color id]) :: outer⟩
  | ⟨assigned, around :: outer⟩, .openGroup => some ⟨assigned, (none, []) :: around :: outer⟩
  | ⟨assigned, (none, parts) :: (label, before) :: outer⟩, .closeGroup =>
      some ⟨assigned, (label, before ++ [.group parts]) :: outer⟩
  | ⟨assigned, [(some name, parts)]⟩, .closeStruct => some ⟨assigned ++ [(name, parts)], []⟩
  | _, _ => none

def readAssigned (text : String) : Option Assigned := do
  let lines ← readLines AssignmentLine.ofTokens? text
  let reader ← lines.foldlM AssignmentReader.step? ⟨[], []⟩
  if reader.pending.isEmpty then some reader.assigned else none

section Folding

variable (assigned : Assigned)

mutual

theorem Braced.foldlM_rows (part : Braced) (depth : Nat) (label : Option String)
    (before : List Braced) (outer : List (Option String × List Braced)) :
    ((part.rows depth).map Prod.snd).foldlM AssignmentReader.step?
        ⟨assigned, (label, before) :: outer⟩ =
      some ⟨assigned, (label, before ++ [part]) :: outer⟩ := by
  cases part with
  | color id => rfl
  | group parts =>
      have inside := foldlM_bracedRows parts (depth + 1) none [] ((label, before) :: outer)
      simp only [Braced.rows, List.map_cons, List.map_append, List.cons_append, List.foldlM_cons,
        List.foldlM_append, AssignmentReader.step?, Option.bind_eq_bind, Option.bind_some, inside]
      rfl

theorem foldlM_bracedRows (parts : List Braced) (depth : Nat) (label : Option String)
    (before : List Braced) (outer : List (Option String × List Braced)) :
    ((bracedRows depth parts).map Prod.snd).foldlM AssignmentReader.step?
        ⟨assigned, (label, before) :: outer⟩ =
      some ⟨assigned, (label, before ++ parts) :: outer⟩ := by
  cases parts with
  | nil => simp [bracedRows]
  | cons part rest =>
      rw [bracedRows, List.map_append, List.foldlM_append, part.foldlM_rows, Option.bind_eq_bind,
        Option.bind_some, foldlM_bracedRows rest, List.append_assoc, List.singleton_append]

end

theorem foldlM_assignmentRows (entry : String × List Braced) (depth : Nat) :
    ((assignmentRows depth entry).map Prod.snd).foldlM AssignmentReader.step? ⟨assigned, []⟩ =
      some ⟨assigned ++ [entry], []⟩ := by
  have inside := foldlM_bracedRows assigned entry.2 (depth + 1) (some entry.1) [] []
  simp only [assignmentRows, List.map_cons, List.map_append, List.cons_append, List.foldlM_cons,
    List.foldlM_append, AssignmentReader.step?, Option.bind_eq_bind, Option.bind_some, inside]
  rfl

end Folding

/-- Assignments to structs with plain names can be read in one way only. -/
theorem readAssigned_assignedText {assigned : Assigned}
    (named : ∀ entry ∈ assigned, isIdentifier entry.1 = true) {unit : String}
    (blank : ∀ c ∈ unit.toList, isBlank c = true) (depth : Nat) :
    readAssigned (assignedText assigned unit depth) = some assigned := by
  have empty : AssignmentLine.ofTokens? [] = some .blank := rfl
  have legible : ∀ row ∈ assigned.flatMap (assignmentRows depth),
      Legible AssignmentLine.text AssignmentLine.ofTokens? row.2 := by
    intro row member
    obtain ⟨entry, listed, inside⟩ := List.mem_flatMap.mp member
    exact (named_assignmentRows (named entry listed) depth row inside).legible
  have lines := readLines_rowsText empty blank _ legible
  have folded := foldlM_flatMap (fun done => AssignmentReader.mk done []) assigned
    (fun entry _ done => foldlM_assignmentRows done entry depth) []
  rw [readAssigned, assignedText, lines]
  simp only [List.map_flatMap, Option.bind_eq_bind, Option.bind_some, List.foldlM_append, folded,
    List.nil_append]
  rfl

end Palette.Output
