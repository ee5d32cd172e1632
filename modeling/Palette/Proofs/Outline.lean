import Palette.Proofs.Printing
import Palette.Proofs.TargetTokens

/-!
Printed text as a forest of lines. Each line knows its text and the tokens it is to be read as; the
lines below it stand one level deeper. A program that writes an outline gives a text whose lines,
cut into tokens again, are those of the outline.
-/

namespace Palette.Target

open Printer

structure Line where
  text : String
  tokens : List Token

inductive Outline where
  | done
  | row (line : Line) (inside next : Outline)

/-- The lines with their depths, from top to bottom. -/
def Outline.rows (depth : Nat) : Outline → List (Nat × Line)
  | .done => []
  | .row line inside next => (depth, line) :: inside.rows (depth + 1) ++ next.rows depth

def Outline.tokens : Outline → List Token
  | .done => []
  | .row line inside next => line.tokens ++ inside.tokens ++ next.tokens

theorem Outline.flatMap_rows (outline : Outline) (depth : Nat) :
    (outline.rows depth).flatMap (fun row => row.2.tokens) = outline.tokens := by
  induction outline generalizing depth with
  | done => rfl
  | row line inside next insideIh nextIh =>
      simp only [rows, tokens, List.cons_append, List.flatMap_cons, List.flatMap_append, insideIh,
        nextIh, List.append_assoc]

def rowText (unit : String) (row : Nat × Line) : String :=
  String.join (List.replicate row.1 unit) ++ row.2.text ++ "\n"

def Outline.text (unit : String) (depth : Nat) (outline : Outline) : String :=
  String.join ((outline.rows depth).map (rowText unit))

def Visible (text : String) : Prop := ∃ c chars, text.toList = c :: chars ∧ isBlank c = false

theorem Visible.append {front : String} (visible : Visible front) (back : String) :
    Visible (front ++ back) := by
  obtain ⟨c, chars, start, noBlank⟩ := visible
  exact ⟨c, chars ++ back.toList, by rw [String.toList_append, start, List.cons_append], noBlank⟩

/-- A line that says what its tokens say. -/
structure Line.ReadIn (L : Lexicon) (line : Line) : Prop where
  reads : L.Reads line.text.toList line.tokens
  visible : Visible line.text

theorem Line.readIn_fixed {L : Lexicon} {line : Line} (cuts : L.Cuts line.text.toList line.tokens)
    (visible : Visible line.text) : line.ReadIn L := ⟨cuts.reads, visible⟩

def Outline.ReadIn (L : Lexicon) : Outline → Prop
  | .done => True
  | .row line inside next => line.ReadIn L ∧ inside.ReadIn L ∧ next.ReadIn L

theorem Outline.readIn_rows {L : Lexicon} {outline : Outline} (readable : outline.ReadIn L)
    (depth : Nat) : ∀ row ∈ outline.rows depth, row.2.ReadIn L := by
  induction outline generalizing depth with
  | done => simp [rows]
  | row line inside next insideIh nextIh =>
      obtain ⟨first, inner, others⟩ := readable
      intro row member
      rw [rows, List.cons_append, List.mem_cons, List.mem_append] at member
      rcases member with rfl | below | behind
      · exact first
      · exact insideIh inner _ row below
      · exact nextIh others _ row behind

/-! ### Programs that write an outline -/

theorem Line.ReadIn.line_eq {L : Lexicon} {line : Line} (readable : line.ReadIn L) (p : Printer) :
    p.line line.text = p.write (rowText p.unit (p.depth, line)) := by
  obtain ⟨c, chars, start, _⟩ := readable.visible
  have visible : line.text.isEmpty = false := by
    rw [← Bool.not_eq_true, String.isEmpty_iff]
    rintro empty
    simp [empty] at start
  rw [Printer.line, visible]
  rfl

/-- Run at any depth, the program writes the outline there and stays at that depth. -/
structure Written (L : Lexicon) {ε : Type} (program : Program ε) (outline : Outline) : Prop where
  readable : outline.ReadIn L
  printed : ∀ rest p,
    runAll (program ++ rest) p = runAll rest (p.write (outline.text p.unit p.depth))

variable {L : Lexicon} {ε : Type}

theorem written_done : Written L ([] : Program ε) .done where
  readable := trivial
  printed rest p := by simp [Outline.text, Outline.rows, Printer.write]

theorem written_row {line : Line} {body after : Program ε} {inside next : Outline}
    (first : line.ReadIn L) (inner : Written L body inside) (others : Written L after next) :
    Written L (.line line.text :: .indent :: body ++ .dedent :: after) (.row line inside next) where
  readable := ⟨first, inner.readable, others.readable⟩
  printed rest p := by
    have closed : ∀ text below, ((p.write text).indent.write below).dedent? =
        some ((p.write text).write below) := fun _ _ => rfl
    simp only [List.cons_append, List.append_assoc, runAll, Step.run, first.line_eq]
    rw [inner.printed, runAll, Step.run, closed]
    simp only
    rw [others.printed, write_write, write_write]
    simp [Outline.text, Outline.rows, Printer.write, Printer.indent]

theorem written_line {line : Line} {after : Program ε} {next : Outline}
    (first : line.ReadIn L) (others : Written L after next) :
    Written L (.line line.text :: after) (.row line .done next) where
  readable := ⟨first, trivial, others.readable⟩
  printed rest p := by
    simp only [List.cons_append, runAll, Step.run, first.line_eq]
    rw [others.printed, write_write]
    simp [Outline.text, Outline.rows, Printer.write]

theorem Written.of_append_nil {program : Program ε} {outline : Outline}
    (written : Written L (program ++ []) outline) : Written L program outline := by
  rwa [List.append_nil] at written

theorem Written.prints {program : Program ε} {outline : Outline}
    (written : Written L program outline) : Prints program (fun unit => outline.text unit) := by
  intro p
  have run := written.printed [] p
  rwa [List.append_nil, runAll] at run

theorem Written.render {program : Program ε} {outline : Outline}
    (written : Written L program outline) (unit : String) :
    Printer.render unit program = (outline.text unit 0, .ok ()) := by
  rw [Printer.render, written.prints]
  simp [Printer.write]

/-! ### Lines of a text -/

/-- The leading blanks and the tokens of lines; lines without a token carry no meaning. -/
def sourceRows (L : Lexicon) : List (List Char) → Option (List (List Char × List Token))
  | [] => some []
  | line :: rest =>
      match L.lex line with
      | none => none
      | some [] => sourceRows L rest
      | some (token :: tokens) =>
          (sourceRows L rest).map ((line.takeWhile isBlank, token :: tokens) :: ·)

theorem lines_append (chunk rest : List Char) (oneLine : '\n' ∉ chunk) :
    Text.lines (chunk ++ '\n' :: rest) = chunk :: Text.lines rest := by
  induction chunk with
  | nil => simp [Text.lines]
  | cons c chunk ih =>
      have other : c ≠ '\n' := fun same => oneLine (by simp [same])
      have below : '\n' ∉ chunk := fun member => oneLine (by simp [member])
      simp only [List.cons_append, Text.lines, if_neg other, ih below]

theorem Lexicon.lex_ne_nil (L : Lexicon) (c : Char) (chars : List Char)
    (visible : isBlank c = false) : L.lex (c :: chars) ≠ some [] := by
  rw [Lexicon.lex, Lexicon.lexFrom, if_neg (by simp [visible])]
  split <;> simp

def indentation (unit : List Char) (depth : Nat) : List Char := (List.replicate depth unit).flatten

theorem mem_indentation {unit : List Char} {depth : Nat} {c : Char}
    (member : c ∈ indentation unit depth) : c ∈ unit := by
  obtain ⟨part, inside, member⟩ := List.mem_flatten.mp member
  rwa [List.eq_of_mem_replicate inside] at member

theorem toList_rowText (unit : String) (row : Nat × Line) : (rowText unit row).toList =
    indentation unit.toList row.1 ++ row.2.text.toList ++ ['\n'] := by
  simp [rowText, indentation, String.toList_append, String.toList_join, List.flatMap_replicate]

theorem Line.ReadIn.sourceRows_cons {line : Line} (readable : line.ReadIn L) (blanks : List Char)
    (blank : ∀ c ∈ blanks, isBlank c = true) (rest : List (List Char)) :
    sourceRows L ((blanks ++ line.text.toList) :: rest) =
      (sourceRows L rest).map ((blanks, line.tokens) :: ·) := by
  obtain ⟨c, chars, start, visible⟩ := readable.visible
  have read : L.lex (blanks ++ line.text.toList) = some line.tokens := by
    rw [L.lex_blanks _ _ blank, readable.reads.lex]
  have leading : (blanks ++ line.text.toList).takeWhile isBlank = blanks := by
    rw [start]
    exact Lexicon.takeWhile_append_stop isBlank blanks _ blank (by simpa using visible)
  rw [sourceRows, read]
  cases tokens : line.tokens with
  | nil =>
      have nothing := readable.reads.lex
      rw [start, tokens] at nothing
      exact absurd nothing (L.lex_ne_nil c chars visible)
  | cons token others => simp only [leading]

theorem sourceRows_rows (unit : String) (blank : ∀ c ∈ unit.toList, isBlank c = true)
    (rows : List (Nat × Line)) (readable : ∀ row ∈ rows, row.2.ReadIn L) :
    sourceRows L (Text.lines (rows.flatMap fun row => (rowText unit row).toList)) =
      some (rows.map fun row => (indentation unit.toList row.1, row.2.tokens)) := by
  induction rows with
  | nil => rfl
  | cons row rows ih =>
      have first := readable row (by simp)
      have blanks : ∀ c ∈ indentation unit.toList row.1, isBlank c = true := fun c member =>
        blank c (mem_indentation member)
      have oneLine : '\n' ∉ indentation unit.toList row.1 ++ row.2.text.toList := by
        rw [List.mem_append, not_or]
        exact ⟨fun member => absurd (blanks _ member) (by decide), first.reads.oneLine⟩
      rw [List.flatMap_cons, toList_rowText, List.append_assoc, List.singleton_append,
        lines_append _ _ oneLine, first.sourceRows_cons _ blanks,
        ih (fun other member => readable other (by simp [member]))]
      rfl

/-- Reading the text of an outline gives back its lines. -/
theorem Outline.sourceRows_text {outline : Outline} (readable : outline.ReadIn L) (unit : String)
    (blank : ∀ c ∈ unit.toList, isBlank c = true) :
    sourceRows L (Text.lines (outline.text unit 0).toList) =
      some ((outline.rows 0).map fun row => (indentation unit.toList row.1, row.2.tokens)) := by
  rw [Outline.text, String.toList_join, List.flatMap_map]
  exact sourceRows_rows unit blank _ (Outline.readIn_rows readable 0)

end Palette.Target
