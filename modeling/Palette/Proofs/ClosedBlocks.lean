import Palette.Proofs.Printing

/-!
Blocks are closed even where a step in them fails. A run is followed to each step that it comes to,
through the blocks around it; what a block has written by its end, closing line included, is never
taken back by the steps around it, whether they go on or give up.
-/

namespace Palette.Printer

variable {ε : Type}

/-- The run of a program comes to a step, `nesting` blocks deep, with the printer as it is then. -/
inductive Reaches (step : Step ε) (start : Printer) : Program ε → Printer → Nat → Prop
  | now {rest : Program ε} : Reaches step start (step :: rest) start 0
  | later {first : Step ε} {rest : Program ε} {p next : Printer} {value : Option String}
      {nesting : Nat} (ran : first.run p = (next, .ok value))
      (reached : Reaches step start rest next nesting) :
      Reaches step start (first :: rest) p nesting
  | inside {opening closing : String} {body rest : Program ε} {p : Printer} {nesting : Nat}
      (reached : Reaches step start body (p.line opening).indent nesting) :
      Reaches step start (.block opening closing body :: rest) p (nesting + 1)

section Reaches

variable {step : Step ε} {start p : Printer} {program : Program ε} {nesting : Nat}

theorem Reaches.level (reached : Reaches step start program p nesting) (level : LevelAll program) :
    step.Level := by
  induction reached with
  | now => exact level.1
  | later _ _ ih => exact ih level.2
  | inside _ ih => exact ih level.1

/-- In a level program the depth of a step is the number of blocks around it. -/
theorem Reaches.depth_eq (reached : Reaches step start program p nesting)
    (level : LevelAll program) : start.unit = p.unit ∧ start.depth = p.depth + nesting := by
  induction reached with
  | now => exact ⟨rfl, rfl⟩
  | later ran _ ih =>
      -- The step in front has only written, so this one starts where that one did.
      obtain ⟨written, wrote⟩ := level.1.writes _
      rw [ran] at wrote
      obtain rfl := wrote
      exact ih level.2
  | inside _ ih =>
      obtain ⟨unit, depth⟩ := ih level.1
      rw [depth_indent, depth_line] at depth
      rw [line_eq_write] at unit
      exact ⟨unit, by omega⟩

/-- What a step has written stays, also if a later one fails. -/
theorem Reaches.extends_runAll (reached : Reaches step start program p nesting) :
    Extends (step.run start).1 (runAll program p).1 := by
  induction reached with
  | now => exact extends_runAll_cons (Printer.extends_runAll _) step start
  | later ran _ ih =>
      rw [runAll, ran]
      exact ih
  | @inside opening closing body rest p _ _ ih =>
      -- The block ends after its body, and the rest of the program after the block.
      have closed := ih.trans (extends_run_block opening closing body p)
      exact closed.trans (extends_runAll_cons (Printer.extends_runAll rest) _ p)

end Reaches

/-! ### The margin -/

mutual

theorem Step.Level.ne_dedentAtZero {step : Step ε} (level : step.Level) (p : Printer) :
    (step.run p).2 ≠ .error .dedentAtZero := by
  cases step with
  | indent | dedent => exact False.elim level
  | beginLine | write | line | lines | fail => simp [Step.run]
  | contents => cases readable : p.readable <;> simp [Step.run, readable]
  | block opening closing body =>
      have inner : LevelAll body := level
      obtain ⟨inside, wrote⟩ := inner.writes (p.line opening).indent
      have kept := inner.ne_dedentAtZero (p.line opening).indent
      rw [run_block wrote]
      generalize (runAll body (p.line opening).indent).2 = outcome at kept
      intro failed
      cases outcome with
      | ok _ => cases failed
      | error fault =>
          cases failed
          exact kept rfl

theorem LevelAll.ne_dedentAtZero {program : List (Step ε)} (level : LevelAll program) (p : Printer) :
    (runAll program p).2 ≠ .error .dedentAtZero := by
  cases program with
  | nil => simp [runAll]
  | cons step rest =>
      have first := level.1.ne_dedentAtZero p
      rw [runAll]
      rcases outcome : step.run p with ⟨next, fault | value⟩
      · simpa [outcome] using first
      · exact level.2.ne_dedentAtZero next

end

theorem LevelAll.session_reports {program : Program ε} (level : LevelAll program) (p : Printer) :
    ∀ report ∈ p.session program,
      report.depth = p.depth ∧ report.outcome ≠ .error .dedentAtZero := by
  induction program generalizing p with
  | nil => simp [session]
  | cons step rest ih =>
      obtain ⟨written, wrote⟩ := level.1.writes p
      have depth : (step.run p).1.depth = p.depth := by rw [wrote, depth_write]
      have others := ih level.2 (step.run p).1
      rw [depth] at others
      rw [session]
      exact List.forall_mem_cons.mpr ⟨⟨depth, level.1.ne_dedentAtZero p⟩, others⟩

/-- A level program ends at the depth where it began, whether it fails or not, and never for want
of depth. Each block that it comes to is whole in what it has written: the opening line, what the
body wrote, and right behind it the closing line at the depth of the opening one. -/
theorem runAll_closes_blocks {program : Program ε} (level : LevelAll program) (p : Printer) :
    (runAll program p).1.depth = p.depth ∧
    (∀ opening closing body start nesting,
      Reaches (.block opening closing body) start program p nesting →
        start.depth = p.depth + nesting ∧
        ∃ inside rest,
          (runAll body (start.line opening).indent).1.text =
            start.text ++ lineText p.unit start.depth opening ++ inside ∧
          (runAll program p).1.text =
            start.text ++ lineText p.unit start.depth opening ++ inside ++
              closingText p.unit start.depth closing ++ rest) ∧
    (runAll program p).2 ≠ .error .dedentAtZero ∧
    ∀ report ∈ p.session program,
      report.depth = p.depth ∧ report.outcome ≠ .error .dedentAtZero := by
  refine ⟨?_, ?_, level.ne_dedentAtZero p, level.session_reports p⟩
  · obtain ⟨written, wrote⟩ := level.writes p
    rw [wrote, depth_write]
  · intro opening closing body start nesting reached
    obtain ⟨unit, depth⟩ := reached.depth_eq level
    have inner : LevelAll body := reached.level level
    obtain ⟨inside, wrote⟩ := inner.writes (start.line opening).indent
    obtain ⟨rest, stays⟩ := reached.extends_runAll
    rw [run_block wrote] at stays
    refine ⟨depth, inside, rest, ?_, ?_⟩
    · rw [wrote, line_eq_write, unit]
      rfl
    · rw [stays, unit]
      simp [write, String.append_assoc]

def readingBlocks : Program Empty :=
  [.block "outer" "end" [.write "x", .block "inner" "stop" [.beginLine, .contents, .line "y"],
    .line "z"], .line "w"]

def deafPrinter : Printer := { unit := "\t", depth := 1, readable := false }

theorem runAll_closes_blocks_unreadable :
    (runAll readingBlocks deafPrinter).2 = .error .notReadable ∧
    (runAll readingBlocks deafPrinter).1.depth = 1 ∧
    (∃ inside rest, (runAll readingBlocks deafPrinter).1.text =
      "\touter\n" ++ inside ++ "\tend\n" ++ rest) ∧
    ∃ inside rest, (runAll readingBlocks deafPrinter).1.text =
      "\touter\nx" ++ "\t\tinner\n" ++ inside ++ "\t\tstop\n" ++ rest := by
  have level : LevelAll readingBlocks := by simp [readingBlocks, LevelAll, Step.Level]
  obtain ⟨depth, closes, _, _⟩ := runAll_closes_blocks level deafPrinter
  obtain ⟨_, outside, rest, _, outer⟩ := closes "outer" "end" _ deafPrinter 0 .now
  obtain ⟨_, inside, behind, _, inner⟩ := closes "inner" "stop" _
    ((deafPrinter.line "outer").indent.write "x") 1 (.inside (.later rfl .now))
  exact ⟨rfl, depth, ⟨outside, rest, outer⟩, ⟨inside, behind, inner⟩⟩

end Palette.Printer
