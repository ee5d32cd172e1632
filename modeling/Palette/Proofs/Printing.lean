import Palette.Printer

/-!
Programs as the texts that they print. A program that prints a text does so from every printer: what
it writes depends on the unit of indentation and the depth alone, and afterwards the depth is what
it was. A program without steps that move the depth gives it back even where it fails.
-/

namespace Palette.Printer

variable {ε δ : Type}

def lineText (unit : String) (depth : Nat) (text : String) : String :=
  if text.isEmpty then "\n" else String.join (List.replicate depth unit) ++ text ++ "\n"

theorem line_eq_write (p : Printer) (text : String) :
    p.line text = p.write (lineText p.unit p.depth text) := by
  unfold line lineText indentation
  split <;> rfl

theorem write_write (p : Printer) (first second : String) :
    (p.write first).write second = p.write (first ++ second) := by
  simp [write, String.append_assoc]

@[simp]
theorem write_empty (p : Printer) : p.write "" = p := by
  simp [write]

@[simp]
theorem unit_write (p : Printer) (text : String) : (p.write text).unit = p.unit := rfl

@[simp]
theorem depth_write (p : Printer) (text : String) : (p.write text).depth = p.depth := rfl

@[simp]
theorem depth_indent (p : Printer) : p.indent.depth = p.depth + 1 := rfl

@[simp]
theorem depth_line (p : Printer) (text : String) : (p.line text).depth = p.depth := by
  rw [line_eq_write]
  rfl

theorem runAll_append (first second : Program ε) (p : Printer) :
    runAll (first ++ second) p =
      match runAll first p with
      | (next, .ok _) => runAll second next
      | (next, .error fault) => (next, .error fault) := by
  induction first generalizing p with
  | nil => rfl
  | cons step first ih =>
      simp only [List.cons_append, runAll]
      split
      · exact ih _
      · rfl

theorem runAll_singleton (step : Step ε) (p : Printer) :
    runAll [step] p = ((step.run p).1, (step.run p).2.map fun _ => ()) := by
  rw [runAll]
  rcases step.run p with ⟨next, fault | value⟩ <;> rfl

/-! ### Depth -/

mutual

/-- No step moves the depth, except a block for its body. -/
def Step.Level : Step ε → Prop
  | .indent | .dedent => False
  | .block _ _ body => LevelAll body
  | .beginLine | .write _ | .line _ | .lines _ | .contents | .fail _ => True

def LevelAll : List (Step ε) → Prop
  | [] => True
  | step :: rest => step.Level ∧ LevelAll rest

end

theorem writes_lines (texts : List String) (p : Printer) :
    ∃ written, texts.foldl line p = p.write written := by
  induction texts generalizing p with
  | nil => exact ⟨"", (write_empty p).symm⟩
  | cons text texts ih =>
      obtain ⟨written, others⟩ := ih (p.line text)
      rw [List.foldl_cons, others, line_eq_write, write_write]
      exact ⟨_, rfl⟩

/-- The closing line of a block, where it has one. -/
def closingText (unit : String) (depth : Nat) (closing : String) : String :=
  if closing.isEmpty then "" else lineText unit depth closing

theorem closeBlock_of_depth {p : Printer} {depth : Nat} (inside : p.depth = depth + 1)
    (closing : String) :
    p.closeBlock closing = some ({ p with depth }.write (closingText p.unit depth closing)) := by
  simp only [closeBlock, dedent?, inside, Option.map_some, closingText]
  split
  · rw [write_empty]
  · rw [line_eq_write]

/-- A block whose body does nothing but write encloses what it wrote, and ends as the body does. -/
theorem run_block {body : Program ε} {p : Printer} {opening inside : String}
    (wrote : (runAll body (p.line opening).indent).1 = (p.line opening).indent.write inside)
    (closing : String) :
    (Step.block opening closing body).run p =
      (p.write (lineText p.unit p.depth opening ++ inside ++ closingText p.unit p.depth closing),
        (runAll body (p.line opening).indent).2.map fun _ => none) := by
  have deeper : ((p.line opening).indent.write inside).depth = p.depth + 1 := by simp
  have closed : ((p.line opening).indent.write inside).closeBlock closing =
      some (p.write (lineText p.unit p.depth opening ++ inside ++
        closingText p.unit p.depth closing)) := by
    rw [closeBlock_of_depth deeper]
    simp [line_eq_write, write, indent, String.append_assoc]
  rcases ran : runAll body (p.line opening).indent with ⟨inner, outcome⟩
  rw [ran] at wrote
  obtain rfl : inner = _ := wrote
  rw [Step.run, ran]
  simp only [closed]
  cases outcome <;> rfl

mutual

/-- A level step does nothing but write, whether it fails or not. -/
theorem Step.Level.writes {step : Step ε} (level : step.Level) (p : Printer) :
    ∃ written, (step.run p).1 = p.write written := by
  cases step with
  | indent | dedent => exact False.elim level
  | beginLine | write => exact ⟨_, rfl⟩
  | line text => exact ⟨_, line_eq_write p text⟩
  | lines texts => exact writes_lines texts p
  | contents => exact ⟨"", by cases readable : p.readable <;> simp [Step.run, readable]⟩
  | fail => exact ⟨"", (write_empty p).symm⟩
  | block opening closing body =>
      have inner : LevelAll body := level
      obtain ⟨inside, wrote⟩ := inner.writes (p.line opening).indent
      exact ⟨_, congrArg Prod.fst (run_block wrote closing)⟩

theorem LevelAll.writes {program : List (Step ε)} (level : LevelAll program) (p : Printer) :
    ∃ written, (runAll program p).1 = p.write written := by
  cases program with
  | nil => exact ⟨"", (write_empty p).symm⟩
  | cons step rest =>
      obtain ⟨first, wrote⟩ := level.1.writes p
      rw [runAll]
      rcases outcome : step.run p with ⟨next, fault | value⟩
      · exact ⟨first, by simpa [outcome] using wrote⟩
      · obtain ⟨second, others⟩ := level.2.writes next
        rw [outcome] at wrote
        obtain rfl : next = p.write first := wrote
        exact ⟨first ++ second, by rw [← write_write]; exact others⟩

end

/-! ### Texts -/

/-- Run anywhere, the program writes this text and is then at the depth where it began. -/
def Prints (program : Program ε) (text : String → Nat → String) : Prop :=
  ∀ p, runAll program p = (p.write (text p.unit p.depth), .ok ())

def Printable (program : Program ε) : Prop := ∃ text, Prints program text

section Prints

variable {program others : Program ε} {text behind : String → Nat → String}

theorem Prints.of_eq (prints : Prints program text)
    (same : ∀ unit depth, text unit depth = behind unit depth) : Prints program behind := by
  intro p
  rw [prints p, same]

theorem prints_nil : Prints ([] : Program ε) fun _ _ => "" := by
  intro p
  simp [runAll]

theorem Prints.append (first : Prints program text) (second : Prints others behind) :
    Prints (program ++ others) fun unit depth => text unit depth ++ behind unit depth := by
  intro p
  rw [runAll_append, first p]
  simp only [second (p.write (text p.unit p.depth)), write_write, unit_write, depth_write]

theorem Printable.append (first : Printable program) (second : Printable others) :
    Printable (program ++ others) := by
  obtain ⟨_, left⟩ := first
  obtain ⟨_, right⟩ := second
  exact ⟨_, left.append right⟩

theorem prints_line (line : String) :
    Prints [(.line line : Step ε)] fun unit depth => lineText unit depth line := by
  intro p
  rw [runAll, Step.run, line_eq_write]
  rfl

theorem prints_map_line (lines : List String) :
    Prints (lines.map fun line => (.line line : Step ε)) fun unit depth =>
      String.join (lines.map (lineText unit depth)) := by
  induction lines with
  | nil => exact prints_nil
  | cons line lines ih =>
      refine ((prints_line line).append ih).of_eq ?_
      intro unit depth
      rw [List.map_cons, String.join_cons]

theorem prints_lines (lines : List String) :
    Prints [(.lines lines : Step ε)] fun unit depth =>
      String.join (lines.map (lineText unit depth)) := by
  intro p
  change (lines.foldl line p, Except.ok ()) = _
  induction lines generalizing p with
  | nil => simp
  | cons line lines ih =>
      rw [List.foldl_cons, ih, line_eq_write, write_write]
      simp

theorem Prints.block (inside : Prints program text) (opening closing : String) :
    Prints [.block opening closing program] fun unit depth =>
      lineText unit depth opening ++ text unit (depth + 1) ++ closingText unit depth closing := by
  intro p
  have ran := inside (p.line opening).indent
  rw [runAll_singleton, run_block (congrArg Prod.fst ran), ran, line_eq_write]
  rfl

theorem Prints.indented (inside : Prints program text) :
    Prints ([.indent] ++ program ++ [.dedent]) fun unit depth => text unit (depth + 1) := by
  intro p
  rw [List.append_assoc, runAll_append]
  change runAll (program ++ [.dedent]) p.indent = _
  rw [runAll_append, inside]
  rfl

/-- Run anywhere, the program writes this text, with other text around it. -/
def PrintsWithin (program : Program ε) (text : String → Nat → String) : Prop :=
  ∃ front back : String → Nat → String, Prints program fun unit depth =>
    front unit depth ++ text unit depth ++ back unit depth

theorem Prints.within (prints : Prints program text) : PrintsWithin program text := by
  refine ⟨fun _ _ => "", fun _ _ => "", prints.of_eq ?_⟩
  intro unit depth
  simp

theorem PrintsWithin.append (within : PrintsWithin program text) (second : Printable others) :
    PrintsWithin (program ++ others) text := by
  obtain ⟨front, back, prints⟩ := within
  obtain ⟨after, behind⟩ := second
  refine ⟨front, fun unit depth => back unit depth ++ after unit depth,
    (prints.append behind).of_eq ?_⟩
  simp [String.append_assoc]

theorem Printable.append_within (first : Printable others) (within : PrintsWithin program text) :
    PrintsWithin (others ++ program) text := by
  obtain ⟨before, prints⟩ := first
  obtain ⟨front, back, behind⟩ := within
  refine ⟨fun unit depth => before unit depth ++ front unit depth, back,
    (prints.append behind).of_eq ?_⟩
  simp [String.append_assoc]

end Prints

mutual

/-- Nothing but lines, in blocks. -/
def Step.Plain : Step ε → Prop
  | .line _ | .lines _ => True
  | .block _ _ body => PlainAll body
  | .indent | .dedent | .beginLine | .write _ | .contents | .fail _ => False

def PlainAll : List (Step ε) → Prop
  | [] => True
  | step :: rest => step.Plain ∧ PlainAll rest

end

theorem plainAll_append (first second : Program ε) :
    PlainAll (first ++ second) ↔ PlainAll first ∧ PlainAll second := by
  induction first with
  | nil => simp [PlainAll]
  | cons step first ih => simp [PlainAll, ih, and_assoc]

theorem plainAll_map {α : Type} (f : α → Step ε) (plain : ∀ a, (f a).Plain) (values : List α) :
    PlainAll (values.map f) := by
  induction values with
  | nil => trivial
  | cons value values ih => exact ⟨plain value, ih⟩

mutual

theorem Step.Plain.printable {step : Step ε} (plain : step.Plain) : Printable [step] := by
  cases step with
  | line line => exact ⟨_, prints_line line⟩
  | lines lines => exact ⟨_, prints_lines lines⟩
  | block opening closing body =>
      have inner : PlainAll body := plain
      obtain ⟨_, inside⟩ := inner.printable
      exact ⟨_, inside.block opening closing⟩
  | indent | dedent | beginLine | write | contents | fail => exact False.elim plain

theorem PlainAll.printable {program : List (Step ε)} (plain : PlainAll program) :
    Printable program := by
  cases program with
  | nil => exact ⟨_, prints_nil⟩
  | cons step rest =>
      exact plain.1.printable.append plain.2.printable

end

/-! ### Text is only added -/

/-- What `p` wrote is the beginning of what `q` wrote. -/
def Extends (p q : Printer) : Prop := ∃ written, q.text = p.text ++ written

theorem Extends.refl (p : Printer) : Extends p p := ⟨"", by simp⟩

theorem Extends.trans {p q r : Printer} (first : Extends p q) (second : Extends q r) :
    Extends p r := by
  obtain ⟨written, middle⟩ := first
  obtain ⟨more, last⟩ := second
  exact ⟨written ++ more, by rw [last, middle, String.append_assoc]⟩

theorem extends_write (p : Printer) (text : String) : Extends p (p.write text) := ⟨text, rfl⟩

theorem extends_line (p : Printer) (text : String) : Extends p (p.line text) := by
  rw [line_eq_write]
  exact extends_write p _

theorem extends_lines (texts : List String) (p : Printer) : Extends p (texts.foldl line p) := by
  induction texts generalizing p with
  | nil => exact .refl p
  | cons text texts ih => exact (extends_line p text).trans (ih _)

theorem extends_dedent? {p outer : Printer} (dedented : p.dedent? = some outer) :
    Extends p outer := by
  unfold dedent? at dedented
  split at dedented
  · simp at dedented
  · obtain rfl := Option.some.inj dedented
    exact .refl p

theorem extends_closeBlock {p outer : Printer} {closing : String}
    (closed : p.closeBlock closing = some outer) : Extends p outer := by
  obtain ⟨inner, dedented, rfl⟩ := Option.map_eq_some_iff.mp closed
  refine (extends_dedent? dedented).trans ?_
  split
  · exact .refl inner
  · exact extends_line inner closing

theorem extends_run_block (opening closing : String) (body : Program ε) (p : Printer) :
    Extends (runAll body (p.line opening).indent).1
      ((Step.block opening closing body).run p).1 := by
  rw [Step.run]
  split
  rename_i inner outcome ran
  rw [ran]
  split
  · exact .refl inner
  · rename_i closed
    exact extends_closeBlock closed
  · rename_i closed
    exact extends_closeBlock closed

theorem extends_runAll_cons {rest : Program ε} (others : ∀ p, Extends p (runAll rest p).1)
    (step : Step ε) (p : Printer) : Extends (step.run p).1 (runAll (step :: rest) p).1 := by
  rw [runAll]
  rcases step.run p with ⟨next, fault | value⟩
  · exact .refl next
  · exact others next

mutual

theorem Step.extends_run (step : Step ε) (p : Printer) : Extends p (step.run p).1 := by
  cases step with
  | indent | fail => exact .refl p
  | dedent =>
      rw [Step.run]
      split
      · rename_i outer dedented
        exact extends_dedent? dedented
      · exact .refl p
  | beginLine => exact extends_write p _
  | write text => exact extends_write p text
  | line text => exact extends_line p text
  | lines texts => exact extends_lines texts p
  | contents =>
      rw [Step.run]
      split <;> exact .refl p
  | block opening closing body =>
      have inside : Extends p (runAll body (p.line opening).indent).1 :=
        (extends_line p opening).trans (extends_runAll body (p.line opening).indent)
      exact inside.trans (extends_run_block opening closing body p)

theorem extends_runAll (program : List (Step ε)) (p : Printer) :
    Extends p (runAll program p).1 := by
  cases program with
  | nil => exact .refl p
  | cons step rest =>
      exact (step.extends_run p).trans (extends_runAll_cons (fun q => extends_runAll rest q) step p)

end

/-! ### Failures -/

def Fails (program : Program ε) (fault : Fault ε) : Prop :=
  ∀ p, (runAll program p).2 = .error fault

section Fails

variable {program : Program ε} {fault : Fault ε}

theorem fails_fail (error : ε) (rest : Program ε) : Fails (.fail error :: rest) (.raised error) :=
  fun _ => rfl

theorem Fails.append (fails : Fails program fault) (others : Program ε) :
    Fails (program ++ others) fault := by
  intro p
  have first := fails p
  rw [runAll_append]
  rcases ran : runAll program p with ⟨next, outcome⟩
  rw [ran] at first
  obtain rfl : outcome = .error fault := first
  rfl

theorem Printable.append_fails {before : Program ε} (prints : Printable before)
    (fails : Fails program fault) : Fails (before ++ program) fault := by
  obtain ⟨text, first⟩ := prints
  intro p
  rw [runAll_append, first p]
  exact fails _

theorem Fails.indented (fails : Fails program fault) :
    Fails ([.indent] ++ program ++ [.dedent]) fault := by
  intro p
  rw [List.append_assoc, runAll_append]
  exact fails.append [.dedent] p.indent

/-- A block whose body fails does so as well; its own end cannot fail before that. -/
theorem Fails.block (fails : Fails program fault) (level : LevelAll program)
    (opening closing : String) : Fails [.block opening closing program] fault := by
  intro p
  obtain ⟨inside, wrote⟩ := level.writes (p.line opening).indent
  rw [runAll_singleton, run_block wrote, fails]
  rfl

end Fails

/-! ### Errors of another kind -/

def Fault.map (f : ε → δ) : Fault ε → Fault δ
  | .dedentAtZero => .dedentAtZero
  | .notReadable => .notReadable
  | .raised error => .raised (f error)

mutual

theorem Step.run_mapError (f : ε → δ) (step : Step ε) (p : Printer) :
    (step.mapError f).run p = ((step.run p).1, (step.run p).2.mapError (Fault.map f)) := by
  cases step with
  | indent | beginLine | write | line | lines | fail => rfl
  | dedent =>
      rw [Step.mapError, Step.run, Step.run]
      cases p.dedent? <;> rfl
  | contents =>
      rw [Step.mapError, Step.run, Step.run]
      cases p.readable <;> rfl
  | block opening closing body =>
      rw [Step.mapError, Step.run, Step.run, runAll_mapErrors f body]
      rcases runAll body (p.line opening).indent with ⟨inner, outcome⟩
      simp only
      cases inner.closeBlock closing with
      | none => rfl
      | some outer => cases outcome <;> rfl

theorem runAll_mapErrors (f : ε → δ) (program : List (Step ε)) (p : Printer) :
    runAll (mapErrors f program) p =
      ((runAll program p).1, (runAll program p).2.mapError (Fault.map f)) := by
  cases program with
  | nil => rfl
  | cons step rest =>
      rw [mapErrors, runAll, runAll, Step.run_mapError f step]
      rcases step.run p with ⟨next, fault | value⟩
      · rfl
      · exact runAll_mapErrors f rest next

end

theorem Prints.mapErrors {program : Program ε} {text : String → Nat → String}
    (prints : Prints program text) (f : ε → δ) : Prints (mapErrors f program) text := by
  intro p
  rw [runAll_mapErrors, prints p]
  rfl

end Palette.Printer
