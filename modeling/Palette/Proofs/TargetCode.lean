import Palette.KeyTrie.Overlap
import Mathlib.Data.List.Basic

/-!
Statements of the languages in which lookup functions are written, and what they do. A run over the
input gives the reads it made, in order, and where control is afterwards. A read outside the input
raises an exception in one language and has no meaning in the other; both are a trap here. Limits of
an implementation, on the depth of nesting for instance, are not part of the meaning.
-/

namespace Palette.Target

open KeyTrie

/-- A read of `count` bytes of the input from `start` on. -/
structure Access where
  start : Nat
  count : Nat
  deriving DecidableEq, Repr

def Access.Within (data : Key) (access : Access) : Prop := access.start + access.count ≤ data.length

inductive Condition where
  /-- `size >= least` -/
  | sizeAtLeast (least : Nat)
  /-- `size == length` -/
  | sizeIs (length : Nat)
  /-- `data[position] == value` -/
  | byteIs (position value : Nat)
  /-- `data[start:stop] == bytes`, where a slice ends at the latest with the data. -/
  | sliceIs (start stop : Nat) (bytes : Key)
  /-- `std::memcmp(data + position, bytes, count) == 0`; a zero byte follows the literal. -/
  | memoryIs (position : Nat) (bytes : Key) (count : Nat)
  /-- Both, from left to right; the second is not evaluated when the first fails. -/
  | both (first second : Condition)
  deriving DecidableEq, Repr

mutual

inductive Statement where
  /-- `return value` -/
  | answer (value : Int)
  /-- `break` -/
  | leave
  /-- `case byte:`, a place to which the enclosing switch may go. -/
  | label (byte : UInt8)
  | choose (condition : Condition) (yes no : Code)
  | block (body : Code)
  /-- A switch over `data[position]`. -/
  | switch (position : Nat) (body : Code)

inductive Code where
  | done
  | cons (first : Statement) (rest : Code)

end

inductive Flow where
  | next
  /-- On the way out of the innermost switch. -/
  | leave
  | answer (value : Int)
  | trap
  deriving DecidableEq, Repr

structure Run where
  accesses : List Access
  flow : Flow
  deriving DecidableEq, Repr

/-- What follows is only run when control gets there. -/
def Run.andThen (first rest : Run) : Run :=
  match first.flow with
  | .next => ⟨first.accesses ++ rest.accesses, rest.flow⟩
  | .leave | .answer _ | .trap => first

def Run.caught (run : Run) : Run :=
  match run.flow with
  | .leave => ⟨run.accesses, .next⟩
  | .next | .answer _ | .trap => run

/-- The reads of a condition, and its value if it has one. -/
def Condition.eval (data : Key) : Condition → List Access × Option Bool
  | .sizeAtLeast least => ([], some (least ≤ data.length))
  | .sizeIs length => ([], some (data.length = length))
  | .byteIs position value =>
      ([⟨position, 1⟩], data[position]?.map fun byte => byte.toNat = value)
  | .sliceIs start stop bytes =>
      ([⟨start, stop - start⟩], some ((data.take stop).drop start = bytes))
  | .memoryIs position bytes count =>
      ([⟨position, count⟩],
        if position + count ≤ data.length ∧ count ≤ bytes.length + 1 then
          some ((data.drop position).take count = (bytes ++ [0]).take count)
        else none)
  | .both first second =>
      match first.eval data with
      | (reads, some true) => (reads ++ (second.eval data).1, (second.eval data).2)
      | (reads, outcome) => (reads, outcome)

def Statement.sought (byte : UInt8) : Statement → Option UInt8
  | .label other => if other = byte then none else some byte
  | _ => some byte

mutual

def Statement.exec (data : Key) : Statement → Run
  | .answer value => ⟨[], .answer value⟩
  | .leave => ⟨[], .leave⟩
  | .label _ => ⟨[], .next⟩
  | .choose condition yes no =>
      match condition.eval data with
      | (reads, none) => ⟨reads, .trap⟩
      | (reads, some true) => Run.andThen ⟨reads, .next⟩ (yes.exec data none)
      | (reads, some false) => Run.andThen ⟨reads, .next⟩ (no.exec data none)
  | .block body => body.exec data none
  | .switch position body =>
      match data[position]? with
      | none => ⟨[⟨position, 1⟩], .trap⟩
      | some byte => Run.andThen ⟨[⟨position, 1⟩], .next⟩ (body.exec data (some byte)).caught

/-- Runs statements in order; while a label is sought, all before it are skipped. Running into
another label changes nothing, so control falls through from one case to the next. -/
def Code.exec (data : Key) : Option UInt8 → Code → Run
  | _, .done => ⟨[], .next⟩
  | none, .cons first rest => (first.exec data).andThen (rest.exec data none)
  | some byte, .cons first rest => rest.exec data (first.sought byte)

end

def Code.run (data : Key) (body : Code) : Run := body.exec data none

/-- What a finished run returns. A function that ends without a `return` returns nothing. -/
def Run.answer? (run : Run) : Option Int :=
  match run.flow with
  | .answer value => some value
  | .next | .leave | .trap => none

/-! ### Runs that stay inside the input -/

/-- All reads are inside the input, and control has returned `answer` or gone on. -/
def Run.Ends (data : Key) (answer : Option Int) (run : Run) : Prop :=
  (∀ access ∈ run.accesses, access.Within data) ∧ run.flow = answer.elim .next .answer

theorem Run.ends_start (data : Key) : Run.Ends data none ⟨[], .next⟩ := ⟨by simp, rfl⟩

theorem Run.ends_reads (data : Key) (reads : List Access)
    (within : ∀ access ∈ reads, access.Within data) : Run.Ends data none ⟨reads, .next⟩ :=
  ⟨within, rfl⟩

theorem Run.ends_andThen {data : Key} {answer : Option Int} {first rest : Run}
    (before : first.Ends data none) (after : rest.Ends data answer) :
    (first.andThen rest).Ends data answer := by
  obtain ⟨reads, flow⟩ := before
  have joined : first.andThen rest = ⟨first.accesses ++ rest.accesses, rest.flow⟩ := by
    simp only [Run.andThen, flow, Option.elim]
  rw [joined]
  refine ⟨?_, after.2⟩
  intro access member
  rcases List.mem_append.mp member with early | late
  · exact reads access early
  · exact after.1 access late

theorem Run.ends_andThen_answer {data : Key} {value : Int} {first : Run} (rest : Run)
    (before : first.Ends data (some value)) : (first.andThen rest).Ends data (some value) := by
  have stays : first.andThen rest = first := by
    simp only [Run.andThen, before.2, Option.elim]
  rw [stays]
  exact before

/-- Statements that may answer, followed by statements for the case that they do not. -/
theorem Run.ends_andThen_or {data : Key} {answer otherwise : Option Int} {first rest : Run}
    (before : first.Ends data answer) (after : rest.Ends data otherwise) :
    (first.andThen rest).Ends data (answer.or otherwise) := by
  cases answer with
  | none => exact Run.ends_andThen before after
  | some value => exact Run.ends_andThen_answer rest before

theorem Run.ends_caught {data : Key} {answer : Option Int} {run : Run}
    (ends : run.Ends data answer) : run.caught.Ends data answer := by
  have stays : run.caught = run := by
    cases answer <;> simp only [Run.caught, ends.2, Option.elim]
  rw [stays]
  exact ends

theorem Run.ends_caught_leave {data : Key} {answer : Option Int} {run : Run}
    (ends : run.Ends data answer) : (run.andThen ⟨[], .leave⟩).caught.Ends data answer := by
  cases answer with
  | none =>
      have closed : (run.andThen ⟨[], .leave⟩).caught = ⟨run.accesses, .next⟩ := by
        simp only [Run.andThen, Run.caught, ends.2, Option.elim, List.append_nil]
      rw [closed]
      exact ⟨ends.1, rfl⟩
  | some value => exact Run.ends_caught (Run.ends_andThen_answer _ ends)

def Condition.Decides (data : Key) (holds : Bool) (condition : Condition) : Prop :=
  (∀ access ∈ (condition.eval data).1, access.Within data) ∧ (condition.eval data).2 = some holds

theorem Condition.decides_both {data : Key} {first second : Condition} {holds : Bool}
    (left : first.Decides data true) (right : second.Decides data holds) :
    (first.both second).Decides data holds := by
  have value : first.eval data = ((first.eval data).1, some true) := by rw [← left.2]
  constructor
  · intro access member
    rw [Condition.eval, value] at member
    rcases List.mem_append.mp member with early | late
    · exact left.1 access early
    · exact right.1 access late
  · rw [Condition.eval, value]
    exact right.2

theorem Condition.decides_both_false {data : Key} {first : Condition} (second : Condition)
    (left : first.Decides data false) : (first.both second).Decides data false := by
  have value : first.eval data = ((first.eval data).1, some false) := by rw [← left.2]
  constructor
  · intro access member
    rw [Condition.eval, value] at member
    exact left.1 access member
  · rw [Condition.eval, value]

theorem Condition.decides_sizeAtLeast (data : Key) (least : Nat) :
    (Condition.sizeAtLeast least).Decides data (least ≤ data.length) := ⟨by simp [eval], rfl⟩

theorem Condition.decides_sizeIs (data : Key) (length : Nat) :
    (Condition.sizeIs length).Decides data (data.length = length) := ⟨by simp [eval], rfl⟩

theorem Condition.decides_byteIs (data : Key) (position : Nat) (byte : UInt8)
    (bound : position < data.length) :
    (Condition.byteIs position byte.toNat).Decides data (data[position]? = some byte) := by
  constructor
  · intro access member
    obtain rfl := List.mem_singleton.mp member
    exact bound
  · simp [eval, List.getElem?_eq_getElem bound, UInt8.toNat_inj]

theorem Condition.decides_sliceIs (data : Key) (start : Nat) (bytes : Key)
    (bound : start + bytes.length ≤ data.length) :
    (Condition.sliceIs start (start + bytes.length) bytes).Decides data
      ((data.drop start).take bytes.length = bytes) := by
  constructor
  · intro access member
    obtain rfl := List.mem_singleton.mp member
    simpa [Access.Within] using bound
  · rw [eval, List.take_drop]

theorem Condition.decides_memoryIs (data : Key) (position : Nat) (bytes : Key)
    (bound : position + bytes.length ≤ data.length) :
    (Condition.memoryIs position bytes bytes.length).Decides data
      ((data.drop position).take bytes.length = bytes) := by
  constructor
  · intro access member
    obtain rfl := List.mem_singleton.mp member
    exact bound
  · simp [eval, bound]

theorem Statement.ends_choose {data : Key} {condition : Condition} {holds : Bool} {yes no : Code}
    {answer : Option Int} (decides : condition.Decides data holds)
    (branch : ((if holds then yes else no).exec data none).Ends data answer) :
    ((Statement.choose condition yes no).exec data).Ends data answer := by
  have value : condition.eval data = ((condition.eval data).1, some holds) := by
    rw [← decides.2]
  cases holds with
  | true =>
      rw [Statement.exec, value]
      exact Run.ends_andThen (Run.ends_reads data _ decides.1) branch
  | false =>
      rw [Statement.exec, value]
      exact Run.ends_andThen (Run.ends_reads data _ decides.1) branch

theorem Code.ends_done (data : Key) : (Code.done.exec data none).Ends data none :=
  Run.ends_start data

theorem Statement.ends_when {data : Key} {condition : Condition} {holds : Bool} {yes : Code}
    {answer : Option Int} (decides : condition.Decides data holds)
    (inner : holds = true → (yes.exec data none).Ends data answer)
    (outer : holds = false → answer = none) :
    ((Statement.choose condition yes .done).exec data).Ends data answer := by
  apply Statement.ends_choose decides
  cases holds with
  | true => exact inner rfl
  | false =>
      rw [outer rfl]
      exact Code.ends_done data

theorem Code.ends_cons {data : Key} {first : Statement} {rest : Code}
    {answer otherwise : Option Int} (before : (first.exec data).Ends data answer)
    (after : (rest.exec data none).Ends data otherwise) :
    ((Code.cons first rest).exec data none).Ends data (answer.or otherwise) := by
  rw [Code.exec]
  exact Run.ends_andThen_or before after

theorem Run.Ends.of_or_none {data : Key} {answer : Option Int} {run : Run}
    (ends : run.Ends data (answer.or none)) : run.Ends data answer := by
  rwa [Option.or_none] at ends

theorem Code.ends_single {data : Key} {first : Statement} {answer : Option Int}
    (ends : (first.exec data).Ends data answer) :
    ((Code.cons first .done).exec data none).Ends data answer :=
  (Code.ends_cons ends (Code.ends_done data)).of_or_none

theorem Statement.ends_answer (data : Key) (value : Int) :
    ((Statement.answer value).exec data).Ends data (some value) := ⟨by simp [exec], rfl⟩

theorem Code.ends_answerWhen {data : Key} {condition : Condition} {holds : Bool} {value : Int}
    {rest : Code} {answer otherwise : Option Int} (decides : condition.Decides data holds)
    (hit : holds = true → answer = some value)
    (miss : holds = false → (rest.exec data none).Ends data (answer.or otherwise)) :
    ((Code.cons (.choose condition (.cons (.answer value) .done) .done) rest).exec data none).Ends
      data (answer.or otherwise) := by
  rw [Code.exec]
  cases holds with
  | true =>
      rw [hit rfl]
      exact Run.ends_andThen_answer _
        (Statement.ends_choose decides (Code.ends_single (Statement.ends_answer data value)))
  | false =>
      exact Run.ends_andThen (Statement.ends_choose decides (Code.ends_done data)) (miss rfl)

end Palette.Target
