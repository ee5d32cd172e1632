import Palette.Proofs.CppLookup
import Palette.Proofs.PythonLookup

/-!
Printed lookup functions. The text of the function for a trie is read in its own language and run on
a byte string: it answers the last value of that key and reads nothing outside the byte string.
-/

namespace Palette.Target

open KeyTrie Matcher

inductive Language where
  | cpp
  | python
  deriving DecidableEq, Repr

namespace Language

def dialect : Language → Dialect
  | .cpp => .cpp
  | .python => .python

/-- The body of the function that a text of the language consists of. -/
def read : Language → String → Option Code
  | .cpp => Cpp.read
  | .python => Python.read

/-- Calls the function of a text with a byte string and its length. -/
def call (language : Language) (text : String) (data : Key) : Option Run :=
  (language.read text).map (Code.run data)

end Language

theorem call_function (language : Language) (unit : String) (nonempty : unit ≠ "")
    (blank : ∀ c ∈ unit.toList, c = ' ' ∨ c = '\t') (pairs : List (Key × Int)) : ∃ text,
      Printer.render unit (language.dialect.function (Node.ofList pairs)) = (text, .ok ()) ∧
        ∀ data, ∃ run, language.call text data = some run ∧
          run.Ends data (some ((lastValue pairs data).getD notFound)) := by
  have proper := ofTrie_proper pairs
  have blanks : ∀ c ∈ unit.toList, isBlank c = true := by simpa [isBlank] using blank
  have chars : unit.toList ≠ [] := by simpa using nonempty
  cases language with
  | cpp =>
      have written := Cpp.written_function (Node.ofList pairs) proper
      refine ⟨_, written.render unit, fun data => ⟨_, ?_, Cpp.functionCode_ends _ proper data
        (ofTrie_finds pairs data)⟩⟩
      rw [Language.call, Language.read, Cpp.read_function _ proper unit written.readable blanks]
      rfl
  | python =>
      have written := Python.written_function (Node.ofList pairs) proper
      refine ⟨_, written.render unit, fun data => ⟨_, ?_, Python.functionCode_ends _ proper data
        (ofTrie_finds pairs data)⟩⟩
      rw [Language.call, Language.read,
        Python.read_function _ proper unit written.readable chars blanks]
      rfl

/-- The printed function answers the last value of a key, and `-1` for a byte string that is no
key. -/
theorem call_answers_lastValue (language : Language) (unit : String) (nonempty : unit ≠ "")
    (blank : ∀ c ∈ unit.toList, c = ' ' ∨ c = '\t') (pairs : List (Key × Int)) (query : Key) :
    ∃ text run,
      Printer.render unit (language.dialect.function (Node.ofList pairs)) = (text, .ok ()) ∧
      language.call text query = some run ∧
      run.answer? = some ((lastValue pairs query).getD (-1)) := by
  obtain ⟨text, printed, calls⟩ := call_function language unit nonempty blank pairs
  obtain ⟨run, called, _, flow⟩ := calls query
  refine ⟨text, run, printed, called, ?_⟩
  rw [Run.answer?, flow]
  rfl

theorem call_answers_lastValue_overwritten : ∃ text run,
    Printer.render "\t" (Dialect.cpp.function
      (Node.ofList [([0x61], 1), ([0x61, 0x62], 2), ([0x61], 3)])) = (text, .ok ()) ∧
      Language.cpp.call text [0x61] = some run ∧ run.answer? = some 3 :=
  call_answers_lastValue .cpp "\t" (by decide) (by simp)
    [([0x61], 1), ([0x61, 0x62], 2), ([0x61], 3)] [0x61]

/-- Every read of the printed function lies inside the byte string it is called with. -/
theorem call_reads_within (language : Language) (unit : String) (nonempty : unit ≠ "")
    (blank : ∀ c ∈ unit.toList, c = ' ' ∨ c = '\t') (pairs : List (Key × Int)) (query : Key) :
    ∃ text run,
      Printer.render unit (language.dialect.function (Node.ofList pairs)) = (text, .ok ()) ∧
      language.call text query = some run ∧
      ∀ access ∈ run.accesses, access.start + access.count ≤ query.length := by
  obtain ⟨text, printed, calls⟩ := call_function language unit nonempty blank pairs
  obtain ⟨run, called, within, _⟩ := calls query
  exact ⟨text, run, printed, called, within⟩

theorem call_reads_within_short : ∃ text run,
    Printer.render "  " (Dialect.python.function
      (Node.ofList [([0x61, 0x62, 0x63], 1), ([0x61, 0x62], 2)])) = (text, .ok ()) ∧
      Language.python.call text [0x61] = some run ∧
      ∀ access ∈ run.accesses, access.start + access.count ≤ 1 :=
  call_reads_within .python "  " (by decide) (by simp)
    [([0x61, 0x62, 0x63], 1), ([0x61, 0x62], 2)] [0x61]

end Palette.Target
