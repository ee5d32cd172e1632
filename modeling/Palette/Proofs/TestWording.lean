import Palette.Proofs.LookupDecision
import Palette.Proofs.TargetGrammar

/-!
Tests as conditions of a target language. A wording says for one test which tokens it is written as
and which condition those are; what it carries about a single test extends to conjunctions, and from
there to the conditional statements of a decision.
-/

namespace Palette.Target

open KeyTrie Matcher

structure TestWording (L : Lexicon) (d : Dialect) where
  conjunct : Token
  tokens : Test → List Token
  condition : Test → Condition
  comparison : Parse Condition
  separator : ∃ chars, d.conjunction.toList = ' ' :: chars ∧ L.Cuts (' ' :: chars) [conjunct]
  reads : ∀ test, L.Reads (d.test test).toList (tokens test)
  parsed : ∀ test rest, comparison (tokens test ++ rest) = some (condition test, rest)
  decides : ∀ data test, test.InBounds data → (condition test).Decides data (test.holds data)

namespace TestWording

variable {L : Lexicon} {d : Dialect} (w : TestWording L d)

def allTokens : List Test → List Token
  | [] => []
  | [test] => w.tokens test
  | first :: next :: rest => w.tokens first ++ w.conjunct :: allTokens (next :: rest)

def allConditions : List Test → Condition
  | [] => .sizeAtLeast 0
  | [test] => w.condition test
  | first :: next :: rest => .both (w.condition first) (allConditions (next :: rest))

theorem reads_all (tests : List Test) (nonempty : tests ≠ []) :
    L.Reads (d.tests tests).toList (w.allTokens tests) := by
  obtain ⟨first, rest, rfl⟩ := List.exists_cons_of_ne_nil nonempty
  clear nonempty
  induction rest generalizing first with
  | nil => simpa [Dialect.tests, allTokens] using w.reads first
  | cons next rest ih =>
      obtain ⟨chars, written, cuts⟩ := w.separator
      have text : (d.tests (first :: next :: rest)).toList =
          (d.test first).toList ++ ' ' :: chars ++ (d.tests (next :: rest)).toList := by
        rw [Dialect.tests, List.map_cons, List.map_cons, String.intercalate_cons_cons,
          String.toList_append, String.toList_append, written]
        rfl
      have piece := ((w.reads first).append_cuts cuts ⟨' ', chars, rfl, rfl⟩).append_reads (ih next)
      rw [List.append_assoc (w.tokens first)] at piece
      rw [text]
      exact piece

theorem length_le_allTokens (tests : List Test) :
    tests.length ≤ (w.allTokens tests).length + 1 := by
  match tests with
  | [] | [_] => simp
  | first :: next :: rest =>
      have shorter := length_le_allTokens (next :: rest)
      rw [List.length_cons] at shorter ⊢
      simp only [allTokens, List.length_append, List.length_cons]
      omega

theorem conjunction_allTokens (tests : List Test) (nonempty : tests ≠ []) (fuel : Nat)
    (more : List Token) (enough : tests.length ≤ fuel + 1)
    (stop : ∀ token ∈ more.head?, token ≠ w.conjunct) :
    conjunction w.comparison w.conjunct fuel (w.allTokens tests ++ more) =
      some (w.allConditions tests, more) := by
  obtain ⟨first, rest, rfl⟩ := List.exists_cons_of_ne_nil nonempty
  clear nonempty
  induction rest generalizing first fuel with
  | nil =>
      cases fuel with
      | zero => exact w.parsed first more
      | succ fuel =>
          rw [conjunction, allTokens, w.parsed]
          cases more with
          | nil => rfl
          | cons token more => simp only [if_neg (stop token rfl), allConditions]
  | cons next rest ih =>
      obtain ⟨fuel, rfl⟩ : ∃ less, fuel = less + 1 := ⟨fuel - 1, by simp at enough; omega⟩
      have later := ih fuel next (by simpa using enough)
      rw [conjunction, allTokens, List.append_assoc, w.parsed]
      simp only [List.cons_append, later, if_true, Option.map_some, allConditions]

theorem conjunction_eq (tests : List Test) (nonempty : tests ≠ []) (more : List Token)
    (stop : ∀ token ∈ more.head?, token ≠ w.conjunct) :
    conjunction w.comparison w.conjunct (w.allTokens tests ++ more).length
      (w.allTokens tests ++ more) = some (w.allConditions tests, more) := by
  have enough := w.length_le_allTokens tests
  apply w.conjunction_allTokens tests nonempty _ more _ stop
  rw [List.length_append]
  omega

theorem decides_all (data : Key) (tests : List Test) (nonempty : tests ≠ [])
    (bounds : testsInBounds data tests) :
    (w.allConditions tests).Decides data (tests.all (Test.holds data)) := by
  obtain ⟨first, rest, rfl⟩ := List.exists_cons_of_ne_nil nonempty
  clear nonempty
  induction rest generalizing first with
  | nil => simpa [allConditions] using w.decides data first bounds.1
  | cons next rest ih =>
      have left := w.decides data first bounds.1
      rw [allConditions, List.all_cons]
      cases holds : first.holds data with
      | true =>
          rw [holds] at left
          exact Condition.decides_both left (ih next (bounds.2 holds))
      | false =>
          rw [holds] at left
          exact Condition.decides_both_false _ left

end TestWording

/-! ### Conditional statements of a decision

Each is run in front of `after`. How the statements under the condition are written differs between
the languages, so they are only known to answer what the body of the decision finds. -/

section Conditional

variable {data : Key} {answer otherwise : Option Int} {body : Decision} {yes after : Code}

theorem Code.ends_whenSize {least : Int} (finds : (Decision.whenSize least body).Finds data answer)
    (inner : body.Finds data answer → (yes.exec data none).Ends data answer)
    (others : (after.exec data none).Ends data otherwise) :
    ((Code.cons (.choose (.sizeAtLeast least.toNat) yes .done) after).exec data none).Ends data
      (answer.or otherwise) := by
  obtain ⟨long, short⟩ := Decision.finds_whenSize.mp finds
  have enough : least.toNat ≤ data.length ↔ least ≤ data.length := Int.toNat_le
  refine Code.ends_cons (Statement.ends_when (Condition.decides_sizeAtLeast data _) ?_ ?_) others
  · intro holds
    exact inner (long (enough.mp (of_decide_eq_true holds)))
  · intro fails
    exact short (fun holds => of_decide_eq_false fails (enough.mpr holds))

variable {L : Lexicon} {d : Dialect} (w : TestWording L d)

theorem TestWording.ends_whenRange {position : Nat} {bytes : Key}
    (finds : (Decision.whenRange position bytes body).Finds data answer)
    (inner : body.Finds data answer → (yes.exec data none).Ends data answer)
    (others : (after.exec data none).Ends data otherwise) :
    ((Code.cons (.choose (w.condition (.rangeIs position bytes)) yes .done) after).exec data
      none).Ends data (answer.or otherwise) := by
  obtain ⟨bounds, inside, outside⟩ := Decision.finds_whenRange.mp finds
  have decides := w.decides data (.rangeIs position bytes) bounds
  have ends := Statement.ends_when decides (fun holds => inner (inside holds)) outside
  exact Code.ends_cons ends others

theorem TestWording.ends_answerWhen {tests : List Test} {value : Int} {next : Decision}
    (nonempty : tests ≠ []) (finds : (Decision.answerWhen tests value next).Finds data answer)
    (later : next.Finds data answer → (after.exec data none).Ends data (answer.or otherwise)) :
    ((Code.cons (.choose (w.allConditions tests) (.cons (.answer value) .done) .done) after).exec
      data none).Ends data (answer.or otherwise) := by
  obtain ⟨bounds, hit, miss⟩ := Decision.finds_answerWhen.mp finds
  have decides := w.decides_all data tests nonempty bounds
  exact Code.ends_answerWhen decides hit (fun fails => later (miss fails))

end Conditional

end Palette.Target
