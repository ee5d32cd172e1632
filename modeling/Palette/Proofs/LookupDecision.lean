import Palette.Matcher.Lookup
import Palette.Proofs.TrieMap

/-!
Lowering keeps the map. Run on a byte string, the decision of a well-formed trie answers what the
trie holds for it, and reads no byte that is not there: a node asks for its shortest key before it
looks at bytes, and `known` never exceeds the length that enclosing checks have established.
-/

namespace Palette.Matcher

open KeyTrie

def Test.InBounds (data : Key) : Test → Prop
  | .sizeIs _ => True
  | .byteIs position _ => position < data.length
  | .rangeIs position bytes => position + bytes.length ≤ data.length

def testsInBounds (data : Key) : List Test → Prop
  | [] => True
  | test :: rest => test.InBounds data ∧ (test.holds data = true → testsInBounds data rest)

mutual

/-- No read on the way of a run over `data` lies outside of it, and the run does not get stuck. -/
def Decision.InBounds (data : Key) : Decision → Prop
  | .done => True
  | .stuck _ => False
  | .whenSize least body => least ≤ data.length → body.InBounds data
  | .whenRange position bytes body =>
      (Test.rangeIs position bytes).InBounds data ∧
        ((Test.rangeIs position bytes).holds data = true → body.InBounds data)
  | .answerWhen tests _ next =>
      testsInBounds data tests ∧ (tests.all (Test.holds data) = false → next.InBounds data)
  | .switch position cases =>
      position < data.length ∧ cases.InBounds data data[position]?

def Cases.InBounds (data : Key) (byte : Option UInt8) : Cases → Prop
  | .done => True
  | .stuck _ => False
  | .case label body next =>
      (byte = some label → body.InBounds data) ∧ (byte ≠ some label → next.InBounds data byte)

end

def Cases.bytes : Cases → List UInt8
  | .done | .stuck _ => []
  | .case byte _ next => byte :: next.bytes

mutual

/-- A decision that can be written down: it is nowhere stuck, no statement is left without a body,
and the cases of a switch are different. -/
def Decision.Proper : Decision → Prop
  | .done => True
  | .stuck _ => False
  | .whenSize least body => 0 ≤ least ∧ body ≠ .done ∧ body.Proper
  | .whenRange _ _ body => body ≠ .done ∧ body.Proper
  | .answerWhen tests _ next => tests ≠ [] ∧ next.Proper
  | .switch _ cases => cases ≠ .done ∧ cases.Proper

def Cases.Proper : Cases → Prop
  | .done => True
  | .stuck _ => False
  | .case byte body next => body ≠ .done ∧ body.Proper ∧ byte ∉ next.bytes ∧ next.Proper

end

/-- A run over `data` stays inside of it and ends in `answer`. -/
def Decision.Finds (data : Key) (answer : Option Int) (decision : Decision) : Prop :=
  decision.InBounds data ∧ decision.run data = answer

def Cases.Finds (data : Key) (byte : Option UInt8) (answer : Option Int) (cases : Cases) : Prop :=
  cases.InBounds data byte ∧ cases.run data byte = answer

/-! ### What remains of a key -/

theorem suffixTests_long (position : Nat) (b c : UInt8) (more : Key) :
    suffixTests position (b :: c :: more) = [.rangeIs position (b :: c :: more)] := rfl

theorem range_holds (path bytes rest : Key) :
    (Test.rangeIs path.length bytes).holds (path ++ rest) = true ↔
      ∃ below, rest = bytes ++ below := by
  simp only [Test.holds, List.drop_left, decide_eq_true_eq]
  constructor
  · intro same
    exact ⟨rest.drop bytes.length, by
      conv_lhs => rw [← List.take_append_drop bytes.length rest, same]⟩
  · rintro ⟨below, rfl⟩
    simp

theorem leaf_tests_hold (path suffix rest : Key) :
    (Test.sizeIs (path ++ suffix).length :: suffixTests path.length suffix).all
      (Test.holds (path ++ rest)) = true ↔ rest = suffix := by
  have size : (Test.sizeIs (path ++ suffix).length).holds (path ++ rest) = true ↔
      rest.length = suffix.length := by
    simp [Test.holds]
  rw [List.all_cons, Bool.and_eq_true, size]
  constructor
  · rintro ⟨sameLength, tests⟩
    match suffix with
    | [] => exact List.length_eq_zero_iff.mp sameLength
    | [b] =>
        obtain ⟨c, rfl⟩ := List.length_eq_one_iff.mp sameLength
        simpa [suffixTests, Test.holds] using tests
    | b :: c :: more =>
        rw [suffixTests_long, List.all_cons, Bool.and_eq_true, range_holds] at tests
        obtain ⟨⟨below, rfl⟩, _⟩ := tests
        have nothing : below = [] := by
          rw [List.length_append] at sameLength
          exact List.length_eq_zero_iff.mp (by omega)
        rw [nothing, List.append_nil]
  · rintro rfl
    refine ⟨rfl, ?_⟩
    match rest with
    | [] => rfl
    | [b] => simp [suffixTests, Test.holds]
    | b :: c :: more =>
        rw [suffixTests_long, List.all_cons, Bool.and_eq_true, range_holds]
        exact ⟨⟨[], by simp⟩, rfl⟩

/-- The length is compared first, so the bytes of a leaf are only read when they are all there. -/
theorem leaf_tests_inBounds (path suffix : Key) (data : Key) :
    testsInBounds data (.sizeIs (path ++ suffix).length :: suffixTests path.length suffix) := by
  refine ⟨trivial, fun size => ?_⟩
  have length : data.length = path.length + suffix.length := by
    simpa [Test.holds] using size
  match suffix with
  | [] => trivial
  | [b] => exact ⟨by rw [Test.InBounds, length]; simp, fun _ => trivial⟩
  | b :: c :: more => exact ⟨Nat.le_of_eq length.symm, fun _ => trivial⟩

/-! ### One statement at a time -/

section Finds

variable {data : Key} {answer : Option Int}

theorem Decision.finds_whenSize {least : Int} {body : Decision} :
    (Decision.whenSize least body).Finds data answer ↔
      (least ≤ data.length → body.Finds data answer) ∧ (¬ least ≤ data.length → answer = none) := by
  rw [Decision.Finds, Decision.InBounds, Decision.run]
  by_cases long : least ≤ data.length
  · simp [long, Decision.Finds]
  · simp [long, eq_comm]

theorem Decision.finds_whenRange {position : Nat} {bytes : Key} {body : Decision} :
    (Decision.whenRange position bytes body).Finds data answer ↔
      (Test.rangeIs position bytes).InBounds data ∧
        ((Test.rangeIs position bytes).holds data = true → body.Finds data answer) ∧
        ((Test.rangeIs position bytes).holds data = false → answer = none) := by
  rw [Decision.Finds, Decision.InBounds, Decision.run]
  cases (Test.rangeIs position bytes).holds data with
  | true => simp [Decision.Finds, and_assoc]
  | false => simp [eq_comm]

theorem Decision.finds_answerWhen {tests : List Test} {value : Int} {next : Decision} :
    (Decision.answerWhen tests value next).Finds data answer ↔
      testsInBounds data tests ∧ (tests.all (Test.holds data) = true → answer = some value) ∧
        (tests.all (Test.holds data) = false → next.Finds data answer) := by
  rw [Decision.Finds, Decision.InBounds, Decision.run]
  cases tests.all (Test.holds data) with
  | true => simp [eq_comm]
  | false => simp [Decision.Finds, and_assoc]

theorem Decision.finds_switch {position : Nat} {cases : Cases} :
    (Decision.switch position cases).Finds data answer ↔
      position < data.length ∧ cases.Finds data data[position]? answer := by
  rw [Decision.Finds, Decision.InBounds, Decision.run, Cases.Finds, and_assoc]

theorem Cases.finds_case {byte : Option UInt8} {label : UInt8} {body : Decision} {next : Cases} :
    (Cases.case label body next).Finds data byte answer ↔
      (byte = some label → body.Finds data answer) ∧
        (byte ≠ some label → next.Finds data byte answer) := by
  rw [Cases.Finds, Cases.InBounds, Cases.run]
  by_cases here : byte = some label
  · simp [here, Decision.Finds]
  · simp [here, Cases.Finds]

end Finds

/-- A length check may be left out where it is known to succeed. -/
theorem Decision.guarded_finds (data : Key) (known least : Int) (answer : Option Int)
    (body : Decision) (enough : known ≤ data.length)
    (short : ¬ least ≤ data.length → answer = none)
    (inner : least ≤ data.length → body.Finds data answer) :
    (Decision.guarded known least body).Finds data answer := by
  by_cases needed : least > known
  · rw [Decision.guarded, if_pos needed]
    exact Decision.finds_whenSize.mpr ⟨inner, short⟩
  · rw [Decision.guarded, if_neg needed]
    exact inner (by omega)

theorem Decision.guarded_proper (known least : Int) (body : Decision) (natural : 0 ≤ known)
    (proper : body ≠ .done ∧ body.Proper) :
    Decision.guarded known least body ≠ .done ∧ (Decision.guarded known least body).Proper := by
  by_cases needed : least > known
  · rw [Decision.guarded, if_pos needed]
    exact ⟨by simp, by omega, proper⟩
  · rw [Decision.guarded, if_neg needed]
    exact proper

/-! ### Lowering -/

theorem byte_of_label (c : UInt8) :
    ((0 : Int) ≤ c.toNat ∧ (c.toNat : Int) ≤ 255) ∧ UInt8.ofNat (c.toNat : Int).toNat = c := by
  have bound := c.toNat_lt
  exact ⟨by omega, by simp⟩

theorem inline_test_holds (path rest : Key) :
    [Test.sizeIs path.length].all (Test.holds (path ++ rest)) = true ↔ rest = [] := by
  simp [Test.holds]

mutual

theorem lower_finds (path rest : Key) (tree : Node Int) (shape : tree.WellFormed path) (known : Int)
    (enough : known ≤ ((path ++ rest).length : Int)) :
    (lower path.length known tree).Finds (path ++ rest) (tree.get? rest) := by
  have short : ¬ tree.minSize ≤ ((path ++ rest).length : Int) → tree.get? rest = none := by
    intro shorter
    by_contra found
    exact shorter (Node.minSize_le_of_get? path rest tree shape found)
  cases tree with
  | hole | empty => exact False.elim shape
  | leaf suffix stored value =>
      obtain rfl : stored = path ++ suffix := shape
      rw [lower]
      refine Decision.guarded_finds _ known _ _ _ enough short (fun _ => ?_)
      refine Decision.finds_answerWhen.mpr ⟨leaf_tests_inBounds path suffix _, ?_, ?_⟩
      · intro hit
        rw [Node.get?, if_pos ((leaf_tests_hold path suffix rest).mp hit)]
      · intro miss
        refine ⟨trivial, ?_⟩
        have differ : rest ≠ suffix := by
          intro same
          rw [(leaf_tests_hold path suffix rest).mpr same] at miss
          exact Bool.noConfusion miss
        rw [Node.get?, if_neg differ]
        rfl
  | inline stored value below =>
      obtain ⟨rfl, goesOn, inner⟩ := shape
      rw [lower]
      refine Decision.guarded_finds _ known _ _ _ enough short (fun long => ?_)
      refine Decision.finds_answerWhen.mpr ⟨⟨trivial, fun _ => trivial⟩, ?_, ?_⟩
      · intro hit
        rw [(inline_test_holds stored rest).mp hit]
        rfl
      · intro miss
        have more : rest ≠ [] := by
          intro same
          rw [(inline_test_holds stored rest).mpr same] at miss
          exact Bool.noConfusion miss
        rw [Node.get?_inline, Function.update_of_ne more]
        exact lower_finds stored rest below inner _ (by omega)
  | run stem minSize below =>
      obtain ⟨nonempty, noted, parts, inner⟩ := shape
      have deeper := Node.path_le_minSize (path ++ stem) below inner
      rw [lower, if_neg (by simpa using nonempty)]
      refine Decision.guarded_finds _ known _ _ _ enough short (fun long => ?_)
      rw [Node.get?_run]
      refine Decision.finds_whenRange.mpr ⟨?_, fun holds => ?_, fun fails => ?_⟩
      · rw [List.length_append] at deeper
        rw [Test.InBounds]
        omega
      · obtain ⟨deep, rfl⟩ := (range_holds path stem rest).mp holds
        rw [under_apply_append, ← List.append_assoc, ← List.length_append]
        exact lower_finds (path ++ stem) deep below inner _ (by
          rw [List.append_assoc]
          omega)
      · refine under_apply_outside stem rest below.get? (fun deep same => ?_)
        rw [(range_holds path stem rest).mpr ⟨deep, same⟩] at fails
        exact Bool.noConfusion fails
  | fanout minSize edges =>
      obtain ⟨several, least, inner⟩ := shape
      have beyond := Edges.path_lt_sizes path edges inner minSize (List.min?_mem least)
      cases edges with
      | nil => simp [Edges.labels] at several
      | cons label child others =>
          rw [lower]
          refine Decision.guarded_finds _ known _ _ _ enough short (fun long => ?_)
          rw [Node.minSize_fanout] at short
          cases rest with
          | nil =>
              rw [List.append_nil] at long
              omega
          | cons b below =>
              have step := lowerEdges_finds path below b (.cons label child others) inner
                (max known minSize) (by omega)
              refine Decision.finds_switch.mpr ⟨by simp, ?_⟩
              rw [List.getElem?_append_right (Nat.le_refl _), Nat.sub_self, List.getElem?_cons_zero]
              exact step

theorem lowerEdges_finds (path rest : Key) (b : UInt8) (edges : Edges Int)
    (shape : edges.WellFormed path) (known : Int)
    (enough : known ≤ ((path ++ b :: rest).length : Int)) :
    (lowerEdges (path.length + 1) known edges).Finds (path ++ b :: rest) (some b)
      (edges.get? b rest) := by
  cases edges with
  | nil =>
      rw [lowerEdges]
      exact ⟨trivial, rfl⟩
  | cons label child others =>
      obtain ⟨⟨c, rfl, inner⟩, _, outer⟩ := shape
      have later := lowerEdges_finds path rest b others outer known enough
      rw [lowerEdges, if_pos (byte_of_label c).1, (byte_of_label c).2]
      by_cases here : b = c
      · subst here
        have step := lower_finds (path ++ [b]) rest child inner known (by simpa using enough)
        rw [List.length_append, List.length_singleton, List.append_assoc,
          List.singleton_append] at step
        rw [Edges.get?, if_pos rfl]
        exact Cases.finds_case.mpr ⟨fun _ => step, fun other => absurd rfl other⟩
      · have skip : (some b : Option UInt8) ≠ some c := by simpa using here
        rw [Edges.get?, if_neg (byte_label_ne (Ne.symm here))]
        exact Cases.finds_case.mpr ⟨fun same => absurd same skip, fun _ => later⟩

end

theorem mem_bytes_lowerEdges (path : Key) (position : Nat) (known : Int) (edges : Edges Int)
    (shape : edges.WellFormed path) (b : UInt8)
    (member : b ∈ (lowerEdges position known edges).bytes) : (b.toNat : Int) ∈ edges.labels := by
  cases edges with
  | nil => simp [lowerEdges, Cases.bytes] at member
  | cons label child others =>
      obtain ⟨⟨c, rfl, _⟩, _, outer⟩ := shape
      rw [lowerEdges, if_pos (byte_of_label c).1, (byte_of_label c).2, Cases.bytes] at member
      rw [Edges.labels, List.mem_cons]
      rcases List.mem_cons.mp member with rfl | later
      · exact .inl rfl
      · exact .inr (mem_bytes_lowerEdges path position known others outer b later)

mutual

theorem lower_proper (path : Key) (position : Nat) (tree : Node Int) (shape : tree.WellFormed path)
    (known : Int) (natural : 0 ≤ known) :
    lower position known tree ≠ .done ∧ (lower position known tree).Proper := by
  cases tree with
  | hole | empty => exact False.elim shape
  | leaf suffix stored value =>
      rw [lower]
      exact Decision.guarded_proper _ _ _ natural ⟨by simp, by simp, trivial⟩
  | inline stored value below =>
      obtain ⟨_, _, inner⟩ := shape
      rw [lower]
      exact Decision.guarded_proper _ _ _ natural ⟨by simp, by simp,
        (lower_proper path position below inner _ (by omega)).2⟩
  | run stem minSize below =>
      obtain ⟨nonempty, _, _, inner⟩ := shape
      rw [lower, if_neg (by simpa using nonempty)]
      exact Decision.guarded_proper _ _ _ natural ⟨by simp,
        lower_proper (path ++ stem) (position + stem.length) below inner _ (by omega)⟩
  | fanout minSize edges =>
      obtain ⟨several, _, inner⟩ := shape
      cases edges with
      | nil => simp [Edges.labels] at several
      | cons label child others =>
          have proper := lowerEdges_proper path (position + 1) (.cons label child others) inner
            (max known minSize) (by omega)
          obtain ⟨⟨c, rfl, _⟩, _, _⟩ := inner
          rw [lower]
          refine Decision.guarded_proper _ _ _ natural ⟨by simp, ?_, proper⟩
          rw [lowerEdges, if_pos (byte_of_label c).1]
          simp

theorem lowerEdges_proper (path : Key) (position : Nat) (edges : Edges Int)
    (shape : edges.WellFormed path) (known : Int) (natural : 0 ≤ known) :
    (lowerEdges position known edges).Proper := by
  cases edges with
  | nil => rw [lowerEdges]; trivial
  | cons label child others =>
      obtain ⟨⟨c, rfl, inner⟩, ascending, outer⟩ := shape
      rw [lowerEdges, if_pos (byte_of_label c).1, (byte_of_label c).2]
      obtain ⟨some, proper⟩ := lower_proper (path ++ [c]) position child inner known natural
      refine ⟨some, proper, ?_, lowerEdges_proper path position others outer known natural⟩
      intro again
      have above := ascending _ (mem_bytes_lowerEdges path position known others outer c again)
      omega

end

/-- The decision of a trie built from pairs finds the last value of each key. -/
theorem ofTrie_finds (pairs : List (Key × Int)) (query : Key) :
    (Decision.ofTrie (Node.ofList pairs)).Finds query (lastValue pairs query) := by
  rw [← Node.get?_ofList]
  rcases Node.root_ofList pairs with same | shape
  · rw [same, Decision.ofTrie, lower]
    exact ⟨trivial, rfl⟩
  · exact lower_finds [] query _ shape 0 (by omega)

theorem ofTrie_proper (pairs : List (Key × Int)) :
    (Decision.ofTrie (Node.ofList pairs)).Proper := by
  rcases Node.root_ofList pairs with same | shape
  · rw [same, Decision.ofTrie, lower]
    trivial
  · exact (lower_proper [] 0 _ shape 0 (by omega)).2

end Palette.Matcher
