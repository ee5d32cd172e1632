import Palette.Matcher.Languages
import Palette.Proofs.StructText
import Palette.Proofs.TrieNodes

/-!
Trees that have no lookup function. The text of a decision is written up to the place where the
decision is stuck, so whether writing fails, and with which fault, is settled before any dialect is
chosen: it is the first fault of the tree, in the order in which its nodes are written. The faults
of a tree are those of its single nodes, and insertion makes no node that has one.
-/

namespace Palette.Matcher

open KeyTrie Printer Output

/-! ### Programs that write whole lines -/

/-- Writes whole lines and gives the depth back, or ends with the fault, if there is one. -/
def WritesUpTo (program : Program Fault) : Option Fault → Prop
  | none => ∃ rows : Nat → List (Nat × String),
      Prints program fun unit depth => rowsText id unit (rows depth)
  | some fault => Fails program (.raised fault)

namespace WritesUpTo

variable {program others : Program Fault} {fault? behind? : Option Fault}

theorem printable (writes : WritesUpTo program none) : Printable program := by
  obtain ⟨rows, prints⟩ := writes
  exact ⟨_, prints⟩

theorem nil : WritesUpTo [] none := ⟨fun _ => [], prints_nil⟩

theorem lines (texts : List String) : WritesUpTo (texts.map .line) none := by
  refine ⟨fun depth => texts.map fun text => (depth, text), (prints_map_line texts).of_eq ?_⟩
  intro unit depth
  simp [rowsText, Function.comp_def]

theorem append (first : WritesUpTo program fault?) (second : WritesUpTo others behind?) :
    WritesUpTo (program ++ others) (fault?.or behind?) := by
  cases fault? with
  | some fault => exact Fails.append first others
  | none =>
      cases behind? with
      | some fault => exact first.printable.append_fails second
      | none =>
          obtain ⟨rows, left⟩ := first
          obtain ⟨more, right⟩ := second
          refine ⟨fun depth => rows depth ++ more depth, (left.append right).of_eq ?_⟩
          intro unit depth
          rw [rowsText_append]

theorem indented (inside : WritesUpTo program fault?) :
    WritesUpTo ([.indent] ++ program ++ [.dedent]) fault? := by
  cases fault? with
  | some fault => exact Fails.indented inside
  | none =>
      obtain ⟨rows, prints⟩ := inside
      exact ⟨fun depth => rows (depth + 1), prints.indented⟩

theorem nested (inside : WritesUpTo program fault?) (opening : String) (closing : List String) :
    WritesUpTo ([.line opening, .indent] ++ program ++ .dedent :: closing.map .line) fault? := by
  have whole := (lines [opening]).append (inside.indented.append (lines closing))
  simpa using whole

end WritesUpTo

/-! ### Written decisions -/

mutual

/-- Where a decision is stuck first, in the order in which it is written. -/
def Decision.fault? : Decision → Option Fault
  | .done => none
  | .stuck fault => some fault
  | .whenSize _ body | .whenRange _ _ body => body.fault?
  | .answerWhen _ _ next => next.fault?
  | .switch _ cases => cases.fault?

def Cases.fault? : Cases → Option Fault
  | .done => none
  | .stuck fault => some fault
  | .case _ body next => body.fault?.or next.fault?

end

@[simp]
theorem Decision.fault?_guarded (known least : Int) (body : Decision) :
    (Decision.guarded known least body).fault? = body.fault? := by
  unfold Decision.guarded
  split <;> rfl

/-- The dialect has a wording for all that a decision may need. -/
structure Dialect.Complete (d : Dialect) : Prop where
  cases : ∃ opening, d.caseOpening = some opening
  answers : ∀ condition value, WritesUpTo (d.answerWhen condition value) none

mutual

theorem Decision.writes (d : Dialect) (complete : d.Complete) (decision : Decision) :
    WritesUpTo (decision.print d) decision.fault? := by
  cases decision with
  | done => exact .nil
  | stuck fault => exact fails_fail fault []
  | whenSize least body => exact (Decision.writes d complete body).nested _ _
  | whenRange position bytes body => exact (Decision.writes d complete body).nested _ _
  | answerWhen tests value next =>
      exact (complete.answers _ _).append (Decision.writes d complete next)
  | switch position cases =>
      exact (WritesUpTo.lines _).append (Cases.writes d complete position 0 cases)

theorem Cases.writes (d : Dialect) (complete : d.Complete) (position index : Nat) (cases : Cases) :
    WritesUpTo (cases.print d position index) cases.fault? := by
  cases cases with
  | done => exact .lines _
  | stuck fault => exact fails_fail fault []
  | case byte body next =>
      obtain ⟨opening, found⟩ := complete.cases
      rw [Cases.print, found]
      have here := (Decision.writes d complete body).nested (opening position byte index)
        d.caseClosing
      exact here.append (Cases.writes d complete position (index + 1) next)

end

theorem Dialect.complete_cpp : Dialect.cpp.Complete where
  cases := ⟨_, rfl⟩
  answers condition value := .lines [s!"if ({condition}) return {value};"]

theorem Dialect.complete_python : Dialect.python.Complete where
  cases := ⟨_, rfl⟩
  answers condition value :=
    (WritesUpTo.lines [s!"return {value}"]).nested s!"if {condition}:" []

theorem Dialect.complete_of_ofName? {name : String} {d : Dialect}
    (found : Dialect.ofName? name = some d) : d.Complete := by
  rw [Dialect.ofName?, Dialect.languages, List.lookup_cons, List.lookup_cons,
    List.lookup_nil] at found
  split at found
  · obtain rfl := Option.some.inj found
    exact Dialect.complete_cpp
  · split at found
    · obtain rfl := Option.some.inj found
      exact Dialect.complete_python
    · cases found

/-! ### The faults of a tree -/

section Faults

variable {α : Type}

mutual

def faults : Node α → List Fault
  | .hole => [.hole]
  | .empty | .leaf _ _ _ => []
  | .inline _ _ rest => faults rest
  | .run stem _ rest => (if stem.isEmpty then [.emptyRun] else []) ++ faults rest
  | .fanout _ edges => (if edges.labels.isEmpty then [.noBranches] else []) ++ edgeFaults edges

def edgeFaults : Edges α → List Fault
  | .nil => []
  | .cons label child rest =>
      (if 0 ≤ label ∧ label ≤ 255 then [] else [.badByte label]) ++ faults child ++ edgeFaults rest

end

/-- What is wrong with a node by itself, whatever is below it. -/
def Flaw (fault : Fault) : Node α → Prop
  | .hole => fault = .hole
  | .run stem _ _ => stem = [] ∧ fault = .emptyRun
  | .fanout _ edges =>
      edges = .nil ∧ fault = .noBranches ∨
        ∃ label ∈ edges.labels, ¬ (0 ≤ label ∧ label ≤ 255) ∧ fault = .badByte label
  | .empty | .leaf _ _ _ | .inline _ _ _ => False

mutual

theorem mem_faults_iff (path : Key) (tree : Node α) (fault : Fault) :
    fault ∈ faults tree ↔ ∃ place ∈ tree.places path, Flaw fault place.2 := by
  cases tree with
  | hole | empty | leaf => simp [faults, Node.places, Flaw]
  | inline key value rest =>
      simp [faults, Node.places, Flaw, mem_faults_iff path rest]
  | run stem minSize rest =>
      simp [faults, Node.places, Flaw, mem_faults_iff (path ++ stem) rest]
  | fanout minSize edges =>
      cases edges with
      | nil => simp [faults, edgeFaults, Edges.labels, Node.places, Edges.places, Flaw]
      | cons label child rest =>
          have same : faults (.fanout minSize (.cons label child rest)) =
              edgeFaults (.cons label child rest) := rfl
          rw [same, mem_edgeFaults_iff path (.cons label child rest), Node.places,
            List.exists_mem_cons_iff]
          simp only [Flaw, reduceCtorEq, false_and, false_or]

theorem mem_edgeFaults_iff (path : Key) (edges : Edges α) (fault : Fault) :
    fault ∈ edgeFaults edges ↔
      (∃ label ∈ edges.labels, ¬ (0 ≤ label ∧ label ≤ 255) ∧ fault = .badByte label) ∨
        ∃ place ∈ edges.places path, Flaw fault place.2 := by
  cases edges with
  | nil => simp [edgeFaults, Edges.labels, Edges.places]
  | cons label child rest =>
      have here : fault ∈ (if 0 ≤ label ∧ label ≤ 255 then [] else [.badByte label]) ↔
          ¬ (0 ≤ label ∧ label ≤ 255) ∧ fault = .badByte label := by
        split <;> simp [*]
      rw [edgeFaults, List.mem_append, List.mem_append, here,
        mem_faults_iff (path ++ [UInt8.ofNat label.toNat]) child, mem_edgeFaults_iff path rest,
        Edges.labels, Edges.places]
      simp only [List.mem_cons, List.mem_append, or_and_right, exists_or, exists_eq_left]
      exact or_or_or_comm

end

theorem not_flaw_of_wellFormed {path : Key} {tree : Node α}
    (shape : tree.WellFormed path) (fault : Fault) : ¬ Flaw fault tree := by
  have sound := shape.sound
  cases tree with
  | hole => exact fun _ => sound
  | empty | leaf | inline => exact id
  | run stem minSize rest =>
      intro flaw
      exact sound.1 flaw.1
  | fanout minSize edges =>
      rintro (⟨rfl, _⟩ | ⟨label, member, outside, _⟩)
      · simp [Node.Sound, Edges.labels] at sound
      · exact outside (sound.2.2 label member)

theorem unsupported_not_mem_faults (tree : Node α) : .unsupported ∉ faults tree := by
  intro member
  obtain ⟨place, _, flaw⟩ := (mem_faults_iff [] tree .unsupported).mp member
  cases node : place.2 <;> simp [node, Flaw] at flaw

theorem faults_ne_nil_iff (tree : Node α) :
    faults tree ≠ [] ↔ ∃ place ∈ tree.places [], ∃ fault, Flaw fault place.2 := by
  calc faults tree ≠ []
      ↔ ∃ fault, fault ∈ faults tree := by
        rw [Ne, List.eq_nil_iff_forall_not_mem, not_forall_not]
    _ ↔ ∃ fault, ∃ place ∈ tree.places [], Flaw fault place.2 := by
        simp only [mem_faults_iff []]
    _ ↔ ∃ place ∈ tree.places [], ∃ fault, Flaw fault place.2 := by
        simp only [exists_and_left, exists_comm]

theorem faults_ofList (pairs : List (Key × α)) : faults (Node.ofList pairs) = [] := by
  rcases Node.root_ofList pairs with empty | shape
  · rw [empty]
    rfl
  · apply List.eq_nil_iff_forall_not_mem.mpr
    intro fault member
    obtain ⟨place, listed, flaw⟩ := (mem_faults_iff [] _ fault).mp member
    exact not_flaw_of_wellFormed (Node.wellFormed_places [] _ shape place listed) fault flaw

end Faults

mutual

theorem fault?_lower (position : Nat) (known : Int) (tree : Node Int) :
    (lower position known tree).fault? = (faults tree).head? := by
  cases tree with
  | hole | empty | leaf => simp [lower, faults, Decision.fault?]
  | inline key value rest => simp [lower, faults, Decision.fault?, fault?_lower]
  | run stem minSize rest =>
      by_cases ends : stem.isEmpty
      · simp [lower, faults, Decision.fault?, ends]
      · simp [lower, faults, Decision.fault?, ends, fault?_lower]
  | fanout minSize edges =>
      cases edges with
      | nil => simp [lower, faults, Edges.labels, Decision.fault?]
      | cons label child rest =>
          simp [lower, faults, Edges.labels, Decision.fault?, fault?_lowerEdges]

theorem fault?_lowerEdges (position : Nat) (known : Int) (edges : Edges Int) :
    (lowerEdges position known edges).fault? = (edgeFaults edges).head? := by
  cases edges with
  | nil => rfl
  | cons label child rest =>
      by_cases byte : 0 ≤ label ∧ label ≤ 255
      · simp [lowerEdges, edgeFaults, Cases.fault?, byte, fault?_lower, fault?_lowerEdges]
      · simp [lowerEdges, edgeFaults, Cases.fault?, byte]

end

/-! ### Written trees -/

namespace Dialect

/-- Writing the lookup of a tree ends with a fault that is not the dialect's own. -/
def Rejects (d : Dialect) (tree : Node Int) (p : Printer) : Prop :=
  ∃ fault, fault ≠ .unsupported ∧ (runAll (d.body tree) p).2 = .error (.raised fault)

variable {d : Dialect}

theorem writes_ofTrie (complete : d.Complete) (tree : Node Int) :
    WritesUpTo ((Decision.ofTrie tree).print d) (faults tree).head? := by
  have writes := Decision.writes d complete (Decision.ofTrie tree)
  rwa [Decision.ofTrie, fault?_lower] at writes

theorem fails_body (complete : d.Complete) {tree : Node Int} {fault : Fault}
    (first : (faults tree).head? = some fault) : Fails (d.body tree) (.raised fault) := by
  have writes := writes_ofTrie complete tree
  rw [first] at writes
  exact Fails.append writes _

theorem prints_body (complete : d.Complete) {tree : Node Int} (faultless : faults tree = []) :
    ∃ rows : Nat → List (Nat × String), Prints (d.body tree) fun unit depth =>
      rowsText id unit (rows depth ++ [(depth, d.answer (toString notFound))]) := by
  have writes := writes_ofTrie complete tree
  rw [faultless] at writes
  obtain ⟨rows, prints⟩ := writes
  refine ⟨rows, (prints.append (prints_line _)).of_eq ?_⟩
  intro unit depth
  simp

theorem outcome_body_eq_raised_iff (complete : d.Complete) (tree : Node Int) (p : Printer)
    (fault : Fault) :
    (runAll (d.body tree) p).2 = .error (.raised fault) ↔ (faults tree).head? = some fault := by
  cases first : (faults tree).head? with
  | none =>
      obtain ⟨rows, prints⟩ := prints_body complete (List.head?_eq_none_iff.mp first)
      simp [prints p]
  | some met => simp [fails_body complete first p]

theorem rejects_iff (complete : d.Complete) (tree : Node Int) (p : Printer) :
    d.Rejects tree p ↔ faults tree ≠ [] := by
  simp only [Rejects, outcome_body_eq_raised_iff complete]
  cases all : faults tree with
  | nil => simp
  | cons fault rest =>
      have own : fault ≠ .unsupported := by
        intro same
        apply unsupported_not_mem_faults tree
        rw [all, same]
        exact List.mem_cons_self
      simp [own]

/-- A tree of whatever shape is rejected exactly if one of its nodes has a flaw, and then for a flaw
that one of them has; no trie has a node with a flaw. A tree that is not rejected is written in
whole lines, the last of which answers that nothing was found, and the depth is what it was. -/
theorem rejects_iff_flaw {name : String} (named : ofName? name = some d) :
    (∀ tree p, d.Rejects tree p ↔ ∃ place ∈ tree.places [], ∃ fault, Flaw fault place.2) ∧
    (∀ tree p fault, (runAll (d.body tree) p).2 = .error (.raised fault) →
      ∃ place ∈ tree.places [], Flaw fault place.2) ∧
    (∀ pairs : List (Key × Int), ∀ place ∈ (Node.ofList pairs).places [],
      ∀ fault, ¬ Flaw fault place.2) ∧
    ∀ tree p, ¬ d.Rejects tree p →
      (runAll (d.body tree) p).2 = .ok () ∧ (runAll (d.body tree) p).1.depth = p.depth ∧
      ∃ rows, (runAll (d.body tree) p).1.text =
        p.text ++ rowsText id p.unit (rows ++ [(p.depth, d.answer (toString notFound))]) := by
  have complete := complete_of_ofName? named
  refine ⟨?_, ?_, ?_, ?_⟩
  · intro tree p
    rw [rejects_iff complete, faults_ne_nil_iff]
  · intro tree p fault failed
    have first := (outcome_body_eq_raised_iff complete tree p fault).mp failed
    exact (mem_faults_iff [] tree fault).mp (List.mem_of_mem_head? first)
  · intro pairs place member fault flaw
    have faulty := (faults_ne_nil_iff _).mpr ⟨place, member, fault, flaw⟩
    exact faulty (faults_ofList pairs)
  · intro tree p accepted
    rw [rejects_iff complete, not_not] at accepted
    obtain ⟨rows, prints⟩ := prints_body complete accepted
    rw [prints p]
    exact ⟨rfl, rfl, rows p.depth, rfl⟩

theorem rejects_iff_flaw_branch :
    ofName? "python" = some python ∧
    python.Rejects (.run [1] 0 (.fanout (-3) (.cons 0 .empty (.cons 256 .empty .nil))))
      ⟨"  ", 3, "text", true⟩ ∧
    (runAll (python.body (.inline [2, 2] 7 .empty)) ⟨"  ", 3, "text", true⟩).1.depth = 3 := by
  have named : ofName? "python" = some python := rfl
  obtain ⟨rejects, _, _, written⟩ := rejects_iff_flaw named
  refine ⟨named, (rejects _ _).mpr ?_, (written _ _ ?_).2.1⟩
  · refine ⟨([1], .fanout (-3) (.cons 0 .empty (.cons 256 .empty .nil))), ?_, .badByte 256, .inr ?_⟩
    · decide
    · exact ⟨256, by decide, by decide, rfl⟩
  · rw [rejects]
    simp [Node.places, Flaw]

end Dialect

end Palette.Matcher
