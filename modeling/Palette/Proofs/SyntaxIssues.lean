import Mathlib.Data.List.Forall2
import Palette.Proofs.BlankText
import Palette.Theme.Parse

/-!
What is reported of a style sheet that does not follow the grammar. A node is broken if it is an
error or missing, and those broken nodes are reported that lie in no other one, in the order of the
source. The search for them goes down only where a node is marked as faulty, which loses nothing if
the marks are consistent. Whatever the walk over a style sheet then passes over for its errors lies
in a node that was reported, or has one in it.
-/

namespace Palette.Stylesheet

def Node.isBroken (n : Node) : Bool := n.isError || n.label.missing

/-- The node at an address: the numbers of the children on the way to it, from zero. -/
def Node.at? (tree : Node) : List Nat → Option Node
  | [] => some tree
  | i :: address => tree.children[i]?.bind (·.at? address)

/-- A broken node, by its address, that lies in no other broken node. -/
structure Outermost (tree : Node) (address : List Nat) (n : Node) : Prop where
  here : tree.at? address = some n
  broken : n.isBroken = true
  above : ∀ front outer, front <+: address → front ≠ address → tree.at? front = some outer →
    outer.isBroken = false

/-- An issue that tells where a node starts, counting from one, and what its bytes are or, if it is
missing, of which kind it is. -/
structure Issue.PointsTo (source : List UInt8) (issue : Issue) (n : Node) : Prop where
  line : issue.line = n.label.startPoint.row + 1
  column : issue.column = n.label.startPoint.column + 1
  missing : n.label.missing = true → Text.HasCore ("missing " ++ n.kind).toList issue.text.toList
  present : n.label.missing = false →
    Text.HasCore (Text.decodeLossy ((source.take n.label.stop).drop n.label.start)).toList
      issue.text.toList

mutual

/-- Whether in all of a tree a node is marked as faulty exactly if it is broken or one of its
children is marked. -/
def Node.consistent : Node → Bool
  | .mk label children =>
      label.faulty = ((Node.mk label children).isBroken || children.any (·.label.faulty)) &&
        consistentAll children

def consistentAll : List Node → Bool
  | [] => true
  | n :: rest => n.consistent && consistentAll rest

end

mutual

/-- The outermost broken nodes with their addresses, from the first to the last. -/
def Node.outermost : Node → List (List Nat × Node)
  | .mk label children =>
      if (Node.mk label children).isBroken then [([], .mk label children)]
      else outermostOfAll 0 children

def outermostOfAll (i : Nat) : List Node → List (List Nat × Node)
  | [] => []
  | n :: rest =>
      n.outermost.map (fun place => (i :: place.1, place.2)) ++ outermostOfAll (i + 1) rest

end

/-! ### The listing is complete -/

theorem outermost_nil_iff {tree n : Node} :
    Outermost tree [] n ↔ tree = n ∧ n.isBroken = true := by
  constructor
  · intro place
    exact ⟨Option.some.inj place.here, place.broken⟩
  · rintro ⟨rfl, broken⟩
    exact ⟨rfl, broken, fun front _ before differ => absurd (List.prefix_nil.mp before) differ⟩

theorem outermost_cons_iff {tree n : Node} {i : Nat} {address : List Nat} :
    Outermost tree (i :: address) n ↔ tree.isBroken = false ∧
      ∃ child, tree.children[i]? = some child ∧ Outermost child address n := by
  constructor
  · intro place
    refine ⟨place.above [] tree List.nil_prefix (by simp) rfl, ?_⟩
    obtain ⟨child, found, inner⟩ := Option.bind_eq_some_iff.mp place.here
    refine ⟨child, found, inner, place.broken, ?_⟩
    intro front outer before differ there
    apply place.above (i :: front) outer
    · exact (List.prefix_cons_inj i).mpr before
    · simpa using differ
    · exact Option.bind_eq_some_iff.mpr ⟨child, found, there⟩
  · rintro ⟨whole, child, found, inner⟩
    refine ⟨Option.bind_eq_some_iff.mpr ⟨child, found, inner.here⟩, inner.broken, ?_⟩
    intro front outer before differ there
    cases front with
    | nil =>
        cases there
        exact whole
    | cons j front =>
        obtain ⟨rfl, inFront⟩ := List.cons_prefix_cons.mp before
        obtain ⟨child', found', below⟩ := Option.bind_eq_some_iff.mp there
        obtain rfl : child = child' := Option.some.inj (found.symm.trans found')
        exact inner.above front outer inFront (fun same => differ (by rw [same])) below

mutual

theorem Node.mem_outermost_iff : ∀ (tree : Node) (address : List Nat) (n : Node),
    (address, n) ∈ tree.outermost ↔ Outermost tree address n
  | .mk label children, address, n => by
      have inner := mem_outermostOfAll_iff children 0 address n
      rw [Node.outermost]
      by_cases broken : (Node.mk label children).isBroken = true
      · rw [if_pos broken, List.mem_singleton, Prod.mk.injEq]
        cases address with
        | nil =>
            rw [outermost_nil_iff]
            constructor
            · rintro ⟨-, rfl⟩
              exact ⟨rfl, broken⟩
            · rintro ⟨rfl, -⟩
              exact ⟨rfl, rfl⟩
        | cons i address => simp [outermost_cons_iff, broken]
      · rw [if_neg broken, inner]
        rw [Bool.not_eq_true] at broken
        cases address with
        | nil =>
            constructor
            · rintro ⟨_, _, _, _, same, _⟩
              cases same
            · intro place
              rw [outermost_nil_iff] at place
              obtain ⟨rfl, again⟩ := place
              cases broken.symm.trans again
        | cons i address =>
            rw [outermost_cons_iff]
            constructor
            · rintro ⟨j, child, rest, found, same, place⟩
              obtain ⟨rfl, rfl⟩ := List.cons.inj same
              rw [Nat.zero_add]
              exact ⟨broken, child, found, place⟩
            · rintro ⟨-, child, found, place⟩
              exact ⟨i, child, address, found, by rw [Nat.zero_add], place⟩

theorem mem_outermostOfAll_iff : ∀ (nodes : List Node) (i : Nat) (address : List Nat) (n : Node),
    (address, n) ∈ outermostOfAll i nodes ↔
      ∃ j child rest, nodes[j]? = some child ∧ address = (i + j) :: rest ∧ Outermost child rest n
  | [], i, address, n => by simp [outermostOfAll]
  | first :: others, i, address, n => by
      have head := Node.mem_outermost_iff first
      have tail := mem_outermostOfAll_iff others (i + 1) address n
      rw [outermostOfAll, List.mem_append, List.mem_map, tail]
      constructor
      · rintro (⟨⟨rest, m⟩, listed, same⟩ | ⟨j, child, rest, found, rfl, place⟩)
        · obtain ⟨rfl, rfl⟩ := Prod.mk.inj same
          exact ⟨0, first, rest, rfl, rfl, (head rest m).mp listed⟩
        · exact ⟨j + 1, child, rest, found, by rw [Nat.add_right_comm, Nat.add_assoc], place⟩
      · rintro ⟨j, child, rest, found, rfl, place⟩
        cases j with
        | zero =>
            obtain rfl : first = child := Option.some.inj found
            exact .inl ⟨(rest, n), (head rest n).mpr place, rfl⟩
        | succ j =>
            exact .inr ⟨j, child, rest, found, by rw [Nat.add_right_comm, Nat.add_assoc], place⟩

end

/-! ### The listing ascends -/

mutual

theorem Node.outermost_ascend : ∀ tree : Node, (tree.outermost.map Prod.fst).Pairwise (· < ·)
  | .mk label children => by
      have inner := outermostOfAll_ascend children 0
      rw [Node.outermost]
      split
      · exact List.pairwise_singleton _ _
      · exact inner

theorem outermostOfAll_ascend : ∀ (nodes : List Node) (i : Nat),
    ((outermostOfAll i nodes).map Prod.fst).Pairwise (· < ·)
  | [], i => List.Pairwise.nil
  | first :: others, i => by
      have head := Node.outermost_ascend first
      have tail := outermostOfAll_ascend others (i + 1)
      rw [outermostOfAll, List.map_append, List.map_map]
      apply List.pairwise_append.mpr
      refine ⟨?_, tail, ?_⟩
      · rw [List.pairwise_map] at head ⊢
        apply head.imp
        intro place other before
        exact List.cons_lt_cons_iff.mpr (.inr ⟨rfl, before⟩)
      · intro address inFirst other inOthers
        obtain ⟨place, _, rfl⟩ := List.mem_map.mp inFirst
        obtain ⟨⟨_, n⟩, listed, rfl⟩ := List.mem_map.mp inOthers
        obtain ⟨j, _, rest, _, rfl, _⟩ := (mem_outermostOfAll_iff others (i + 1) _ n).mp listed
        exact List.cons_lt_cons_iff.mpr (.inl (by omega))

end

/-! ### The search with pending nodes -/

def Node.reports (source : List UInt8) (tree : Node) : List Issue :=
  tree.outermost.map fun place => Issue.ofNode source place.2

variable {source : List UInt8}

theorem reports_outermostOfAll (nodes : List Node) (i : Nat) :
    (outermostOfAll i nodes).map (fun place => Issue.ofNode source place.2) =
      nodes.flatMap (Node.reports source) := by
  induction nodes generalizing i with
  | nil => rfl
  | cons n rest ih =>
      rw [outermostOfAll, List.map_append, List.map_map, ih, List.flatMap_cons]
      rfl

theorem consistentAll_iff {nodes : List Node} :
    consistentAll nodes = true ↔ ∀ n ∈ nodes, n.consistent = true := by
  induction nodes with
  | nil => simp [consistentAll]
  | cons n rest ih => simp [consistentAll, ih]

theorem consistent_mk_iff {label : Label} {children : List Node} :
    (Node.mk label children).consistent = true ↔
      (label.faulty = true ↔ (Node.mk label children).isBroken = true ∨
        ∃ child ∈ children, child.label.faulty = true) ∧
      ∀ child ∈ children, child.consistent = true := by
  rw [Node.consistent, Bool.and_eq_true, consistentAll_iff, decide_eq_true_iff, Bool.eq_iff_iff,
    Bool.or_eq_true, List.any_eq_true]

mutual

/-- There is nothing to report exactly where nothing is marked. -/
theorem Node.outermost_eq_nil_iff : ∀ tree : Node, tree.consistent = true →
    (tree.outermost = [] ↔ tree.label.faulty = false)
  | .mk label children, consistent => by
      obtain ⟨marked, inner⟩ := consistent_mk_iff.mp consistent
      have below := outermostOfAll_eq_nil_iff children inner 0
      change _ ↔ label.faulty = false
      rw [Node.outermost, ← Bool.not_eq_true, marked, not_or]
      by_cases broken : (Node.mk label children).isBroken = true
      · simp [broken]
      · simp [broken, below]

theorem outermostOfAll_eq_nil_iff : ∀ nodes : List Node, (∀ n ∈ nodes, n.consistent = true) →
    ∀ i, outermostOfAll i nodes = [] ↔ ∀ n ∈ nodes, n.label.faulty = false
  | [], _, i => by simp [outermostOfAll]
  | n :: rest, consistent, i => by
      rw [List.forall_mem_cons] at consistent
      rw [outermostOfAll, List.append_eq_nil_iff, List.map_eq_nil_iff, List.forall_mem_cons,
        Node.outermost_eq_nil_iff n consistent.1,
        outermostOfAll_eq_nil_iff rest consistent.2 (i + 1)]

end

/-- From any pending nodes the search comes to the reports of each of them in turn. -/
theorem issuesOfPending_eq (pending : List Node)
    (consistent : ∀ n ∈ pending, n.consistent = true) :
    issuesOfPending source pending = pending.flatMap (Node.reports source) := by
  fun_induction issuesOfPending source pending with
  | case1 => rfl
  | case2 label children pending broken ih =>
      have here : (Node.mk label children).isBroken = true := broken
      rw [List.forall_mem_cons] at consistent
      rw [ih consistent.2, List.flatMap_cons, Node.reports, Node.outermost, if_pos here]
      rfl
  | case3 label children pending whole faulty ih =>
      have here : ¬ (Node.mk label children).isBroken = true := whole
      rw [List.forall_mem_cons] at consistent
      have inner := (consistent_mk_iff.mp consistent.1).2
      rw [ih, List.flatMap_append, List.flatMap_cons, Node.reports, Node.outermost, if_neg here,
        reports_outermostOfAll]
      intro n member
      rcases List.mem_append.mp member with below | behind
      · exact inner n below
      · exact consistent.2 n behind
  | case4 label children pending whole clean ih =>
      -- The search leaves the node out, and by its mark there was nothing to find in it.
      rw [List.forall_mem_cons] at consistent
      have nothing := (Node.outermost_eq_nil_iff (.mk label children) consistent.1).mpr
        (Bool.eq_false_iff.mpr clean)
      rw [ih consistent.2, List.flatMap_cons, Node.reports, nothing]
      rfl

theorem Node.issues_eq_reports (tree : Node) (consistent : tree.consistent = true) :
    tree.issues source = tree.reports source := by
  rw [Node.issues, issuesOfPending_eq [tree] (by simpa using consistent)]
  simp

theorem Issue.pointsTo_iff {issue : Issue} {n : Node} :
    issue.PointsTo source n ↔ issue = Issue.ofNode source n := by
  have bytes : (source.take n.label.stop).drop n.label.start = n.bytes source := List.drop_take
  constructor
  · rintro ⟨line, column, missing, present⟩
    have text : issue.text = (Issue.ofNode source n).text := by
      unfold Issue.ofNode
      cases absent : n.label.missing with
      | true => exact (Text.strip_eq_iff.mpr (missing absent)).symm
      | false => exact (Text.strip_eq_iff.mpr (bytes ▸ present absent)).symm
    obtain ⟨_, _, _⟩ := issue
    exact Issue.mk.injEq _ _ _ _ _ _ ▸ ⟨line, column, text⟩
  · rintro rfl
    refine ⟨rfl, rfl, fun absent => ?_, fun there => ?_⟩
    · apply Text.strip_eq_iff.mp
      simp only [Issue.ofNode, absent, ↓reduceIte]
    · apply Text.strip_eq_iff.mp
      simp [Issue.ofNode, there, bytes]

theorem pointsTo_all_iff {places : List (List Nat × Node)} {issues : List Issue} :
    List.Forall₂ (fun place issue => issue.PointsTo source place.2) places issues ↔
      issues = places.map fun place => Issue.ofNode source place.2 := by
  simp only [Issue.pointsTo_iff]
  induction places generalizing issues with
  | nil => simp
  | cons place places ih => cases issues <;> simp [ih]

/-! ### Marked nodes are accounted for -/

theorem Node.exists_outermost_of_faulty (tree : Node) (consistent : tree.consistent = true)
    (faulty : tree.label.faulty = true) : ∃ address n, Outermost tree address n := by
  have nonempty : tree.outermost ≠ [] := by
    rw [Ne, Node.outermost_eq_nil_iff tree consistent, faulty]
    decide
  obtain ⟨⟨address, n⟩, listed⟩ := List.exists_mem_of_ne_nil _ nonempty
  exact ⟨address, n, (Node.mem_outermost_iff tree address n).mp listed⟩

theorem consistent_at? {tree n : Node} {address : List Nat} (consistent : tree.consistent = true)
    (there : tree.at? address = some n) : n.consistent = true := by
  induction address generalizing tree with
  | nil =>
      obtain rfl : tree = n := Option.some.inj there
      exact consistent
  | cons i address ih =>
      obtain ⟨label, children⟩ := tree
      obtain ⟨child, found, below⟩ := Option.bind_eq_some_iff.mp there
      exact ih ((consistent_mk_iff.mp consistent).2 child (List.mem_of_getElem? found)) below

theorem faulty_of_error {n : Node} (consistent : n.consistent = true) (error : n.isError = true) :
    n.label.faulty = true := by
  obtain ⟨label, children⟩ := n
  have broken : (Node.mk label children).isBroken = true := by rw [Node.isBroken, error]; rfl
  exact (consistent_mk_iff.mp consistent).1.mpr (.inl broken)

/-- What is outermost in a node is outermost in the tree, unless the node lies in a broken node. The
induction is on the address of the node, and the first broken node on the way to it counts. -/
theorem Outermost.along {tree n m : Node} {address inner : List Nat} (listed : Outermost n inner m)
    (there : tree.at? address = some n) :
    ∃ place m, Outermost tree place m ∧ (place <+: address ∨ address <+: place) := by
  induction address generalizing tree with
  | nil =>
      obtain rfl : tree = n := Option.some.inj there
      exact ⟨inner, m, listed, .inr List.nil_prefix⟩
  | cons i address ih =>
      by_cases broken : tree.isBroken = true
      · exact ⟨[], tree, outermost_nil_iff.mpr ⟨rfl, broken⟩, .inl List.nil_prefix⟩
      · obtain ⟨child, found, below⟩ := Option.bind_eq_some_iff.mp there
        obtain ⟨place, m, outermost, related⟩ := ih below
        refine ⟨i :: place, m, ?_, ?_⟩
        · exact outermost_cons_iff.mpr ⟨Bool.eq_false_iff.mpr broken, child, found, outermost⟩
        · exact related.imp (List.prefix_cons_inj i).mpr (List.prefix_cons_inj i).mpr

/-- A node that is an error or is marked lies in an outermost broken node or has one in it. -/
theorem exists_outermost_of_spoiled {tree n : Node} {address : List Nat}
    (consistent : tree.consistent = true) (there : tree.at? address = some n)
    (spoiled : n.isError = true ∨ n.label.faulty = true) :
    ∃ place ∈ tree.outermost, place.1 <+: address ∨ address <+: place.1 := by
  have inner := consistent_at? consistent there
  have faulty : n.label.faulty = true := spoiled.elim (faulty_of_error inner) id
  obtain ⟨_, _, below⟩ := Node.exists_outermost_of_faulty n inner faulty
  obtain ⟨place, m, listed, related⟩ := below.along there
  exact ⟨(place, m), (tree.mem_outermost_iff place m).mpr listed, related⟩

end Palette.Stylesheet

namespace Palette.Theme

open Stylesheet

/-- A node, by its address, that the walk over a style sheet passes over without a warning although
it is no comment: one at the top or in a block that is not looked at. -/
inductive PassedOver (tree : Node) : List Nat → Node → Prop
  | top {i : Nat} {n : Node} (there : tree.at? [i] = some n) (named : n.label.named = true)
      (content : n.isComment = false) (skipped : isTopItem n = false) : PassedOver tree [i] n
  | item {address : List Nat} {i : Nat} {block n : Node} (body : tree.at? address = some block)
      (kind : block.kind = "block") (there : tree.at? (address ++ [i]) = some n)
      (named : n.label.named = true) (content : n.isComment = false) (skipped : isItem n = false) :
      PassedOver tree (address ++ [i]) n

variable {tree n : Node} {address : List Nat}

theorem PassedOver.there (passed : PassedOver tree address n) : tree.at? address = some n := by
  cases passed with
  | top there => exact there
  | item _ _ there => exact there

theorem PassedOver.spoiled (passed : PassedOver tree address n) :
    n.isError = true ∨ n.label.faulty = true := by
  cases passed with
  | top _ named content skipped =>
      left
      simpa [isTopItem, named, content] using skipped
  | item _ _ _ named content skipped =>
      have both : n.label.faulty = false → n.isError = true := by
        simpa [isItem, named, content] using skipped
      cases faulty : n.label.faulty with
      | true => exact .inr rfl
      | false => exact .inl (both faulty)

/-- If the marks of a tree are consistent, then its issues point to its outermost broken nodes, to
each once and in the order of the source. Every node that is an error or has one in it, and so every
node that is passed over, lies in one of them or has one in it. -/
theorem issues_report_outermost (source : List UInt8) (tree : Node)
    (consistent : tree.consistent = true) :
    List.Forall₂ (fun place issue => issue.PointsTo source place.2) tree.outermost
        (tree.issues source) ∧
      (tree.outermost.map Prod.fst).Pairwise (· < ·) ∧
      (∀ address n, (address, n) ∈ tree.outermost ↔ Outermost tree address n) ∧
      ∀ address n, tree.at? address = some n →
        n.isError = true ∨ n.label.faulty = true ∨ PassedOver tree address n →
        ∃ place ∈ tree.outermost, place.1 <+: address ∨ address <+: place.1 := by
  refine ⟨pointsTo_all_iff.mpr (tree.issues_eq_reports consistent), tree.outermost_ascend,
    tree.mem_outermost_iff, ?_⟩
  intro address n there cause
  apply exists_outermost_of_spoiled consistent there
  rcases cause with error | faulty | passed
  · exact .inl error
  · exact .inr faulty
  · exact passed.spoiled

def placed (kind : String) (start stop row column : Nat) (faulty missing : Bool)
    (children : List Node) : Node :=
  .mk ⟨kind, start, stop, ⟨row, column⟩, ⟨row, column + (stop - start)⟩, true, missing, faulty⟩
    children

def spoiledText : String := "\x7d\x7d\na \x7b\n  b: c \x7d\n ?\n"

def endlessDeclaration : Node :=
  placed "declaration" 9 13 2 2 true false [placed ";" 13 13 2 6 true true []]

def spoiledTree : Node :=
  placed "stylesheet" 0 19 0 0 true false
    [placed "ERROR" 0 2 0 0 true false [placed "ERROR" 1 2 0 1 true false []],
      placed "rule_set" 3 15 1 0 true false
        [placed "selectors" 3 4 1 0 false false [],
          placed "block" 5 15 1 2 true false [endlessDeclaration]],
      placed "ERROR" 16 18 3 0 true false []]

theorem issues_report_outermost_spoiled :
    spoiledTree.consistent = true ∧
      spoiledTree.outermost.map Prod.fst = [[0], [1, 1, 0, 0], [2]] ∧
      spoiledTree.issues (Text.encode spoiledText) =
        [⟨1, 1, "\x7d\x7d"⟩, ⟨3, 7, "missing ;"⟩, ⟨4, 1, "?"⟩] ∧
      PassedOver spoiledTree [1, 1, 0] endlessDeclaration ∧
      ∃ place ∈ spoiledTree.outermost, place.1 <+: [1, 1, 0] ∨ [1, 1, 0] <+: place.1 := by
  have consistent : spoiledTree.consistent = true := by decide
  have places : spoiledTree.outermost.map Prod.fst = [[0], [1, 1, 0, 0], [2]] := by decide
  have passed : PassedOver spoiledTree [1, 1, 0] endlessDeclaration :=
    @PassedOver.item spoiledTree [1, 1] 0 _ _ rfl rfl rfl rfl rfl rfl
  obtain ⟨reported, _, _, covered⟩ :=
    issues_report_outermost (Text.encode spoiledText) spoiledTree consistent
  refine ⟨consistent, places, ?_, passed,
    covered [1, 1, 0] _ passed.there (.inr (.inr passed))⟩
  rw [pointsTo_all_iff.mp reported]
  decide +kernel

end Palette.Theme
