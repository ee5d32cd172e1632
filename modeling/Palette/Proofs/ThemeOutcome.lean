import Palette.Proofs.BadValues

/-!
How the walk over a whole style sheet ends. Main statement: over a tree that cuts no character of
its source, the walk gives a theme or says what is wrong with the style sheet as a whole, unless it
comes upon a rule set with a declaration whose value ends it.
-/

namespace Palette.Theme

open Stylesheet Walk

variable {source : List UInt8}

theorem aboutItem_succeeds (found : List (String × String)) {item : Node}
    (legible : Legible source item) : (aboutItem source found item).Succeeds := by
  unfold aboutItem
  split
  · exact skip_then legible _ _
  · refine (nameOf_succeeds legible).bind fun name _ => ?_
    dsimp only
    split
    · exact skip_then legible _ _
    · split
      next value lone =>
        have member : value ∈ valuesOf item := by simp [lone]
        split
        · exact (textOf_succeeds (legible.valuesOf value member)).bind
            fun _ _ => succeeds_pure _
        · exact skip_then legible _ _
      next => exact skip_then legible _ _

theorem aboutItems_succeeds {items : List Node} (legible : ∀ item ∈ items, Legible source item) :
    ∀ found, (aboutItems source found items).Succeeds := by
  induction items with
  | nil => exact fun found => succeeds_pure found
  | cons item rest ih =>
      exact fun found => (aboutItem_succeeds found (legible item List.mem_cons_self)).bind
        fun next _ => ih (fun other member => legible other (List.mem_cons_of_mem item member)) next

theorem aboutOf_not_escapes {n block : Node} (legible : Legible source block) :
    ¬ (aboutOf source n block).Escapes := by
  have items := aboutItems_succeeds (legible.filter isItem) []
  refine (items.escapes_bind_iff fun found _ => ?_).1
  split
  · exact not_escapes_pure
  · exact not_escapes_failAt
  · exact not_escapes_failAt

theorem aboutRule_not_escapes (draft : Draft) {n : Node} (legible : Legible source n) :
    ¬ (aboutRule source draft n).Escapes := by
  refine ((keywordOf_succeeds legible).escapes_bind_iff fun keyword _ => ?_).1
  split
  · exact (skip_then legible _ _).not_escapes
  · split
    next => exact (skip_then legible _ _).not_escapes
    next block body =>
      rw [Walk.escapes_bind_iff]
      rintro (escaped | ⟨about, _, escaped⟩)
      · exact aboutOf_not_escapes (legible.child? body) escaped
      · split at escaped
        · exact not_escapes_failAt escaped
        · exact not_escapes_pure escaped

/-- A rule set with a declaration that ends the walk. -/
inductive Spoils (source : List UInt8) (n : Node) : Prop
  | root {selectors block declaration : Node} {text : String} (kind : n.kind = "rule_set")
      (selected : n.child? "selectors" = some selectors) (body : n.child? "block" = some block)
      (read : (textOf source selectors).outcome = .ok text)
      (isRoot : Text.lower (Text.strip text) = ":root")
      (member : declaration ∈ block.children) (item : isItem declaration = true)
      (bad : BadDeclaration source declaration)
  | named {selectors block tag : Node} {text : String} (kind : n.kind = "rule_set")
      (selected : n.child? "selectors" = some selectors) (body : n.child? "block" = some block)
      (read : (textOf source selectors).outcome = .ok text)
      (notRoot : Text.lower (Text.strip text) ≠ ":root")
      (alone : selectors.namedChildren = [tag]) (isTag : tag.kind = "tag_name")
      (below : SpoilsRules source block)

theorem rootOf_escapesIff {block : Node} (legible : Legible source block) :
    (rootOf source block).EscapesIff
      (∃ item ∈ block.children, isItem item = true ∧ BadDeclaration source item) :=
  (rootItems_escapesIff (legible.filter isItem) []).congr (by simp [List.mem_filter, and_assoc])

theorem ruleSet_escapes_iff (draft : Draft) {n : Node} (legible : Legible source n)
    (kind : n.kind = "rule_set") : (ruleSet source draft n).Escapes ↔ Spoils source n := by
  unfold ruleSet
  split
  next selectors block selected body =>
    obtain ⟨text, read⟩ := (textOf_succeeds (legible.child? selected)).succeeds id
    rw [escapes_bind_ok read]
    dsimp only
    split
    next isRoot =>
      rw [(rootOf_escapesIff (legible.child? body)).escapes_bind_iff fun _ _ => by
        split
        · exact not_escapes_failAt
        · exact not_escapes_pure]
      constructor
      · rintro ⟨declaration, member, item, bad⟩
        exact .root kind selected body read isRoot member item bad
      · rintro (⟨_, _, body', _, _, member, item, bad⟩ | ⟨_, selected', _, read', notRoot, _, _, _⟩)
        · cases body.symm.trans body'
          exact ⟨_, member, item, bad⟩
        · cases selected.symm.trans selected'
          cases read.symm.trans read'
          exact absurd isRoot notRoot
    next notRoot =>
      have notSpoils : ∀ {w : Walk Draft}, w.Succeeds →
          (∀ tag, selectors.namedChildren = [tag] → tag.kind ≠ "tag_name") →
          (w.Escapes ↔ Spoils source n) := by
        intro w succeeds noTag
        refine iff_of_false succeeds.not_escapes ?_
        rintro (⟨_, selected', _, read', isRoot, _⟩ | ⟨_, selected', _, _, _, alone, isTag, _⟩)
        · cases selected.symm.trans selected'
          cases read.symm.trans read'
          exact notRoot isRoot
        · cases selected.symm.trans selected'
          exact noTag _ alone isTag
      split
      next tag alone =>
        split
        next isTag =>
          have member : tag ∈ selectors.children :=
            List.mem_of_mem_filter (alone ▸ List.mem_cons_self : tag ∈ selectors.namedChildren)
          obtain ⟨name, named⟩ :=
            (textOf_succeeds ((legible.child? selected).child member)).succeeds id
          have rules := rulesOf_escapesIff block (legible.child? body)
          rw [escapes_bind_ok named, rules.escapes_bind_iff fun _ _ => by
            split
            · exact not_escapes_failAt
            · exact not_escapes_pure]
          constructor
          · exact fun below => .named kind selected body read notRoot alone isTag below
          · rintro (⟨_, selected', _, read', isRoot, _, _, _⟩ | ⟨_, _, body', _, _, _, _, below⟩)
            · cases selected.symm.trans selected'
              cases read.symm.trans read'
              exact absurd isRoot notRoot
            · cases body.symm.trans body'
              exact below
        next other =>
          refine notSpoils (skip_then legible _ _) fun tag' alone' => ?_
          cases alone.symm.trans alone'
          exact other
      next other =>
        exact notSpoils (skip_then legible _ _) fun tag alone => absurd alone (other tag)
  next other =>
    refine iff_of_false (skip_then legible _ _).not_escapes ?_
    rintro (⟨_, selected, body, _, _, _, _, _⟩ | ⟨_, selected, body, _, _, _, _, _⟩) <;>
      exact other _ _ selected body

theorem topItem_escapes_iff (draft : Draft) {n : Node} (legible : Legible source n) :
    (topItem source draft n).Escapes ↔ Spoils source n := by
  unfold topItem
  split
  next kind =>
    refine iff_of_false (aboutRule_not_escapes draft legible) ?_
    rintro (⟨other, _⟩ | ⟨other, _⟩) <;> exact absurd (kind.symm.trans other) (by decide)
  next =>
    split
    next kind => exact ruleSet_escapes_iff draft legible kind
    next other =>
      refine iff_of_false (skip_then legible _ _).not_escapes ?_
      rintro (⟨kind, _⟩ | ⟨kind, _⟩) <;> exact other kind

/-- The walk over some items comes upon one of them. -/
def Reached (source : List UInt8) (draft : Draft) (items : List Node) (n : Node) : Prop :=
  ∃ before after next, items = before ++ n :: after ∧
    (topItems source draft before).outcome = .ok next

theorem reached_cons_iff {draft : Draft} {first : Node} {rest : List Node} {n : Node} :
    Reached source draft (first :: rest) n ↔
      n = first ∨ ∃ next, (topItem source draft first).outcome = .ok next ∧
        Reached source next rest n := by
  constructor
  · rintro ⟨before, after, last, cut, ok⟩
    cases before with
    | nil =>
        cases cut
        exact .inl rfl
    | cons head before =>
        obtain ⟨rfl, rfl⟩ := List.cons.inj cut
        rw [topItems] at ok
        cases ended : (topItem source draft first).outcome with
        | error failure =>
            rw [outcome_bind_error ended] at ok
            cases ok
        | ok next =>
            rw [outcome_bind_ok ended] at ok
            exact .inr ⟨next, rfl, before, after, last, rfl, ok⟩
  · rintro (rfl | ⟨next, ended, before, after, last, rfl, ok⟩)
    · exact ⟨[], rest, draft, rfl, rfl⟩
    · refine ⟨first :: before, after, last, rfl, ?_⟩
      rw [topItems, outcome_bind_ok ended, ok]

theorem topItems_escapes_iff {items : List Node} (legible : ∀ n ∈ items, Legible source n) :
    ∀ draft, (topItems source draft items).Escapes ↔
      ∃ n, Reached source draft items n ∧ Spoils source n := by
  induction items with
  | nil =>
      refine fun draft => iff_of_false not_escapes_pure ?_
      rintro ⟨n, ⟨before, after, _, cut, _⟩, _⟩
      simp at cut
  | cons first rest ih =>
      intro draft
      have head := topItem_escapes_iff draft (legible first List.mem_cons_self)
      have behind := ih fun n member => legible n (List.mem_cons_of_mem first member)
      rw [topItems, Walk.escapes_bind_iff, head]
      simp only [behind, reached_cons_iff]
      constructor
      · rintro (spoils | ⟨next, ended, n, reached, spoils⟩)
        · exact ⟨first, .inl rfl, spoils⟩
        · exact ⟨n, .inr ⟨next, ended, reached⟩, spoils⟩
      · rintro ⟨n, rfl | ⟨next, ended, reached⟩, spoils⟩
        · exact .inl spoils
        · exact .inr ⟨next, ended, n, reached, spoils⟩

theorem ofTree_escapes_iff {tree : Node} (legible : Legible source tree) :
    (ofTree source tree).Escapes ↔
      ∃ n, Reached source {} (tree.children.filter isTopItem) n ∧ Spoils source n := by
  rw [ofTree, Walk.escapes_bind_iff, topItems_escapes_iff (legible.filter isTopItem), or_iff_left]
  rintro ⟨draft, _, escaped⟩
  split at escaped
  · exact not_escapes_pure escaped
  · exact not_escapes_failAt escaped

/-- Every node of the tree begins and ends between characters of the text. -/
def CutsBetweenChars (text : String) (tree : Node) : Prop :=
  ∀ n, Within tree n → Text.Boundary text n.label.start ∧ Text.Boundary text n.label.stop

theorem CutsBetweenChars.legible {text : String} {tree : Node} (cuts : CutsBetweenChars text tree) :
    Legible (Text.encode text) tree :=
  fun n within => Text.decode?_between (cuts n within).1 (cuts n within).2

mutual

def everyNode (holds : Node → Bool) : Node → Bool
  | .mk label children => holds (.mk label children) && everyNodeOf holds children

def everyNodeOf (holds : Node → Bool) : List Node → Bool
  | [] => true
  | n :: rest => everyNode holds n && everyNodeOf holds rest

end

theorem everyNode_of_mem {holds : Node → Bool} {nodes : List Node} {n : Node}
    (every : everyNodeOf holds nodes = true) (member : n ∈ nodes) : everyNode holds n = true := by
  induction nodes with
  | nil => cases member
  | cons first rest ih =>
      simp only [everyNodeOf, Bool.and_eq_true] at every
      rcases List.mem_cons.1 member with rfl | behind
      · exact every.1
      · exact ih every.2 behind

theorem holds_of_within {holds : Node → Bool} {tree n : Node} (within : Within tree n)
    (every : everyNode holds tree = true) : holds n = true := by
  induction within with
  | self n =>
      obtain ⟨label, children⟩ := n
      simp only [everyNode, Bool.and_eq_true] at every
      exact every.1
  | @child n c m member _ ih =>
      obtain ⟨label, children⟩ := n
      simp only [everyNode, Bool.and_eq_true] at every
      exact ih (everyNode_of_mem every.2 member)

theorem cutsBetweenChars_of_everyNode {text : String} {tree : Node}
    (every : everyNode (fun n => decide (Text.Boundary text n.label.start ∧
      Text.Boundary text n.label.stop)) tree = true) : CutsBetweenChars text tree :=
  fun _ within => of_decide_eq_true (holds_of_within within every)

/-- The walk over a tree that cuts no character gives a theme or says what is wrong with the style
sheet as a whole, unless it comes upon a rule set with a declaration of a color that has a channel
below zero or an infinite argument. -/
theorem ofTree_outcome_iff (text : String) (tree : Node) (cuts : CutsBetweenChars text tree) :
    ((∃ theme, (ofTree (Text.encode text) tree).outcome = .ok theme) ∨
      ∃ cause line column,
        (ofTree (Text.encode text) tree).outcome = .error (.defect cause line column)) ↔
    ∀ n, Reached (Text.encode text) {} (tree.children.filter isTopItem) n →
      ¬ Spoils (Text.encode text) n := by
  rw [← Walk.not_escapes_iff, ofTree_escapes_iff cuts.legible]
  simp only [not_exists, not_and]

def Walk.failure? {α : Type} (w : Walk α) : Option Failure :=
  match w.outcome with
  | .ok _ => none
  | .error failure => some failure

def harmlessText : String :=
  "@chatterino\x7bauthor:\"ä\";icon-set:\"b\"\x7dw\x7bx:#ggg;y:rgb(nan,0,0);@nest z\x7bu:v\x7d\x7d"

theorem ofTree_outcome_iff_harmlessText :
    CutsBetweenChars harmlessText (Node.ofText harmlessText) ∧
      ∀ n, Reached (Text.encode harmlessText) {}
          ((Node.ofText harmlessText).children.filter isTopItem) n →
        ¬ Spoils (Text.encode harmlessText) n := by
  have cuts : CutsBetweenChars harmlessText (Node.ofText harmlessText) :=
    cutsBetweenChars_of_everyNode (by decide +kernel)
  have walked : (ofTree (Text.encode harmlessText) (Node.ofText harmlessText)).failure? = none := by
    decide +kernel
  refine ⟨cuts, (ofTree_outcome_iff harmlessText (Node.ofText harmlessText) cuts).1 (.inl ?_)⟩
  unfold Walk.failure? at walked
  split at walked
  next theme ended => exact ⟨theme, ended⟩
  next => cases walked

def infiniteText : String :=
  "@chatterino\x7bauthor:\"a\";icon-set:\"b\"\x7dw\x7bx:rgb(inf,0,0)\x7d"

/-- An infinite argument ends the walk, and so does a channel below zero. The tree of the second
walk is that of a color with plain digits. -/
theorem ofTree_bad_values :
    (CutsBetweenChars infiniteText (Node.ofText infiniteText) ∧
      (ofTree (Text.encode infiniteText) (Node.ofText infiniteText)).failure? = some .infinite) ∧
    (CutsBetweenChars "w\x7bx:#-10000\x7d" (Node.ofText "w\x7bx:#110000\x7d") ∧
      (ofTree (Text.encode "w\x7bx:#-10000\x7d") (Node.ofText "w\x7bx:#110000\x7d")).failure? =
        some (.outOfRange [(.red, .tooSmall)])) := by
  refine ⟨⟨cutsBetweenChars_of_everyNode (by decide +kernel), by decide +kernel⟩,
    cutsBetweenChars_of_everyNode (by decide +kernel), by decide +kernel⟩

end Palette.Theme
