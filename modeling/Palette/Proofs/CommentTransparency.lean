import Mathlib.Data.List.Forall2
import Palette.Theme.Flatten
import Palette.Theme.Parse

/-!
Comments and the walk over a style sheet. What the walk looks at is chosen by the kinds of nodes,
and nearly always without the comments among them, so that taking comments out of the tree changes
neither the theme nor the warnings. Two places count the comments: the first argument of a
reference and the tag of a rule set. Main statement: where these two stay the same, the whole walk
does.
-/

namespace Palette.Theme

open Stylesheet

mutual

/-- `Pruned permits n m` holds when `m` is `n` with some comments taken out, at any depth, and
every node that stays may be left as it is then. -/
inductive Pruned (permits : Node → Node → Prop) : Node → Node → Prop
  | mk (label : Label) {children rest : List Node} :
      PrunedAll permits children rest → permits (.mk label children) (.mk label rest) →
      Pruned permits (.mk label children) (.mk label rest)

inductive PrunedAll (permits : Node → Node → Prop) : List Node → List Node → Prop
  | nil : PrunedAll permits [] []
  | keep {n m : Node} {ns ms : List Node} :
      Pruned permits n m → PrunedAll permits ns ms → PrunedAll permits (n :: ns) (m :: ms)
  | drop {n : Node} {ns ms : List Node} :
      n.isComment = true → PrunedAll permits ns ms → PrunedAll permits (n :: ns) ms

end

/-! Two places look at children with the comments among them. -/

def firstArgument? (call : Node) : Option Label :=
  (call.child? "arguments").bind fun arguments => arguments.namedChildren.head?.map Node.label

def loneTag? : List Node → Option Label
  | [tag] => if tag.kind = "tag_name" then some tag.label else none
  | _ => none

def soleTag? (n : Node) : Option Label :=
  (n.child? "selectors").bind fun selectors => loneTag? selectors.namedChildren

/-- Whether a value is read as a reference to a root color. -/
def refers (source : List UInt8) (value : Node) : Bool :=
  match (isReference source value).outcome with
  | .ok answer => answer
  | .error _ => false

/-- The child of a node that was chosen with the comments among its siblings. -/
def exposed? (source : List UInt8) (n : Node) : Option Label :=
  if n.kind = "rule_set" then soleTag? n
  else if refers source n then firstArgument? n
  else none

/-- Nodes that expose the same child. -/
def ExposesSame (source : List UInt8) (n m : Node) : Prop := exposed? source m = exposed? source n

section Structure

variable {permits : Node → Node → Prop} {n m : Node} {ns ms : List Node}

theorem Pruned.label_eq (h : Pruned permits n m) : m.label = n.label := by
  cases h with
  | mk label _ _ => rfl

theorem Pruned.kind_eq (h : Pruned permits n m) : m.kind = n.kind :=
  congrArg Label.kind h.label_eq

theorem Pruned.children (h : Pruned permits n m) : PrunedAll permits n.children m.children := by
  cases h with
  | mk label rest _ => exact rest

theorem Pruned.permitted (h : Pruned permits n m) : permits n m := by
  cases h with
  | mk label _ permitted => exact permitted

/-- A choice by labels that takes no comments. -/
structure ByLabel (chosen : Node → Bool) : Prop where
  congr : ∀ {n m : Node}, m.label = n.label → chosen m = chosen n
  not_comment : ∀ {n : Node}, n.isComment = true → chosen n = false

theorem PrunedAll.filter {chosen : Node → Bool} (byLabel : ByLabel chosen) :
    ∀ {ns ms : List Node}, PrunedAll permits ns ms →
      List.Forall₂ (Pruned permits) (ns.filter chosen) (ms.filter chosen)
  | _, _, .nil => .nil
  | _, _, .keep (n := n) (m := m) first rest => by
      have same : chosen m = chosen n := byLabel.congr first.label_eq
      cases taken : chosen n with
      | true =>
          rw [List.filter_cons_of_pos taken, List.filter_cons_of_pos (same.trans taken)]
          exact .cons first (rest.filter byLabel)
      | false =>
          rw [List.filter_cons_of_neg (by simp [taken]),
            List.filter_cons_of_neg (by simp [same, taken])]
          exact rest.filter byLabel
  | _, _, .drop comment rest => by
      rw [List.filter_cons_of_neg (by simp [byLabel.not_comment comment])]
      exact rest.filter byLabel

theorem byLabel_kind (kind : String) (notComment : kind ≠ "comment" ∧ kind ≠ "js_comment") :
    ByLabel fun n => n.kind = kind where
  congr := by
    rintro ⟨label, _⟩ ⟨_, _⟩ rfl
    rfl
  not_comment comment := by
    simp only [Node.isComment, Bool.or_eq_true, decide_eq_true_eq] at comment
    rcases comment with comment | comment
    · simp [comment, notComment.1.symm]
    · simp [comment, notComment.2.symm]

/-- The first child of a kind other than that of comments is pruned like its parent. -/
theorem Pruned.child?_cases (h : Pruned permits n m) (kind : String)
    (notComment : kind ≠ "comment" ∧ kind ≠ "js_comment") :
    (n.child? kind = none ∧ m.child? kind = none) ∨
      ∃ a b, n.child? kind = some a ∧ m.child? kind = some b ∧ Pruned permits a b := by
  have found := h.children.filter (byLabel_kind kind notComment)
  simp only [Node.child?, ← List.head?_filter]
  revert found
  generalize n.children.filter _ = ns
  generalize m.children.filter _ = ms
  rintro (_ | first)
  · exact .inl ⟨rfl, rfl⟩
  · exact .inr ⟨_, _, rfl, rfl, first⟩

end Structure

/-! Readers that look at no exposed child. -/

section Readers

variable {permits : Node → Node → Prop} {n m : Node} {source : List UInt8}

theorem textOf_congr (same : m.label = n.label) : textOf source m = textOf source n := by
  simp only [textOf, Node.bytes, same]

theorem skip_congr (same : m.label = n.label) (reason : Reason) :
    skip source m reason = skip source n reason := by
  simp only [skip, textOf_congr same, same]

theorem byLabel_isItem : ByLabel isItem where
  congr := by
    rintro ⟨label, _⟩ ⟨_, _⟩ rfl
    rfl
  not_comment comment := by simp [isItem, comment]

theorem byLabel_isTopItem : ByLabel isTopItem where
  congr := by
    rintro ⟨label, _⟩ ⟨_, _⟩ rfl
    rfl
  not_comment comment := by simp [isTopItem, comment]

theorem byLabel_isPreludePart : ByLabel isPreludePart where
  congr := by
    rintro ⟨label, _⟩ ⟨_, _⟩ rfl
    rfl
  not_comment comment := by simp [isPreludePart, comment]

theorem keywordOf_pruned (h : Pruned permits n m) : keywordOf source m = keywordOf source n := by
  unfold keywordOf
  rcases h.child?_cases "at_keyword" (by decide) with ⟨hn, hm⟩ | ⟨a, b, hn, hm, inner⟩
  · rw [hn, hm]
  · rw [hn, hm]
    simp only [textOf_congr inner.label_eq]

theorem preludeParts_pruned {ns ms : List Node} (h : List.Forall₂ (Pruned permits) ns ms) :
    preludeParts source ms = preludeParts source ns := by
  induction h with
  | nil => rfl
  | cons first _ ih => simp only [preludeParts, textOf_congr first.label_eq, ih]

theorem preludeOf_pruned (h : Pruned permits n m) : preludeOf source m = preludeOf source n := by
  simp only [preludeOf, preludeParts_pruned (h.children.filter byLabel_isPreludePart)]

theorem nameOf_pruned (h : Pruned permits n m) : nameOf source m = nameOf source n := by
  unfold nameOf
  rcases h.child?_cases "property_name" (by decide) with ⟨hn, hm⟩ | ⟨a, b, hn, hm, inner⟩
  · rw [hn, hm]
  · rw [hn, hm]
    exact textOf_congr inner.label_eq

theorem valuesOf_pruned (h : Pruned permits n m) :
    List.Forall₂ (Pruned permits) (valuesOf n) (valuesOf m) := by
  refine h.children.filter ⟨?_, fun comment => by simp [comment]⟩
  rintro ⟨label, _⟩ ⟨_, _⟩ rfl
  rfl

theorem aboutItem_pruned (found : List (String × String)) (h : Pruned permits n m) :
    aboutItem source found m = aboutItem source found n := by
  have values := valuesOf_pruned h
  simp only [aboutItem, h.kind_eq, skip_congr h.label_eq, nameOf_pruned h]
  revert values
  generalize valuesOf n = ns
  generalize valuesOf m = ms
  intro values
  match values with
  | .nil => rfl
  | .cons value .nil => simp only [value.kind_eq, textOf_congr value.label_eq]
  | .cons _ (.cons _ _) => rfl

theorem functionName_pruned (h : Pruned permits n m) :
    functionName source m = functionName source n := by
  unfold functionName
  rcases h.child?_cases "function_name" (by decide) with ⟨hn, hm⟩ | ⟨_, _, hn, hm, name⟩
  · rw [hn, hm]
  · rw [hn, hm]
    simp only [textOf_congr name.label_eq]

theorem calledColor_pruned (h : Pruned permits n m) (name : String) :
    calledColor source m name = calledColor source n name := by
  unfold calledColor
  rcases h.child?_cases "arguments" (by decide) with ⟨hn, hm⟩ | ⟨_, _, hn, hm, arguments⟩
  · rw [hn, hm]
  · rw [hn, hm]
    cases Rgba.functions.lookup name with
    | none => rfl
    | some function => simp only [textOf_congr arguments.label_eq]

theorem callColor_pruned (h : Pruned permits n m) : callColor source m = callColor source n := by
  simp only [callColor, functionName_pruned h, calledColor_pruned h]

theorem colorOf_pruned {ns ms : List Node} (h : List.Forall₂ (Pruned permits) ns ms) :
    colorOf source ms = colorOf source ns := by
  match h with
  | .nil => rfl
  | .cons value .nil =>
      simp only [colorOf, value.kind_eq, textOf_congr value.label_eq, callColor_pruned value]
  | .cons _ (.cons _ _) => rfl

theorem rootItem_pruned (colors : Colors) (h : Pruned permits n m) :
    rootItem source colors m = rootItem source colors n := by
  simp only [rootItem, h.kind_eq, skip_congr h.label_eq, nameOf_pruned h,
    colorOf_pruned (valuesOf_pruned h)]

theorem isReference_pruned (h : Pruned permits n m) :
    isReference source m = isReference source n := by
  unfold isReference
  rw [h.kind_eq]
  rcases h.child?_cases "function_name" (by decide) with ⟨hn, hm⟩ | ⟨_, _, hn, hm, name⟩
  · rw [hn, hm]
  · rw [hn, hm]
    cases decide (n.kind = "call_expression") with
    | false => rfl
    | true => simp only [textOf_congr name.label_eq]

theorem refers_pruned (h : Pruned permits n m) : refers source m = refers source n := by
  simp only [refers, isReference_pruned h]

theorem aboutItems_pruned {ns ms : List Node} (h : List.Forall₂ (Pruned permits) ns ms) :
    ∀ found, aboutItems source found ms = aboutItems source found ns := by
  induction h with
  | nil => exact fun _ => rfl
  | cons first _ ih =>
      intro found
      simp only [aboutItems, aboutItem_pruned found first, ih]

theorem rootItems_pruned {ns ms : List Node} (h : List.Forall₂ (Pruned permits) ns ms) :
    ∀ colors, rootItems source colors ms = rootItems source colors ns := by
  induction h with
  | nil => exact fun _ => rfl
  | cons first _ ih =>
      intro colors
      simp only [rootItems, rootItem_pruned colors first, ih]

theorem rootOf_pruned (h : Pruned permits n m) : rootOf source m = rootOf source n :=
  rootItems_pruned (h.children.filter byLabel_isItem) []

theorem aboutRule_pruned (draft : Draft) (h : Pruned permits n m) :
    aboutRule source draft m = aboutRule source draft n := by
  simp only [aboutRule, keywordOf_pruned h, skip_congr h.label_eq]
  rcases h.child?_cases "block" (by decide) with ⟨hn, hm⟩ | ⟨_, _, hn, hm, block⟩
  · rw [hn, hm]
  · rw [hn, hm]
    simp only [aboutOf, aboutItems_pruned (block.children.filter byLabel_isItem), h.label_eq]

end Readers

/-! Readers of exposed children. -/

section Exposed

variable {n m : Node} {source : List UInt8}

theorem referenceOf_eq (call : Node) :
    referenceOf source call =
      match firstArgument? call with
      | some label => do return .ok (.ref (Text.strip (← textOf source (.mk label []))))
      | none => pure (.error .notColor) := by
  unfold referenceOf firstArgument?
  cases call.child? "arguments" with
  | none => rfl
  | some arguments =>
      simp only [Option.map_some, Option.bind_some]
      cases arguments.namedChildren with
      | nil => rfl
      | cons first _ => simp only [List.head?_cons, Option.map_some, textOf, Node.bytes]; rfl

theorem firstArgument?_of_refers (h : Pruned (ExposesSame source) n m)
    (refers_n : refers source n = true) : firstArgument? m = firstArgument? n := by
  have call : n.kind = "call_expression" := by
    by_contra other
    simp [refers, isReference, other] at refers_n
  have same := h.permitted
  have refers_m : refers source m = true := (refers_pruned h).trans refers_n
  simpa [ExposesSame, exposed?, h.kind_eq, call, refers_n, refers_m] using same

theorem Walk.bind_congr {α β : Type} {first : Walk α} {next other : α → Walk β}
    (same : ∀ a, first.outcome = .ok a → next a = other a) : first >>= next = first >>= other := by
  change Walk.bind first next = Walk.bind first other
  unfold Walk.bind
  cases outcome : first.outcome with
  | error failure => rfl
  | ok a => simp only [same a outcome]

theorem ruleOf_pruned {ns ms : List Node}
    (h : List.Forall₂ (Pruned (ExposesSame source)) ns ms) :
    ruleOf source ms = ruleOf source ns := by
  match h with
  | .nil => rfl
  | .cons (a := n) (b := m) value .nil =>
      have color : ruleColor source [m] = ruleColor source [n] := by
        simp only [ruleColor, colorOf_pruned (.cons value .nil)]
      simp only [ruleOf, isReference_pruned value]
      refine Walk.bind_congr fun answer outcome => ?_
      cases answer with
      | false => exact color
      | true =>
          have first := firstArgument?_of_refers value (by simp only [refers, outcome])
          simp only [↓reduceIte, referenceOf_eq, first]
  | .cons _ (.cons _ _) => rfl

theorem ruleDeclaration_pruned (rules : Rules) (h : Pruned (ExposesSame source) n m) :
    ruleDeclaration source rules m = ruleDeclaration source rules n := by
  simp only [ruleDeclaration, nameOf_pruned h, ruleOf_pruned (valuesOf_pruned h),
    skip_congr h.label_eq]

theorem ruleItem_pruned (rules : Rules) (h : Pruned (ExposesSame source) n m)
    (inner : ∀ block, n.child? "block" = some block → ∀ other,
      Pruned (ExposesSame source) block other → rulesOf source other = rulesOf source block) :
    ruleItem source rules m = ruleItem source rules n := by
  have body : (m.child? "block").map (rulesOf source) =
      (n.child? "block").map (rulesOf source) := by
    rcases h.child?_cases "block" (by decide) with ⟨hn, hm⟩ | ⟨block, other, hn, hm, pruned⟩
    · rw [hn, hm]
    · rw [hn, hm, Option.map_some, Option.map_some, inner block hn other pruned]
  cases h with
  | mk label rest permitted =>
      have h := Pruned.mk label rest permitted
      simp only [ruleItem, ruleDeclaration_pruned rules h, keywordOf_pruned h, preludeOf_pruned h,
        skip_congr h.label_eq, blockRules_eq source label, body]

theorem ruleItems_filter (items : List Node) (rules : Rules) :
    ruleItems source rules (items.filter isItem) = ruleItems source rules items := by
  induction items generalizing rules with
  | nil => rfl
  | cons item rest ih =>
      by_cases looked : isItem item = true
      · simp only [List.filter_cons_of_pos looked, ruleItems, looked, ↓reduceIte, ih]
      · rw [List.filter_cons_of_neg looked, ih, ruleItems, if_neg looked]
        rfl

theorem ruleItems_pruned {ns ms : List Node}
    (h : List.Forall₂ (Pruned (ExposesSame source)) ns ms)
    (inner : ∀ item ∈ ns, ∀ block, item.child? "block" = some block → ∀ other,
      Pruned (ExposesSame source) block other → rulesOf source other = rulesOf source block)
    (rules : Rules) : ruleItems source rules ms = ruleItems source rules ns := by
  induction h generalizing rules with
  | nil => rfl
  | cons first _ ih =>
      have behind := ih fun item member => inner item (List.mem_cons_of_mem _ member)
      simp only [ruleItems, byLabel_isItem.congr first.label_eq,
        ruleItem_pruned rules first (inner _ List.mem_cons_self), behind]

theorem rulesOf_pruned {n m : Node} (h : Pruned (ExposesSame source) n m) :
    rulesOf source m = rulesOf source n := by
  induction n using Node.block_induction generalizing m with
  | step n ih =>
      have items := h.children.filter byLabel_isItem
      have same := ruleItems_pruned items
        (fun item member => fun block found other pruned =>
          ih item (List.mem_of_mem_filter member) block found pruned) []
      rw [ruleItems_filter, ruleItems_filter] at same
      obtain ⟨_, _⟩ := n
      obtain ⟨_, _⟩ := m
      exact same

theorem match_loneTag {α : Type} {found : Node → α} {other : α}
    (byLabel : ∀ {n m : Node}, m.label = n.label → found m = found n) :
    ∀ nodes : List Node,
      (match nodes with
        | [tag] => if tag.kind = "tag_name" then found tag else other
        | _ => other) =
      (loneTag? nodes).elim other fun label => found (.mk label [])
  | [] => rfl
  | [tag] => by
      by_cases kind : tag.kind = "tag_name"
      · simp only [loneTag?, kind, ↓reduceIte, Option.elim_some]
        exact byLabel rfl
      · simp only [loneTag?, kind, ↓reduceIte, Option.elim_none]
  | _ :: _ :: _ => rfl

theorem ruleSet_pruned (draft : Draft) (h : Pruned (ExposesSame source) n m)
    (kind : n.kind = "rule_set") : ruleSet source draft m = ruleSet source draft n := by
  have same : soleTag? m = soleTag? n := by
    simpa [ExposesSame, exposed?, h.kind_eq, kind] using h.permitted
  unfold ruleSet
  rcases h.child?_cases "selectors" (by decide) with ⟨hn, hm⟩ | ⟨a, b, hn, hm, selectors⟩
  · simp only [hn, hm, skip_congr h.label_eq]
  rcases h.child?_cases "block" (by decide) with ⟨kn, km⟩ | ⟨_, _, kn, km, block⟩
  · simp only [hn, hm, kn, km, skip_congr h.label_eq]
  have sameTag : loneTag? b.namedChildren = loneTag? a.namedChildren := by
    simpa only [soleTag?, hn, hm, Option.bind_some] using same
  simp only [hn, hm, kn, km, textOf_congr selectors.label_eq, rootOf_pruned block,
    rulesOf_pruned block, skip_congr h.label_eq, h.label_eq]
  refine Walk.bind_congr fun text _ => ?_
  split
  · rfl
  · refine (match_loneTag (fun label => ?_) b.namedChildren).trans ?_
    · simp only [textOf_congr label]
    · rw [sameTag]
      symm
      refine match_loneTag (fun label => ?_) a.namedChildren
      simp only [textOf_congr label]

theorem topItem_pruned (draft : Draft) (h : Pruned (ExposesSame source) n m) :
    topItem source draft m = topItem source draft n := by
  simp only [topItem, h.kind_eq, aboutRule_pruned draft h, skip_congr h.label_eq]
  by_cases kind : n.kind = "rule_set"
  · rw [ruleSet_pruned draft h kind]
  · simp only [if_neg kind]

theorem topItems_pruned {ns ms : List Node}
    (h : List.Forall₂ (Pruned (ExposesSame source)) ns ms) :
    ∀ draft, topItems source draft ms = topItems source draft ns := by
  induction h with
  | nil => exact fun _ => rfl
  | cons first _ ih =>
      intro draft
      simp only [topItems, topItem_pruned draft first, ih]

end Exposed

/-! Taking all comments out. -/

mutual

def withoutComments : Node → Node
  | .mk label children => .mk label (withoutCommentsAll children)

def withoutCommentsAll : List Node → List Node
  | [] => []
  | n :: rest =>
      if n.isComment then withoutCommentsAll rest
      else withoutComments n :: withoutCommentsAll rest

end

section Permits

variable (permits : Node → Node → Prop) [DecidableRel permits]

mutual

def permitsBare : Node → Bool
  | .mk label children =>
      decide (permits (.mk label children) (withoutComments (.mk label children))) &&
        permitsBareAll children

def permitsBareAll : List Node → Bool
  | [] => true
  | n :: rest => (n.isComment || permitsBare n) && permitsBareAll rest

end

mutual

theorem pruned_withoutComments : ∀ n : Node, permitsBare permits n = true →
    Pruned permits n (withoutComments n)
  | .mk label children, permitted => by
      simp only [permitsBare, Bool.and_eq_true, decide_eq_true_eq] at permitted
      exact .mk label (prunedAll_withoutComments children permitted.2) permitted.1

theorem prunedAll_withoutComments : ∀ ns : List Node, permitsBareAll permits ns = true →
    PrunedAll permits ns (withoutCommentsAll ns)
  | [], _ => .nil
  | n :: rest, permitted => by
      simp only [permitsBareAll, Bool.and_eq_true, Bool.or_eq_true] at permitted
      have behind := prunedAll_withoutComments rest permitted.2
      rw [withoutCommentsAll]
      split
      next comment => exact .drop comment behind
      next other => exact .keep (pruned_withoutComments n (permitted.1.resolve_left other)) behind

end

end Permits

instance (source : List UInt8) : DecidableRel (ExposesSame source) := fun n m =>
  inferInstanceAs (Decidable (exposed? source m = exposed? source n))

/-- Taking comments out of a tree changes neither the warnings nor the outcome of the walk over it,
unless a comment was taken for the first argument of a reference or stood beside the tag of a rule
set. -/
theorem ofTree_pruned (source : List UInt8) {tree pruned : Node}
    (h : Pruned (ExposesSame source) tree pruned) :
    ofTree source pruned = ofTree source tree := by
  have items : List.Forall₂ (Pruned (ExposesSame source)) (tree.children.filter isTopItem)
      (pruned.children.filter isTopItem) := h.children.filter byLabel_isTopItem
  unfold ofTree
  rw [topItems_pruned items, h.label_eq]

def commentedText : String :=
  "/*0*/@chatterino\x7b/*1*/author:/*2*/\"a\";icon-set:\"b\"\x7d" ++
    "w/*3*/\x7b@nest/*4*/ a\x7by:rgb(/*5*/1,2,3)\x7dx:var(--b/*6*/)\x7d"

theorem ofTree_pruned_commentedText :
    let source := Text.encode commentedText
    let tree := Node.ofText commentedText
    Pruned (ExposesSame source) tree (withoutComments tree) ∧
      ofTree source (withoutComments tree) = ofTree source tree := by
  have pruned := pruned_withoutComments (ExposesSame (Text.encode commentedText))
    (Node.ofText commentedText) (by decide +kernel)
  exact ⟨pruned, ofTree_pruned _ pruned⟩

def colorsOf (source : List UInt8) (tree : Node) : Option (Option Colors) :=
  (ofTree source tree).outcome.toOption.map fun theme => theme.flatten.toOption.map (·.rules)

def commentedReference : String :=
  "@chatterino\x7bauthor:\"a\";icon-set:\"b\"\x7d:root\x7b--b:#fff\x7dw\x7bx:var(/*c*/--b)\x7d"

def nodeOn (kind : String) (start stop : Nat) (children : List Node) : Node :=
  .mk { kind, start, stop, startPoint := ⟨0, start⟩, stopPoint := ⟨0, stop⟩ } children

def taggedText : String := "@chatterino\x7bauthor:\"a\";icon-set:\"b\"\x7dw/**/\x7bx:#fff\x7d"

def declarationOn (kind : String) (start colon stop : Nat) : Node :=
  nodeOn "declaration" start stop
    [nodeOn "property_name" start colon [], nodeOn kind (colon + 1) stop []]

def taggedTree (beside : List Node) : Node :=
  nodeOn "stylesheet" 0 49 [
    nodeOn "at_rule" 0 36 [nodeOn "at_keyword" 0 11 [], nodeOn "block" 11 36
      [declarationOn "string_value" 12 18 22, declarationOn "string_value" 23 31 35]],
    nodeOn "rule_set" 36 49 [nodeOn "selectors" 36 41 (nodeOn "tag_name" 36 37 [] :: beside),
      nodeOn "block" 41 49 [declarationOn "color_value" 42 43 48]]]

/-- A comment before the argument of a reference is taken for the color referred to, which is not
defined; and a comment beside a tag hides the rule set of the tag. -/
theorem ofTree_reads_comments :
    (let source := Text.encode commentedReference
     let tree := Node.ofText commentedReference
     Pruned (fun _ _ => True) tree (withoutComments tree) ∧
       colorsOf source tree = some none ∧
       colorsOf source (withoutComments tree) = some (some [("w.x", ⟨255, 255, 255, 255⟩)])) ∧
    (let source := Text.encode taggedText
     let tree := taggedTree [nodeOn "comment" 37 41 []]
     Pruned (fun _ _ => True) tree (taggedTree []) ∧
       colorsOf source tree = some (some []) ∧
       colorsOf source (taggedTree []) = some (some [("w.x", ⟨255, 255, 255, 255⟩)])) := by
  have reference : permitsBare (fun _ _ => True) (Node.ofText commentedReference) = true ∧
      colorsOf (Text.encode commentedReference) (Node.ofText commentedReference) = some none ∧
      colorsOf (Text.encode commentedReference)
        (withoutComments (Node.ofText commentedReference)) =
          some (some [("w.x", ⟨255, 255, 255, 255⟩)]) := by decide +kernel
  refine ⟨⟨pruned_withoutComments _ _ reference.1, reference.2⟩,
    pruned_withoutComments _ (taggedTree [nodeOn "comment" 37 41 []]) (by decide +kernel), ?_, ?_⟩
  all_goals decide +kernel

end Palette.Theme
