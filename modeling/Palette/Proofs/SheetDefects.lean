import Palette.Proofs.ThemeOutcome
import Palette.Proofs.WalkReaders
import Mathlib.Data.List.Nodup

/-!
Which style sheets give a theme. The nodes at the top of a style sheet are about the theme, hold its
root colors, or hold the rules of a name; other nodes play no role. A style sheet is regular if one
node is about the theme and tells all there is to tell, and no role is played twice. A style sheet
that is not regular is refused at the first node with a defect, or at its end if nothing is told
about the theme.
-/

namespace Palette.Theme

open Stylesheet

/-! Roles of the nodes at the top. -/

inductive Role where
  | about
  | root
  | rules (name : String)
  deriving DecidableEq, Repr

def hasKeyword (source : List UInt8) (n : Node) (word : String) : Bool :=
  ((n.child? "at_keyword").bind (text? source)).any fun text =>
    Text.lower (String.ofList (text.toList.dropWhile (· = '@'))) = word

/-- The role of a rule set with a block, by its selectors. -/
def selected? (source : List UInt8) (selectors : Node) : Option Role :=
  (text? source selectors).bind fun text =>
    if Text.lower (Text.strip text) = ":root" then some .root
    else
      match selectors.namedChildren with
      | [tag] => if tag.kind = "tag_name" then (text? source tag).map .rules else none
      | _ => none

/-- The role of a node, if it has a block and is of the right form. -/
def role? (source : List UInt8) (n : Node) : Option Role :=
  if n.kind = "at_rule" then
    if hasKeyword source n "chatterino" && (n.child? "block").isSome then some .about else none
  else if n.kind = "rule_set" then
    if (n.child? "block").isSome then (n.child? "selectors").bind (selected? source) else none
  else none

def roles (source : List UInt8) (nodes : List Node) : List Role := nodes.filterMap (role? source)

def tellsItem (source : List UInt8) (item : Node) (key : String) : Bool :=
  item.kind = "declaration" &&
    ((item.child? "property_name").bind (text? source)).any (Text.lower · = key) &&
    (valuesOf item).map Node.kind = ["string_value"]

def tells (source : List UInt8) (block : Node) (key : String) : Bool :=
  (block.children.filter isItem).any (tellsItem source · key)

/-! Style sheets that give a theme. -/

def Role.name? : Role → Option String
  | .rules name => some name
  | .about | .root => none

/-- One node is about the theme, and its block tells all there is to tell; no more than one holds root
colors; and the nodes that hold rules have different names. -/
structure Regular (source : List UInt8) (nodes : List Node) : Prop where
  about : ∃ n block, nodes.filter (role? source · = some .about) = [n] ∧
    n.child? "block" = some block ∧ ∀ key ∈ aboutKeys, tells source block key = true
  root : (nodes.filter (role? source · = some .root)).length ≤ 1
  rules : ((roles source nodes).filterMap Role.name?).Nodup

/-! Defects of style sheets. -/

def lacking? (source : List UInt8) (block : Node) : Option String :=
  aboutKeys.find? fun key => !tells source block key

def incomplete? (source : List UInt8) (n : Node) : Option Defect :=
  if role? source n = some .about then
    ((n.child? "block").bind (lacking? source)).map .incompleteAbout
  else none

def Role.duplicate : Role → Defect
  | .about => .duplicateAbout
  | .root => .duplicateRoot
  | .rules name => .duplicateBlock name

def repeated? (source : List UInt8) (front : List Node) (n : Node) : Option Defect :=
  (role? source n).bind fun role =>
    if role ∈ roles source front then some role.duplicate else none

/-- What is wrong with a node behind those in front of it. -/
def defect? (source : List UInt8) (front : List Node) (n : Node) : Option Defect :=
  (incomplete? source n).or (repeated? source front n)

/-- The nodes with defects in the order of the style sheet, behind those in front of them. -/
def defects (source : List UInt8) (front : List Node) : List Node → List (Node × Defect)
  | [] => []
  | n :: rest =>
      ((defect? source front n).map fun cause => (n, cause)).toList ++
        defects source (front ++ [n]) rest

variable {source : List UInt8} {front : List Node} {n : Node}

theorem roles_concat (front : List Node) (n : Node) :
    roles source (front ++ [n]) = roles source front ++ (role? source n).toList := by
  rw [roles, List.filterMap_append]
  rfl

theorem count_names (roles : List Role) (name : String) :
    (roles.filterMap Role.name?).count name = roles.count (.rules name) := by
  rw [List.count_filterMap, List.count]
  apply List.countP_congr
  intro role _
  cases role <;> simp [Role.name?]

theorem nodup_roles_iff {roles : List Role} :
    roles.Nodup ↔ roles.count .about ≤ 1 ∧ roles.count .root ≤ 1 ∧
      (roles.filterMap Role.name?).Nodup := by
  simp only [List.nodup_iff_count_le_one, count_names]
  constructor
  · exact fun once => ⟨once .about, once .root, fun name => once (.rules name)⟩
  · rintro ⟨about, root, names⟩ role
    cases role with
    | about => exact about
    | root => exact root
    | rules name => exact names name

theorem count_roles (nodes : List Node) (role : Role) :
    (roles source nodes).count role = (nodes.filter (role? source · = some role)).length := by
  rw [roles, List.count_filterMap, List.countP_eq_length_filter]
  congr 1
  apply List.filter_congr
  intro n _
  by_cases same : role? source n = some role <;> simp [same]

theorem nodup_roles_concat (once : (roles source front).Nodup)
    (fine : repeated? source front n = none) : (roles source (front ++ [n])).Nodup := by
  rw [roles_concat]
  cases role : role? source n with
  | none => simpa using once
  | some role' =>
      have fresh : role' ∉ roles source front := by simpa [repeated?, role] using fine
      refine List.nodup_append.2 ⟨once, List.nodup_singleton role', ?_⟩
      intro other member last same
      rw [Option.toList_some, List.mem_singleton] at same
      intro equal
      exact fresh (same ▸ equal ▸ member)

theorem not_nodup_roles_of_repeated (rest : List Node) {cause : Defect}
    (again : repeated? source front n = some cause) : ¬ (roles source (front ++ n :: rest)).Nodup := by
  cases role : role? source n with
  | none => simp [repeated?, role] at again
  | some role' =>
      have known : role' ∈ roles source front := by
        by_contra fresh
        simp [repeated?, role, fresh] at again
      rw [roles, List.filterMap_append, List.filterMap_cons_some role]
      intro once
      exact (List.nodup_append.1 once).2.2 role' known role' List.mem_cons_self rfl

theorem defects_eq_nil_iff (nodes front : List Node) (once : (roles source front).Nodup) :
    defects source front nodes = [] ↔
      (∀ n ∈ nodes, incomplete? source n = none) ∧ (roles source (front ++ nodes)).Nodup := by
  induction nodes generalizing front with
  | nil => simpa [defects] using once
  | cons n rest ih =>
      rw [defects, List.append_eq_nil_iff, List.forall_mem_cons, Option.toList_eq_nil_iff,
        Option.map_eq_none_iff, defect?, Option.or_eq_none_iff]
      cases again : repeated? source front n with
      | some cause => simp [not_nodup_roles_of_repeated rest again]
      | none =>
          rw [ih _ (nodup_roles_concat once again), List.append_assoc, List.singleton_append]
          tauto

theorem lacking?_eq_none_iff {block : Node} :
    lacking? source block = none ↔ ∀ key ∈ aboutKeys, tells source block key = true := by
  simp [lacking?]

theorem exists_block_of_about (about : role? source n = some .about) :
    ∃ block, n.child? "block" = some block := by
  unfold role? at about
  split at about
  · split at about
    next both =>
      rw [Bool.and_eq_true] at both
      exact Option.isSome_iff_exists.1 both.2
    next => cases about
  · split at about
    · split at about
      next body => exact Option.isSome_iff_exists.1 body
      next => cases about
    · cases about

theorem incomplete?_eq_none_iff {block : Node} (about : role? source n = some .about)
    (body : n.child? "block" = some block) :
    incomplete? source n = none ↔ ∀ key ∈ aboutKeys, tells source block key = true := by
  simp [incomplete?, about, body, lacking?_eq_none_iff]

theorem regular_iff (nodes : List Node) :
    Regular source nodes ↔ defects source [] nodes = [] ∧ .about ∈ roles source nodes := by
  have none := @defects_eq_nil_iff source nodes [] List.nodup_nil
  rw [none, List.nil_append, nodup_roles_iff]
  constructor
  · rintro ⟨⟨n, block, only, body, told⟩, root, rules⟩
    have listed : ∀ m ∈ nodes, role? source m = some .about → m = n := fun m member about => by
      have found : m ∈ nodes.filter (role? source · = some .about) :=
        List.mem_filter.2 ⟨member, by simpa using about⟩
      rw [only] at found
      exact List.mem_singleton.1 found
    have counted : (roles source nodes).count .about = 1 := by
      rw [count_roles, only, List.length_singleton]
    refine ⟨⟨fun m member => ?_, counted.le, by rwa [count_roles], rules⟩, ?_⟩
    · by_cases about : role? source m = some .about
      · obtain rfl := listed m member about
        exact (incomplete?_eq_none_iff about body).2 told
      · simp [incomplete?, about]
    · exact List.count_pos_iff.1 (counted ▸ Nat.one_pos)
  · rintro ⟨⟨complete, about, root, rules⟩, member⟩
    have counted : (nodes.filter (role? source · = some .about)).length = 1 := by
      rw [← count_roles]
      exact le_antisymm about (List.count_pos_iff.2 member)
    obtain ⟨n, only⟩ := List.length_eq_one_iff.1 counted
    have chosen : n ∈ nodes.filter (role? source · = some .about) := only ▸ List.mem_singleton_self n
    obtain ⟨listed, plays⟩ := List.mem_filter.1 chosen
    have plays := of_decide_eq_true plays
    obtain ⟨block, body⟩ := exists_block_of_about plays
    exact ⟨⟨n, block, only, body, (incomplete?_eq_none_iff plays body).1 (complete n listed)⟩,
      by rwa [← count_roles], rules⟩

/-! Outcomes of the walk. -/

namespace Walk

variable {α β : Type} {first : Walk α} {next : α → Walk β} {middle : α → Prop} {good : β → Prop}
  {bad worse : Defect → Nat → Nat → Prop}

/-- What holds of the result, if the walk gives one, and of the defect and its place, if the walk ends
for a defect. -/
structure Settles (w : Walk β) (good : β → Prop) (bad : Defect → Nat → Nat → Prop) : Prop where
  ok : ∀ b, w.outcome = .ok b → good b
  defect : ∀ cause line column, w.outcome = .error (.defect cause line column) →
    bad cause line column

theorem settles_pure {b : β} (h : good b) : (pure b : Walk β).Settles good bad := by
  refine ⟨fun b' same => ?_, nofun⟩
  obtain rfl := Except.ok.inj same
  exact h

theorem settles_failAt {defect : Defect} {point : Point}
    (h : bad defect (point.row + 1) (point.column + 1)) :
    (failAt defect point : Walk β).Settles good bad := by
  refine ⟨nofun, fun cause line column same => ?_⟩
  cases same
  exact h

theorem Settles.bind (h : first.Settles middle bad)
    (hn : ∀ a, middle a → (next a).Settles good bad) : (first >>= next).Settles good bad := by
  cases ended : first.outcome with
  | error failure =>
      refine ⟨fun b same => ?_, fun cause line column same => ?_⟩
      · cases (outcome_bind_error ended).symm.trans same
      · obtain rfl := Except.error.inj ((outcome_bind_error ended).symm.trans same)
        exact h.defect cause line column ended
  | ok a =>
      obtain ⟨ok, defect⟩ := hn a (h.ok a ended)
      exact ⟨fun b same => ok b ((outcome_bind_ok ended).symm.trans same),
        fun cause line column same =>
          defect cause line column ((outcome_bind_ok ended).symm.trans same)⟩

theorem Settles.weaken (h : first.Settles middle bad)
    (weaker : ∀ cause line column, bad cause line column → worse cause line column) :
    first.Settles middle worse :=
  ⟨h.ok, fun cause line column same => weaker _ _ _ (h.defect cause line column same)⟩

theorem Quiet.settles (h : first.Quiet) : first.Settles (first.outcome = .ok ·) bad :=
  ⟨fun _ same => same, fun cause line column same => absurd same (h.blameless cause line column)⟩

theorem Quiet.bind_settles (h : first.Quiet)
    (hn : ∀ a, first.outcome = .ok a → (next a).Settles good bad) :
    (first >>= next).Settles good bad :=
  h.settles.bind hn

end Walk

open Walk

variable {bad : Defect → Nat → Nat → Prop}

theorem skip_settles {α : Type} {good : α → Prop} {reason : Reason} {a : α} (h : good a) :
    (do skip source n reason; return a : Walk α).Settles good bad := by
  have skipped : (skip source n reason).Settles (fun _ => True) bad :=
    (textOf_quiet n).bind_settles fun _ _ => ⟨fun _ _ => trivial, nofun⟩
  exact skipped.bind fun _ _ => settles_pure h

/-! Blocks of colors and rules have no defects. -/

theorem rootItem_settles (colors : Colors) (item : Node) :
    (rootItem source colors item).Settles (fun _ => True) bad := by
  unfold rootItem
  split
  · exact skip_settles trivial
  · refine (nameOf_quiet item).bind_settles fun name _ => ?_
    refine (colorOf_quiet (valuesOf item)).bind_settles fun read _ => ?_
    cases read with
    | ok color => exact settles_pure trivial
    | error refusal => exact skip_settles trivial

theorem rootItems_settles (items : List Node) (colors : Colors) :
    (rootItems source colors items).Settles (fun _ => True) bad := by
  induction items generalizing colors with
  | nil => exact settles_pure trivial
  | cons item rest ih => exact (rootItem_settles colors item).bind fun next _ => ih next

theorem ruleDeclaration_settles (rules : Rules) (item : Node) :
    (ruleDeclaration source rules item).Settles (fun _ => True) bad := by
  refine (nameOf_quiet item).bind_settles fun name _ => ?_
  refine (ruleOf_quiet (valuesOf item)).bind_settles fun read _ => ?_
  cases read with
  | ok rule => exact settles_pure trivial
  | error refusal => exact skip_settles trivial

theorem ruleItem_settles (rules : Rules) (item : Node)
    (inner : ∀ block, item.child? "block" = some block →
      (rulesOf source block).Settles (fun _ => True) bad) :
    (ruleItem source rules item).Settles (fun _ => True) bad := by
  obtain ⟨label, children⟩ := item
  rw [ruleItem, blockRules_eq source label]
  split
  · exact ruleDeclaration_settles rules _
  · split
    · refine (keywordOf_quiet _).bind_settles fun keyword _ => ?_
      split
      · exact skip_settles trivial
      · refine (preludeOf_quiet _).bind_settles fun name _ => ?_
        cases found : (Node.mk label children).child? "block" with
        | none => exact skip_settles trivial
        | some block =>
            dsimp only [Option.map_some]
            split
            · exact (inner block found).bind fun _ _ => settles_pure trivial
            · exact skip_settles trivial
    · exact skip_settles trivial

theorem ruleItems_settles (items : List Node)
    (inner : ∀ item ∈ items, ∀ block, item.child? "block" = some block →
      (rulesOf source block).Settles (fun _ => True) bad) (rules : Rules) :
    (ruleItems source rules items).Settles (fun _ => True) bad := by
  induction items generalizing rules with
  | nil =>
      rw [ruleItems]
      exact settles_pure trivial
  | cons item rest ih =>
      have behind := ih fun other member => inner other (List.mem_cons_of_mem item member)
      rw [ruleItems]
      split
      · exact (ruleItem_settles rules item (inner item List.mem_cons_self)).bind fun next _ =>
          behind next
      · exact behind rules

theorem rulesOf_settles (block : Node) :
    (rulesOf source block).Settles (fun _ => True) bad := by
  induction block using Node.block_induction with
  | step block ih =>
      obtain ⟨label, children⟩ := block
      rw [rulesOf]
      exact ruleItems_settles children ih []

/-! The block about the theme. -/

theorem keywordOf_settles :
    (keywordOf source n).Settles (fun keyword => ∀ word, word ≠ "" →
      hasKeyword source n word = decide (keyword = word)) bad := by
  unfold keywordOf
  split
  next node found =>
    refine (textOf_quiet node).bind_settles fun text read => settles_pure fun word _ => ?_
    simp [hasKeyword, found, textOf_eq_ok.1 read]
  next missing =>
    refine settles_pure fun word nonempty => ?_
    simp [hasKeyword, missing, nonempty.symm]

theorem nameOf_settles :
    (nameOf source n).Settles (fun name => ∀ key, key ≠ "" →
      ((n.child? "property_name").bind (text? source)).any (Text.lower · = key) =
        decide (Text.lower name = key)) bad := by
  unfold nameOf
  split
  next node found =>
    refine ⟨fun name read key _ => ?_, (textOf_quiet node).settles.defect⟩
    simp [found, textOf_eq_ok.1 read]
  next missing =>
    refine settles_pure fun key nonempty => ?_
    have blank : Text.lower "" = "" := rfl
    simp [missing, blank, nonempty.symm]

/-- What is found behind some items is what was found before and what they tell. -/
def Gathered (source : List UInt8) (found : List (String × String)) (items : List Node)
    (next : List (String × String)) : Prop :=
  ∀ key ∈ aboutKeys, (next.lookup key).isSome =
    ((found.lookup key).isSome || items.any (tellsItem source · key))

theorem aboutItem_settles (found : List (String × String)) (item : Node) :
    (aboutItem source found item).Settles (Gathered source found [item]) bad := by
  have nonempty : ∀ key ∈ aboutKeys, key ≠ "" := by decide
  unfold aboutItem
  split
  next other => exact skip_settles fun key _ => by simp [tellsItem, other]
  next kind =>
    rw [Classical.not_not] at kind
    refine nameOf_settles.bind fun name named => ?_
    dsimp only
    split
    next unknown =>
      refine skip_settles fun key member => ?_
      have other : Text.lower name ≠ key := fun same => by simp [same, member] at unknown
      simp [tellsItem, named key (nonempty key member), other]
    next known =>
      split
      next value single =>
        split
        next string =>
          refine (textOf_quiet value).bind_settles fun text _ => settles_pure fun key member => ?_
          rw [Ordered.lookup_put]
          by_cases same : key = Text.lower name
          · subst same
            simp [tellsItem, kind, single, string, named _ (nonempty _ member)]
          · simp [tellsItem, named key (nonempty key member), same, Ne.symm same]
        next other =>
          refine skip_settles fun key _ => ?_
          simp [tellsItem, single, other]
      next several =>
        refine skip_settles fun key _ => ?_
        have unlike : (valuesOf item).map Node.kind ≠ ["string_value"] := fun lone =>
          have ⟨value, single, _⟩ := List.map_eq_singleton_iff.1 lone
          several value single
        simp [tellsItem, unlike]

theorem aboutItems_settles (items : List Node) (found : List (String × String)) :
    (aboutItems source found items).Settles (Gathered source found items) bad := by
  induction items generalizing found with
  | nil => exact settles_pure fun key _ => by simp
  | cons item rest ih =>
      refine (aboutItem_settles found item).bind fun next told => ?_
      refine ⟨fun last ended key member => ?_, (ih next).defect⟩
      rw [(ih next).ok last ended key member, told key member, Bool.or_assoc, List.any_cons]
      simp

theorem aboutOf_settles (block : Node)
    (lacks : ∀ key, lacking? source block = some key →
      bad (.incompleteAbout key) (n.label.startPoint.row + 1) (n.label.startPoint.column + 1)) :
    (aboutOf source n block).Settles (fun _ => lacking? source block = none) bad := by
  refine (aboutItems_settles (block.children.filter isItem) []).bind fun found told => ?_
  have author : (found.lookup "author").isSome = tells source block "author" :=
    told "author" (by decide)
  have iconSet : (found.lookup "icon-set").isSome = tells source block "icon-set" :=
    told "icon-set" (by decide)
  split
  next one two => exact settles_pure (by simp [lacking?, aboutKeys, ← author, ← iconSet, one, two])
  next one => exact settles_failAt (lacks _ (by simp [lacking?, aboutKeys, ← author, one]))
  next one two =>
    exact settles_failAt (lacks _ (by simp [lacking?, aboutKeys, ← author, ← iconSet, one, two]))

/-! The nodes at the top, one after the other. -/

def Draft.has (draft : Draft) : Role → Bool
  | .about => draft.about.isSome
  | .root => draft.colors.isSome
  | .rules name => (draft.rules.lookup name).isSome

/-- The draft has what the nodes in front give to the theme. -/
def Seen (source : List UInt8) (front : List Node) (draft : Draft) : Prop :=
  ∀ role, draft.has role = true ↔ role ∈ roles source front

def Located (point : Point) (line column : Nat) : Prop :=
  line = point.row + 1 ∧ column = point.column + 1

structure Admits (source : List UInt8) (front : List Node) (n : Node) (next : Draft) : Prop where
  fine : defect? source front n = none
  seen : Seen source (front ++ [n]) next

def Blames (source : List UInt8) (front : List Node) (n : Node) (cause : Defect)
    (line column : Nat) : Prop :=
  defect? source front n = some cause ∧ Located n.label.startPoint line column

variable {draft next : Draft} {role : Role}

theorem Seen.admits_same (seen : Seen source front draft) (idle : role? source n = none) :
    Admits source front n draft := by
  refine ⟨by simp [defect?, incomplete?, repeated?, idle], fun role => ?_⟩
  rw [roles_concat, idle]
  simpa using seen role

theorem Seen.admits_new (seen : Seen source front draft) (plays : role? source n = some role)
    (complete : incomplete? source n = none) (fresh : draft.has role = false)
    (grown : ∀ other, next.has other = (draft.has other || decide (other = role))) :
    Admits source front n next := by
  have new : role ∉ roles source front := by simpa [fresh] using (seen role).not
  refine ⟨by simp [defect?, complete, repeated?, plays, new], fun other => ?_⟩
  rw [grown, roles_concat, plays]
  simp [seen other]

theorem Seen.blames (seen : Seen source front draft) (plays : role? source n = some role)
    (complete : incomplete? source n = none) (known : draft.has role = true) :
    Blames source front n role.duplicate (n.label.startPoint.row + 1)
      (n.label.startPoint.column + 1) := by
  have again : role ∈ roles source front := (seen role).1 known
  exact ⟨by simp [defect?, complete, repeated?, plays, again], rfl, rfl⟩

theorem aboutRule_settles (seen : Seen source front draft) (kind : n.kind = "at_rule") :
    (aboutRule source draft n).Settles (Admits source front n) (Blames source front n) := by
  refine keywordOf_settles.bind fun keyword read => ?_
  have about := read "chatterino" (by decide)
  split
  next other => exact skip_settles (seen.admits_same (by simp [role?, kind, about, other]))
  next chatterino =>
    split
    next missing => exact skip_settles (seen.admits_same (by simp [role?, kind, missing]))
    next block body =>
      have plays : role? source n = some .about := by
        simp [role?, kind, body, about, Classical.not_not.1 chatterino]
      have lacks : ∀ key, lacking? source block = some key → Blames source front n
          (.incompleteAbout key) (n.label.startPoint.row + 1) (n.label.startPoint.column + 1) :=
        fun key lacking => ⟨by simp [defect?, incomplete?, plays, body, lacking], rfl, rfl⟩
      -- The block is read before the node is compared with those in front, so what it lacks comes
      -- before a repetition.
      refine (aboutOf_settles block lacks).bind fun about complete => ?_
      have complete : incomplete? source n = none := by simp [incomplete?, body, complete]
      split
      next known => exact settles_failAt (seen.blames plays complete known)
      next fresh =>
        refine settles_pure (seen.admits_new plays complete (eq_false_of_ne_true fresh) ?_)
        rintro (_ | _ | name) <;> simp [Draft.has]

theorem incomplete?_of_ne_about (plays : role? source n = some role) (other : role ≠ .about) :
    incomplete? source n = none := by
  simp [incomplete?, plays, other]

theorem ruleSet_settles (seen : Seen source front draft) (kind : n.kind = "rule_set") :
    (ruleSet source draft n).Settles (Admits source front n) (Blames source front n) := by
  unfold ruleSet
  split
  next selectors block chosen body =>
    have role : role? source n = selected? source selectors := by
      simp [role?, kind, chosen, body]
    refine (textOf_quiet selectors).bind_settles fun text read => ?_
    have read : text? source selectors = some text := textOf_eq_ok.1 read
    dsimp only
    split
    next root =>
      have plays : role? source n = some .root := by simp [role, selected?, read, root]
      have complete := incomplete?_of_ne_about plays (by simp)
      refine (rootItems_settles (block.children.filter isItem) []).bind fun colors _ => ?_
      split
      next known => exact settles_failAt (seen.blames plays complete known)
      next fresh =>
        refine settles_pure (seen.admits_new plays complete (eq_false_of_ne_true fresh) ?_)
        rintro (_ | _ | name) <;> simp [Draft.has]
    next notRoot =>
      split
      next tag lone =>
        split
        next named =>
          refine (textOf_quiet tag).bind_settles fun name read' => ?_
          have read' : text? source tag = some name := textOf_eq_ok.1 read'
          have plays : role? source n = some (.rules name) := by
            simp [role, selected?, read, notRoot, lone, named, read']
          have complete := incomplete?_of_ne_about plays (by simp)
          refine (rulesOf_settles block).bind fun rules _ => ?_
          split
          next known => exact settles_failAt (seen.blames plays complete known)
          next fresh =>
            refine settles_pure (seen.admits_new plays complete (eq_false_of_ne_true fresh) ?_)
            rintro (_ | _ | other)
            · simp [Draft.has]
            · simp [Draft.has]
            · by_cases same : other = name <;> simp [Draft.has, Ordered.lookup_put, same]
        next other =>
          refine skip_settles (seen.admits_same ?_)
          simp [role, selected?, read, notRoot, lone, other]
      next several =>
        refine skip_settles (seen.admits_same ?_)
        rw [role, selected?, read, Option.bind_some, if_neg notRoot]
        split
        next tag lone => exact absurd lone (several tag)
        next => rfl
  next missing =>
    refine skip_settles (seen.admits_same ?_)
    cases body : n.child? "block" with
    | none => simp [role?, kind, body]
    | some block =>
        cases chosen : n.child? "selectors" with
        | none => simp [role?, kind, chosen]
        | some selectors => exact (missing selectors block chosen body).elim

theorem topItem_settles (seen : Seen source front draft) :
    (topItem source draft n).Settles (Admits source front n) (Blames source front n) := by
  unfold topItem
  split
  next kind => exact aboutRule_settles seen kind
  next notAt =>
    split
    next kind => exact ruleSet_settles seen kind
    next notSet => exact skip_settles (seen.admits_same (by simp [role?, notAt, notSet]))

/-- The walk over some nodes comes to its end if none has a defect, and ends at the first that has
one. -/
theorem topItems_settles (nodes front : List Node) (draft : Draft)
    (seen : Seen source front draft) :
    (topItems source draft nodes).Settles
      (fun last => defects source front nodes = [] ∧ Seen source (front ++ nodes) last)
      (fun cause line column => ∃ n, (defects source front nodes).head? = some (n, cause) ∧
        Located n.label.startPoint line column) := by
  induction nodes generalizing front draft with
  | nil => exact settles_pure ⟨rfl, by rwa [List.append_nil]⟩
  | cons n rest ih =>
      -- A defect of `n` is the first one, since none was found in front.
      have step : (topItem source draft n).Settles (Admits source front n) fun cause line column =>
          ∃ m, (defects source front (n :: rest)).head? = some (m, cause) ∧
            Located m.label.startPoint line column :=
        (topItem_settles seen).weaken fun cause line column blamed =>
          ⟨n, by simp [defects, blamed.1], blamed.2⟩
      refine step.bind fun next admitted => ?_
      have behind := ih (front ++ [n]) next admitted.seen
      rw [List.append_assoc, List.singleton_append] at behind
      simpa only [defects, admitted.fine, Option.map_none, Option.toList_none, List.nil_append]
        using behind

/-- Why and where a style sheet is refused: for the first node with a defect, at its start, or at the
end of the tree if there are no defects and nothing is told about the theme. -/
inductive RefusedAt (source : List UInt8) (tree : Node) : Defect → Nat → Nat → Prop
  | node {n : Node} {cause : Defect} {line column : Nat}
      (first : (defects source [] (tree.children.filter isTopItem)).head? = some (n, cause))
      (place : Located n.label.startPoint line column) : RefusedAt source tree cause line column
  | finish {line column : Nat} (fine : defects source [] (tree.children.filter isTopItem) = [])
      (missing : .about ∉ roles source (tree.children.filter isTopItem))
      (place : Located tree.label.stopPoint line column) : RefusedAt source tree .noAbout line column

theorem ofTree_settles (tree : Node) :
    (ofTree source tree).Settles (fun _ => Regular source (tree.children.filter isTopItem))
      (RefusedAt source tree) := by
  have start : Seen source [] {} := by
    rintro (_ | _ | name) <;> simp [Draft.has, roles]
  refine Settles.bind ((topItems_settles (tree.children.filter isTopItem) [] {} start).weaken
    fun _ _ _ ⟨n, first, place⟩ => .node first place) fun draft ⟨fine, seen⟩ => ?_
  have about := seen .about
  split
  next found =>
    refine settles_pure ((regular_iff _).2 ⟨fine, about.1 ?_⟩)
    simp [Draft.has, found]
  next missing =>
    refine settles_failAt (.finish fine (fun member => ?_) ⟨rfl, rfl⟩)
    simpa [Draft.has, missing] using about.2 member

theorem RefusedAt.not_regular {tree : Node} {cause : Defect} {line column : Nat}
    (refused : RefusedAt source tree cause line column) :
    ¬ Regular source (tree.children.filter isTopItem) := by
  intro regular
  obtain ⟨fine, about⟩ := (regular_iff _).1 regular
  cases refused with
  | node first place =>
      rw [fine] at first
      cases first
  | finish fine missing place => exact missing about

/-- A walk over a tree that ends with a theme or for a defect ends with a theme exactly if the style
sheet is regular, and otherwise for the defect that comes first. -/
theorem ofTree_regular (source : List UInt8) (tree : Node)
    (ends : (∃ theme, (ofTree source tree).outcome = .ok theme) ∨
      ∃ cause line column, (ofTree source tree).outcome = .error (.defect cause line column)) :
    ((∃ theme, (ofTree source tree).outcome = .ok theme) ↔
      Regular source (tree.children.filter isTopItem)) ∧
    ∀ cause line column, (ofTree source tree).outcome = .error (.defect cause line column) →
      RefusedAt source tree cause line column := by
  have settles := @ofTree_settles source tree
  refine ⟨⟨fun ⟨theme, ended⟩ => settles.ok theme ended, fun regular => ?_⟩, settles.defect⟩
  rcases ends with returned | ⟨cause, line, column, ended⟩
  · exact returned
  · exact absurd regular (settles.defect cause line column ended).not_regular

theorem Walk.outcome_of_failure? {α : Type} {w : Walk α} {failure : Failure}
    (failed : w.failure? = some failure) : w.outcome = .error failure := by
  unfold Walk.failure? at failed
  split at failed
  next => cases failed
  next failure' ended => rw [ended, Option.some.inj failed]

theorem Walk.exists_of_failure? {α : Type} {w : Walk α} (none : w.failure? = none) :
    ∃ a, w.outcome = .ok a := by
  unfold Walk.failure? at none
  split at none
  next a ended => exact ⟨a, ended⟩
  next => cases none

def regularText : String :=
  "@chatterino;a.b\x7b\x7d@Chatterino\x7bAuthor:'a';icon-set:'b'\x7d:Root\x7b\x7dv\x7b\x7d"

def repeatedText : String :=
  "v\x7b\x7d:root\x7b\x7d@chatterino\x7bauthor:'a';icon-set:'b'\x7dw\x7b\x7d:Root\x7b\x7dw\x7b\x7d"

theorem ofTree_regular_texts :
    Regular (Text.encode regularText) ((Node.ofText regularText).children.filter isTopItem) ∧
    (ofTree (Text.encode repeatedText) (Node.ofText repeatedText)).outcome =
      .error (.defect .duplicateRoot 1 50) ∧
    RefusedAt (Text.encode repeatedText) (Node.ofText repeatedText) .duplicateRoot 1 50 := by
  have returned : ∃ theme,
      (ofTree (Text.encode regularText) (Node.ofText regularText)).outcome = .ok theme :=
    Walk.exists_of_failure? (by decide +kernel)
  have ended : (ofTree (Text.encode repeatedText) (Node.ofText repeatedText)).outcome =
      .error (.defect .duplicateRoot 1 50) :=
    Walk.outcome_of_failure? (by decide +kernel)
  exact ⟨(ofTree_regular _ _ (.inl returned)).1.1 returned, ended,
    (ofTree_regular _ _ (.inr ⟨_, _, _, ended⟩)).2 _ _ _ ended⟩

end Palette.Theme
