import Palette.Layout.Resolve
import Mathlib.Data.List.Basic

/-!
What resolving a layout source leaves behind. Definitions stand in the order in which they were
resolved, so each refers to earlier ones only, and the counts noted in it are those of the
definitions that it refers to. A step of the resolver may add definitions, but never one that is
still under way; hence a definition that comes back from a reference is the only one of its name.
-/

namespace Palette

theorem bind_eq_ok_iff {ε α β : Type} {first : Except ε α} {next : α → Except ε β} {result : β} :
    (first >>= next) = .ok result ↔ ∃ value, first = .ok value ∧ next value = .ok result := by
  cases first <;> simp [bind, Except.bind]

theorem map_eq_ok_iff {ε α β : Type} {outcome : Except ε α} {f : α → β} {result : β} :
    outcome.map f = .ok result ↔ ∃ value, outcome = .ok value ∧ f value = result := by
  cases outcome <;> simp [Except.map]

theorem mapError_eq_ok_iff {ε δ α : Type} {outcome : Except ε α} {f : ε → δ} {result : α} :
    outcome.mapError f = .ok result ↔ outcome = .ok result := by
  cases outcome with
  | ok value =>
      change Except.ok value = Except.ok result ↔ _
      simp
  | error error => exact ⟨nofun, nofun⟩

theorem toOption_eq_some_iff {ε α : Type} {outcome : Except ε α} {result : α} :
    outcome.toOption = some result ↔ outcome = .ok result := by
  cases outcome <;> simp [Except.toOption]

namespace Layout

/-! ### Counts -/

mutual

/-- All counts noted in the item are right, provided that those of the definitions are. -/
def Item.Counted (known : Definitions) : Item → Prop
  | .field _ => True
  | .ref _ referenced count =>
      ∃ definition, known.lookup referenced = some definition ∧ count = definition.count
  | .struct _ fields count => count = countAll fields ∧ CountedAll known fields

def CountedAll (known : Definitions) : List Item → Prop
  | [] => True
  | item :: rest => item.Counted known ∧ CountedAll known rest

end

@[simp]
theorem countAll_cons (item : Item) (rest : List Item) :
    countAll (item :: rest) = item.count + countAll rest := rfl

theorem countAll_fields (names : List String) : countAll (names.map .field) = names.length := by
  induction names with
  | nil => rfl
  | cons name names ih =>
      rw [List.map_cons, countAll_cons, ih, Item.count, List.length_cons]
      omega

theorem countedAll_fields (known : Definitions) (names : List String) :
    CountedAll known (names.map .field) := by
  induction names with
  | nil => trivial
  | cons name names ih => exact ⟨trivial, ih⟩

theorem lookup_of_isPrefix {α : Type} {known later : List (String × α)} {name : String} {value : α}
    (grown : known <+: later) (found : known.lookup name = some value) :
    later.lookup name = some value := by
  obtain ⟨added, rfl⟩ := grown
  rw [List.lookup_append, found]
  rfl

mutual

theorem Item.Counted.mono {known later : Definitions} (grown : known <+: later) {item : Item}
    (counted : item.Counted known) : item.Counted later := by
  cases item with
  | field name => trivial
  | ref name referenced count =>
      obtain ⟨definition, found, same⟩ := counted
      exact ⟨definition, lookup_of_isPrefix grown found, same⟩
  | struct name fields count => exact ⟨counted.1, counted.2.mono grown⟩

theorem CountedAll.mono {known later : Definitions} (grown : known <+: later) {items : List Item}
    (counted : CountedAll known items) : CountedAll later items := by
  cases items with
  | nil => trivial
  | cons item rest => exact ⟨counted.1.mono grown, counted.2.mono grown⟩

end

/-! ### Definitions in order -/

/-- Each definition refers to earlier ones only, and its counts are right. -/
inductive Settled : Definitions → Prop where
  | nil : Settled []
  | snoc {known : Definitions} (name : String) {definition : Definition} (earlier : Settled known)
      (total : definition.count = countAll definition.fields)
      (counted : CountedAll known definition.fields) : Settled (known ++ [(name, definition)])

theorem Settled.counted {definitions : Definitions} (settled : Settled definitions) :
    ∀ entry ∈ definitions, entry.2.count = countAll entry.2.fields ∧
      CountedAll definitions entry.2.fields := by
  induction settled with
  | nil => simp
  | @snoc known name definition _ total counted ih =>
      have grown : known <+: known ++ [(name, definition)] := List.prefix_append _ _
      intro entry member
      rcases List.mem_append.mp member with before | last
      · exact ⟨(ih entry before).1, (ih entry before).2.mono grown⟩
      · obtain rfl := List.mem_singleton.mp last
        exact ⟨total, counted.mono grown⟩

/-- What the definitions `known` may become while those in `pending` are under way. Once all of
`definitions` are known, nothing changes any more. -/
structure Grows (definitions : List (String × Struct)) (pending : List String)
    (known later : Definitions) : Prop where
  grown : known <+: later
  settled : Settled known → Settled later
  apart : ∀ name ∈ pending, known.lookup name = none → later.lookup name = none
  complete : (∀ entry ∈ definitions, known.lookup entry.1 ≠ none) → later = known

section Growth

variable {definitions : List (String × Struct)} {pending : List String}

theorem Grows.refl (known : Definitions) : Grows definitions pending known known where
  grown := List.prefix_rfl
  settled := id
  apart _ _ := id
  complete _ := rfl

theorem Grows.trans {known middle later : Definitions}
    (first : Grows definitions pending known middle)
    (second : Grows definitions pending middle later) : Grows definitions pending known later where
  grown := first.grown.trans second.grown
  settled := second.settled ∘ first.settled
  apart name member fresh := second.apart name member (first.apart name member fresh)
  complete all := by
    obtain rfl := first.complete all
    exact second.complete all

theorem Grows.weaken {name : String} {known later : Definitions}
    (grows : Grows definitions (name :: pending) known later) :
    Grows definitions pending known later where
  grown := grows.grown
  settled := grows.settled
  apart other member := grows.apart other (List.mem_cons_of_mem name member)
  complete := grows.complete

/-- Following a reference gives the one definition of that name. -/
def Follow.Faithful (definitions : List (String × Struct)) (pending : List String)
    (follow : Follow) : Prop :=
  ∀ name known definition later, follow name known = .ok (definition, later) →
    Grows definitions pending known later ∧ later.lookup name = some definition

variable {follow : Follow}

mutual

theorem Struct.convert_grows (faithful : follow.Faithful definitions pending) {name : String}
    {struct : Struct} {known later : Definitions} {item : Item}
    (converted : struct.convert follow name known = .ok (item, later)) :
    Grows definitions pending known later ∧ item.Counted later := by
  match struct with
  | .mk .absent none => simp [Struct.convert] at converted
  | .mk .absent (some target) =>
      simp only [Struct.convert, bind_eq_ok_iff] at converted
      obtain ⟨⟨definition, next⟩, followed, same⟩ := converted
      obtain ⟨rfl, rfl⟩ := Prod.mk.inj (Except.ok.inj same)
      obtain ⟨grows, found⟩ := faithful target known definition next followed
      exact ⟨grows, definition, found, rfl⟩
  | .mk (.names names) (some target) => simp [Struct.convert] at converted
  | .mk (.members members) (some target) => simp [Struct.convert] at converted
  | .mk (.names names) none =>
      simp only [Struct.convert] at converted
      obtain ⟨rfl, rfl⟩ := Prod.mk.inj (Except.ok.inj converted)
      exact ⟨Grows.refl known, (countAll_fields names).symm, countedAll_fields known names⟩
  | .mk (.members members) none =>
      simp only [Struct.convert, bind_eq_ok_iff] at converted
      obtain ⟨⟨items, next⟩, inside, same⟩ := converted
      obtain ⟨rfl, rfl⟩ := Prod.mk.inj (Except.ok.inj same)
      obtain ⟨grows, counted⟩ := Members.convert_grows faithful inside
      exact ⟨grows, rfl, counted⟩

theorem Members.convert_grows (faithful : follow.Faithful definitions pending) {members : Members}
    {known later : Definitions} {items : List Item}
    (converted : members.convert follow known = .ok (items, later)) :
    Grows definitions pending known later ∧ CountedAll later items := by
  match members with
  | .nil =>
      obtain ⟨rfl, rfl⟩ := Prod.mk.inj (Except.ok.inj converted)
      exact ⟨Grows.refl known, trivial⟩
  | .cons name none rest =>
      simp only [Members.convert, bind_eq_ok_iff] at converted
      obtain ⟨⟨others, next⟩, behind, same⟩ := converted
      obtain ⟨rfl, rfl⟩ := Prod.mk.inj (Except.ok.inj same)
      obtain ⟨grows, counted⟩ := Members.convert_grows faithful behind
      exact ⟨grows, trivial, counted⟩
  | .cons name (some struct) rest =>
      simp only [Members.convert, bind_eq_ok_iff] at converted
      obtain ⟨⟨item, middle⟩, here, ⟨others, next⟩, behind, same⟩ := converted
      obtain ⟨rfl, rfl⟩ := Prod.mk.inj (Except.ok.inj same)
      obtain ⟨first, counted⟩ := Struct.convert_grows faithful here
      obtain ⟨second, countedRest⟩ := Members.convert_grows faithful behind
      exact ⟨first.trans second, counted.mono second.grown, countedRest⟩

end

end Growth

/-! ### Resolving -/

/-- The two ways in which a name is resolved: it was before, or its struct is converted now. -/
theorem resolve_cases {definitions : List (String × Struct)} {depth : Nat} {pending : List String}
    {name : String} {known later : Definitions} {definition : Definition}
    (resolved : resolve definitions (depth + 1) pending name known = .ok (definition, later)) :
    (known.lookup name = some definition ∧ later = known) ∨
    (known.lookup name = none ∧ name ∉ pending ∧ ∃ struct label middle,
      definitions.lookup name = some struct ∧
      struct.convert (resolve definitions depth (name :: pending)) name known =
        .ok (.struct label definition.fields definition.count, middle) ∧
      later = middle ++ [(name, definition)]) := by
  cases before : known.lookup name with
  | some found =>
      simp only [resolve, before] at resolved
      obtain ⟨rfl, rfl⟩ := Prod.mk.inj (Except.ok.inj resolved)
      exact .inl ⟨rfl, rfl⟩
  | none =>
      cases source : definitions.lookup name with
      | none => simp [resolve, before, source] at resolved
      | some struct =>
          simp only [resolve, before, source] at resolved
          by_cases underWay : pending.contains name = true
          · rw [if_pos underWay] at resolved
            simp at resolved
          · rw [if_neg underWay, bind_eq_ok_iff] at resolved
            obtain ⟨⟨item, middle⟩, converted, built⟩ := resolved
            cases item with
            | field => simp at built
            | ref => simp at built
            | struct label fields count =>
                obtain ⟨rfl, rfl⟩ := Prod.mk.inj (Except.ok.inj built)
                have apart : name ∉ pending := by simpa using underWay
                exact .inr ⟨rfl, apart, struct, label, middle, rfl, converted, rfl⟩

theorem resolve_faithful (definitions : List (String × Struct)) (depth : Nat)
    (pending : List String) :
    (resolve definitions depth pending).Faithful definitions pending := by
  induction depth generalizing pending with
  | zero =>
      intro name known definition later resolved
      simp [resolve] at resolved
  | succ depth ih =>
      intro name known definition later resolved
      obtain ⟨found, rfl⟩ | ⟨fresh, notPending, struct, label, middle, source, converted, rfl⟩ :=
        resolve_cases resolved
      · exact ⟨Grows.refl _, found⟩
      · obtain ⟨grows, total, counted⟩ := Struct.convert_grows (ih (name :: pending)) converted
        -- The name was under way, so nothing of that name was added in between.
        have absent := grows.apart name List.mem_cons_self fresh
        refine ⟨⟨grows.grown.trans (List.prefix_append _ _), ?_, ?_, ?_⟩, ?_⟩
        · intro settled
          exact .snoc name (grows.settled settled) total counted
        · intro other member unknown
          have apart : other ≠ name := fun same => notPending (same ▸ member)
          rw [List.lookup_append, grows.weaken.apart other member unknown]
          simp [List.lookup_cons, beq_false_of_ne apart]
        · intro all
          obtain ⟨before, after, split, _⟩ := List.lookup_eq_some_iff.mp source
          exact absurd fresh (all (name, struct) (by simp [split]))
        · rw [List.lookup_append, absent]
          simp

theorem Source.follow_faithful (source : Source) : source.follow.Faithful source.definitions [] :=
  resolve_faithful _ _ _

theorem Source.grows_definitions (source : Source) (entries : List (String × Struct))
    {known later : Definitions}
    (folded : entries.foldlM (fun known entry => (source.follow entry.1 known).map (·.2)) known =
      .ok later) :
    Grows source.definitions [] known later ∧ ∀ entry ∈ entries, later.lookup entry.1 ≠ none := by
  induction entries generalizing known with
  | nil =>
      obtain rfl := Except.ok.inj folded
      exact ⟨Grows.refl known, by simp⟩
  | cons entry entries ih =>
      simp only [List.foldlM_cons, bind_eq_ok_iff, map_eq_ok_iff] at folded
      obtain ⟨middle, ⟨⟨definition, next⟩, followed, rfl⟩, rest⟩ := folded
      obtain ⟨first, found⟩ := source.follow_faithful _ _ _ _ followed
      obtain ⟨second, others⟩ := ih rest
      refine ⟨first.trans second, ?_⟩
      intro other member
      rcases List.mem_cons.mp member with rfl | later
      · rw [lookup_of_isPrefix second.grown found]
        simp
      · exact others other later

theorem Source.settled_definitionsOf {source : Source} {definitions : Definitions}
    (resolved : source.definitionsOf = .ok definitions) :
    Settled definitions ∧ ∀ entry ∈ source.definitions, definitions.lookup entry.1 ≠ none := by
  obtain ⟨grows, all⟩ := source.grows_definitions source.definitions resolved
  exact ⟨grows.settled .nil, all⟩

theorem Source.counted_itemsOf {source : Source} {known : Definitions}
    (all : ∀ entry ∈ source.definitions, known.lookup entry.1 ≠ none)
    {items : List (String × List Item)} (converted : source.itemsOf known = .ok items) :
    ∀ item ∈ items, CountedAll known item.2 := by
  rw [Source.itemsOf] at converted
  generalize source.layout = entries at converted
  induction entries generalizing items with
  | nil =>
      obtain rfl := Except.ok.inj converted
      simp
  | cons entry entries ih =>
      simp only [List.mapM_cons, bind_eq_ok_iff] at converted
      obtain ⟨item, ⟨⟨struct, later⟩, here, built⟩, others, behind, same⟩ := converted
      obtain rfl := Except.ok.inj same
      obtain ⟨grows, counted⟩ := Struct.convert_grows source.follow_faithful here
      obtain rfl := grows.complete all
      intro other member
      rcases List.mem_cons.mp member with rfl | later
      · cases struct with
        | field => simp at built
        | ref => simp at built
        | struct label fields count =>
            obtain rfl := Except.ok.inj built
            exact counted.2
      · exact ih behind other later

structure Sound (layout : Layout) : Prop where
  settled : Settled layout.definitions
  counted : ∀ item ∈ layout.items, CountedAll layout.definitions item.2

theorem sound_ofSource {source : Source} {layout : Layout}
    (resolved : ofSource source = .ok layout) : Sound layout := by
  simp only [ofSource, bind_eq_ok_iff] at resolved
  obtain ⟨definitions, first, items, second, same⟩ := resolved
  obtain rfl := Except.ok.inj same
  obtain ⟨settled, all⟩ := Source.settled_definitionsOf first
  exact ⟨settled, Source.counted_itemsOf all second⟩

end Layout

end Palette
