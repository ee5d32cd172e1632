import Palette.Proofs.LayoutReferences

/-!
Which sources are resolved. Following a reference is bounded by the definitions that are not yet
under way, so it always ends; and it fails only for a reason that can be seen in the source itself:
a struct with both or neither of a reference and fields, a bare reference where a struct is wanted,
a reference to nothing, or a definition that leads back to itself.
-/

namespace Palette.Layout

/-! ### Converting a struct -/

/-- The structs are definite and refer to known definitions only. -/
def Bound (known : Definitions) (structs : List Struct) : Prop :=
  ∀ struct ∈ structs, struct.Definite ∧
    ∀ target, struct.ref? = some target → known.lookup target ≠ none

theorem Bound.mono {known later : Definitions} (grown : known <+: later) {structs : List Struct}
    (bound : Bound known structs) : Bound later structs := by
  intro struct member
  refine ⟨(bound struct member).1, fun target ref => ?_⟩
  obtain ⟨definition, found⟩ :=
    Option.ne_none_iff_exists'.mp ((bound struct member).2 target ref)
  rw [lookup_of_isPrefix grown found]
  simp

theorem bound_append {known : Definitions} {first second : List Struct}
    (left : Bound known first) (right : Bound known second) : Bound known (first ++ second) := by
  intro struct member
  rcases List.mem_append.mp member with here | behind
  · exact left struct here
  · exact right struct behind

section Convert

variable {follow : Follow}

mutual

theorem Struct.bound_of_convert {definitions : List (String × Struct)} {pending : List String}
    (faithful : follow.Faithful definitions pending) {name : String} {struct : Struct}
    {known later : Definitions} {item : Item}
    (converted : struct.convert follow name known = .ok (item, later)) :
    Bound later struct.within := by
  match struct with
  | .mk .absent none => simp [Struct.convert] at converted
  | .mk .absent (some target) =>
      simp only [Struct.convert, bind_eq_ok_iff] at converted
      obtain ⟨⟨definition, next⟩, followed, same⟩ := converted
      obtain ⟨rfl, rfl⟩ := Prod.mk.inj (Except.ok.inj same)
      intro struct member
      obtain rfl := List.mem_singleton.mp member
      refine ⟨by simp [Struct.Definite, Struct.ref?, Struct.hasFields], ?_⟩
      rintro other ⟨⟩
      simp [(faithful target known definition next followed).2]
  | .mk (.names names) (some target) => simp [Struct.convert] at converted
  | .mk (.members members) (some target) => simp [Struct.convert] at converted
  | .mk (.names names) none =>
      intro struct member
      obtain rfl := List.mem_singleton.mp member
      exact ⟨by simp [Struct.Definite, Struct.ref?, Struct.hasFields], nofun⟩
  | .mk (.members members) none =>
      simp only [Struct.convert, bind_eq_ok_iff] at converted
      obtain ⟨⟨items, next⟩, inside, same⟩ := converted
      obtain ⟨rfl, rfl⟩ := Prod.mk.inj (Except.ok.inj same)
      intro struct member
      rcases List.mem_cons.mp member with rfl | below
      · exact ⟨by simp [Struct.Definite, Struct.ref?, Struct.hasFields], nofun⟩
      · exact Members.bound_of_convert faithful inside struct below

theorem Members.bound_of_convert {definitions : List (String × Struct)} {pending : List String}
    (faithful : follow.Faithful definitions pending) {members : Members}
    {known later : Definitions} {items : List Item}
    (converted : members.convert follow known = .ok (items, later)) :
    Bound later members.within := by
  match members with
  | .nil => exact fun _ => nofun
  | .cons name none rest =>
      simp only [Members.convert, bind_eq_ok_iff] at converted
      obtain ⟨⟨others, next⟩, behind, same⟩ := converted
      obtain ⟨rfl, rfl⟩ := Prod.mk.inj (Except.ok.inj same)
      change Bound _ rest.within
      exact Members.bound_of_convert faithful behind
  | .cons name (some struct) rest =>
      simp only [Members.convert, bind_eq_ok_iff] at converted
      obtain ⟨⟨item, middle⟩, here, ⟨others, next⟩, behind, same⟩ := converted
      obtain ⟨rfl, rfl⟩ := Prod.mk.inj (Except.ok.inj same)
      have grown := (Members.convert_grows faithful behind).1.grown
      exact bound_append ((Struct.bound_of_convert faithful here).mono grown)
        (Members.bound_of_convert faithful behind)

end

/-- Each reference of the structs can be followed, whatever is known by then. -/
def Follow.Reaches (follow : Follow) (structs : List Struct) : Prop :=
  ∀ struct ∈ structs, ∀ target, struct.ref? = some target →
    ∀ known, ∃ result, follow target known = .ok result

mutual

theorem Struct.convert_succeeds (struct : Struct)
    (definite : ∀ inner ∈ struct.within, inner.Definite) (reaches : follow.Reaches struct.within)
    (name : String) (known : Definitions) :
    ∃ item later, struct.convert follow name known = .ok (item, later) := by
  match struct with
  | .mk .absent none | .mk (.names names) (some target) | .mk (.members members) (some target) =>
      exact absurd rfl (definite _ List.mem_cons_self)
  | .mk .absent (some target) =>
      obtain ⟨⟨definition, later⟩, followed⟩ := reaches _ List.mem_cons_self target rfl known
      exact ⟨_, later, bind_eq_ok_iff.mpr ⟨_, followed, rfl⟩⟩
  | .mk (.names names) none => exact ⟨_, known, rfl⟩
  | .mk (.members members) none =>
      obtain ⟨items, later, inside⟩ := members.convert_succeeds
        (fun inner member => definite inner (List.mem_cons_of_mem _ member))
        (fun inner member => reaches inner (List.mem_cons_of_mem _ member)) known
      exact ⟨_, later, bind_eq_ok_iff.mpr ⟨_, inside, rfl⟩⟩

theorem Members.convert_succeeds (members : Members)
    (definite : ∀ inner ∈ members.within, inner.Definite) (reaches : follow.Reaches members.within)
    (known : Definitions) : ∃ items later, members.convert follow known = .ok (items, later) := by
  match members with
  | .nil => exact ⟨[], known, rfl⟩
  | .cons name none rest =>
      obtain ⟨items, later, behind⟩ := rest.convert_succeeds definite reaches known
      exact ⟨_, later, bind_eq_ok_iff.mpr ⟨_, behind, rfl⟩⟩
  | .cons name (some struct) rest =>
      obtain ⟨item, middle, here⟩ := struct.convert_succeeds
        (fun inner member => definite inner (List.mem_append_left _ member))
        (fun inner member => reaches inner (List.mem_append_left _ member)) name known
      obtain ⟨items, later, behind⟩ := rest.convert_succeeds
        (fun inner member => definite inner (List.mem_append_right _ member))
        (fun inner member => reaches inner (List.mem_append_right _ member)) middle
      exact ⟨_, later, bind_eq_ok_iff.mpr ⟨_, here, bind_eq_ok_iff.mpr ⟨_, behind, rfl⟩⟩⟩

end

/-- A struct with fields becomes a struct, any other a reference. -/
theorem Struct.convert_kind {struct : Struct} {name : String} {known later : Definitions}
    {item : Item} (converted : struct.convert follow name known = .ok (item, later)) :
    (struct.hasFields = true ∧ ∃ label fields count, item = .struct label fields count) ∨
      (struct.BareRef ∧ ∃ label target count, item = .ref label target count) := by
  match struct with
  | .mk .absent none => simp [Struct.convert] at converted
  | .mk .absent (some target) =>
      simp only [Struct.convert, bind_eq_ok_iff] at converted
      obtain ⟨⟨definition, next⟩, followed, same⟩ := converted
      obtain ⟨rfl, rfl⟩ := Prod.mk.inj (Except.ok.inj same)
      exact .inr ⟨⟨rfl, rfl⟩, _, _, _, rfl⟩
  | .mk (.names names) (some target) => simp [Struct.convert] at converted
  | .mk (.members members) (some target) => simp [Struct.convert] at converted
  | .mk (.names names) none =>
      obtain ⟨rfl, rfl⟩ := Prod.mk.inj (Except.ok.inj converted)
      exact .inl ⟨rfl, _, _, _, rfl⟩
  | .mk (.members members) none =>
      simp only [Struct.convert, bind_eq_ok_iff] at converted
      obtain ⟨⟨items, next⟩, inside, same⟩ := converted
      obtain ⟨rfl, rfl⟩ := Prod.mk.inj (Except.ok.inj same)
      exact .inl ⟨rfl, _, _, _, rfl⟩

end Convert

/-! ### Following references ends -/

/-- One step of following a reference, with `inner` for the references met on the way. -/
def followStep (definitions : List (String × Struct)) (inner : List String → Follow)
    (pending : List String) : Follow := fun name known =>
  match known.lookup name, definitions.lookup name with
  | some definition, _ => .ok (definition, known)
  | none, none => .error (.refNotFound name)
  | none, some struct =>
      if pending.contains name then .error (.cyclicRef name)
      else do
        match ← struct.convert (inner (name :: pending)) name known with
        | (.struct _ fields count, known) =>
            return (⟨fields, count⟩, known ++ [(name, ⟨fields, count⟩)])
        | _ => .error (.notStruct .definition name)

theorem resolve_succ (definitions : List (String × Struct)) (depth : Nat) (pending : List String) :
    resolve definitions (depth + 1) pending =
      followStep definitions (resolve definitions depth) pending := rfl

/-- The steps to follow references `depth` times into each other; where one goes deeper, `beyond`
says what happens. -/
def unrolled (definitions : List (String × Struct)) (beyond : List String → Follow) :
    Nat → List String → Follow
  | 0 => beyond
  | depth + 1 => followStep definitions (unrolled definitions beyond depth)

/-- The definitions under way are distinct, and there are more steps left than definitions that
could still be begun. -/
structure Room (definitions : List (String × Struct)) (depth : Nat) (pending : List String) :
    Prop where
  distinct : pending.Nodup
  known : ∀ name ∈ pending, name ∈ definitions.map Prod.fst
  enough : definitions.length < depth + pending.length

theorem Room.pos {definitions : List (String × Struct)} {depth : Nat} {pending : List String}
    (room : Room definitions depth pending) : 0 < depth := by
  have bound := (List.subperm_of_subset room.distinct room.known).length_le
  rw [List.length_map] at bound
  have enough := room.enough
  omega

theorem Room.enter {definitions : List (String × Struct)} {depth : Nat} {pending : List String}
    (room : Room definitions (depth + 1) pending) {name : String} (fresh : name ∉ pending)
    (defined : name ∈ definitions.map Prod.fst) : Room definitions depth (name :: pending) where
  distinct := List.nodup_cons.mpr ⟨fresh, room.distinct⟩
  known other member := by
    rcases List.mem_cons.mp member with rfl | before
    · exact defined
    · exact room.known other before
  enough := by
    have enough := room.enough
    rw [List.length_cons]
    omega

theorem room_nil {definitions : List (String × Struct)} {depth : Nat}
    (enough : definitions.length < depth) : Room definitions depth [] :=
  ⟨List.nodup_nil, by simp, enough⟩

theorem mem_names_of_lookup {definitions : List (String × Struct)} {name : String}
    {struct : Struct} (found : definitions.lookup name = some struct) :
    name ∈ definitions.map Prod.fst :=
  List.mem_map_of_mem (Ordered.mem_of_lookup found)

/-- A step only goes on to definitions that are not under way yet. -/
theorem followStep_congr {definitions : List (String × Struct)} {first second : List String → Follow}
    {pending : List String}
    (same : ∀ name, name ∉ pending → name ∈ definitions.map Prod.fst →
      first (name :: pending) = second (name :: pending)) :
    followStep definitions first pending = followStep definitions second pending := by
  funext name known
  unfold followStep
  split
  · rfl
  · rfl
  next struct _ found =>
    by_cases underWay : pending.contains name = true
    · rw [if_pos underWay, if_pos underWay]
    · rw [if_neg underWay, if_neg underWay,
        same name (by simpa using underWay) (mem_names_of_lookup found)]

theorem resolve_eq_unrolled (definitions : List (String × Struct)) (beyond : List String → Follow)
    {depth steps : Nat} {pending : List String} (room : Room definitions depth pending)
    (enough : Room definitions steps pending) :
    resolve definitions depth pending = unrolled definitions beyond steps pending := by
  induction depth generalizing steps pending with
  | zero => exact absurd room.pos (Nat.lt_irrefl 0)
  | succ depth ih =>
      cases steps with
      | zero => exact absurd enough.pos (Nat.lt_irrefl 0)
      | succ steps =>
          rw [resolve_succ, unrolled]
          apply followStep_congr
          intro name fresh defined
          exact ih (room.enter fresh defined) (enough.enter fresh defined)

/-- Whatever would be answered beyond them, as many steps as there are definitions and one more
are enough. -/
theorem Source.follow_eq_unrolled (source : Source) (beyond : List String → Follow) {steps : Nat}
    (enough : source.definitions.length < steps) :
    source.follow = unrolled source.definitions beyond steps [] :=
  resolve_eq_unrolled _ beyond (room_nil (Nat.lt_succ_self _)) (room_nil enough)

/-! ### What was resolved is in order -/

/-- Each definition was converted from its struct when all that the struct refers to was known. -/
inductive Traced (definitions : List (String × Struct)) : Definitions → Prop where
  | nil : Traced definitions []
  | snoc {known : Definitions} {name : String} {struct : Struct} {definition : Definition}
      (earlier : Traced definitions known) (source : definitions.lookup name = some struct)
      (fields : struct.hasFields = true) (bound : Bound known struct.within) :
      Traced definitions (known ++ [(name, definition)])

mutual

theorem Struct.convert_keeps {follow : Follow} {kept : Definitions → Prop}
    (step : ∀ target known definition later, follow target known = .ok (definition, later) →
      kept known → kept later)
    {name : String} {struct : Struct} {known later : Definitions} {item : Item}
    (converted : struct.convert follow name known = .ok (item, later)) (start : kept known) :
    kept later := by
  match struct with
  | .mk .absent none => simp [Struct.convert] at converted
  | .mk .absent (some target) =>
      simp only [Struct.convert, bind_eq_ok_iff] at converted
      obtain ⟨⟨definition, next⟩, followed, same⟩ := converted
      obtain ⟨rfl, rfl⟩ := Prod.mk.inj (Except.ok.inj same)
      exact step target known definition _ followed start
  | .mk (.names names) (some target) => simp [Struct.convert] at converted
  | .mk (.members members) (some target) => simp [Struct.convert] at converted
  | .mk (.names names) none =>
      obtain ⟨rfl, rfl⟩ := Prod.mk.inj (Except.ok.inj converted)
      exact start
  | .mk (.members members) none =>
      simp only [Struct.convert, bind_eq_ok_iff] at converted
      obtain ⟨⟨items, next⟩, inside, same⟩ := converted
      obtain ⟨rfl, rfl⟩ := Prod.mk.inj (Except.ok.inj same)
      exact Members.convert_keeps step inside start

theorem Members.convert_keeps {follow : Follow} {kept : Definitions → Prop}
    (step : ∀ target known definition later, follow target known = .ok (definition, later) →
      kept known → kept later)
    {members : Members} {known later : Definitions} {items : List Item}
    (converted : members.convert follow known = .ok (items, later)) (start : kept known) :
    kept later := by
  match members with
  | .nil =>
      obtain ⟨rfl, rfl⟩ := Prod.mk.inj (Except.ok.inj converted)
      exact start
  | .cons name none rest =>
      simp only [Members.convert, bind_eq_ok_iff] at converted
      obtain ⟨⟨others, next⟩, behind, same⟩ := converted
      obtain ⟨rfl, rfl⟩ := Prod.mk.inj (Except.ok.inj same)
      exact Members.convert_keeps step behind start
  | .cons name (some struct) rest =>
      simp only [Members.convert, bind_eq_ok_iff] at converted
      obtain ⟨⟨item, middle⟩, here, ⟨others, next⟩, behind, same⟩ := converted
      obtain ⟨rfl, rfl⟩ := Prod.mk.inj (Except.ok.inj same)
      exact Members.convert_keeps step behind (Struct.convert_keeps step here start)

end

theorem resolve_traced {definitions : List (String × Struct)} {depth : Nat} {pending : List String}
    {name : String} {known later : Definitions} {definition : Definition}
    (resolved : resolve definitions depth pending name known = .ok (definition, later))
    (traced : Traced definitions known) : Traced definitions later := by
  induction depth generalizing pending name known definition later with
  | zero => simp [resolve] at resolved
  | succ depth ih =>
      obtain ⟨_, rfl⟩ | ⟨_, _, struct, label, middle, source, converted, rfl⟩ :=
        resolve_cases resolved
      · exact traced
      · have earlier : Traced definitions middle :=
          Struct.convert_keeps (fun _ _ _ _ followed => ih followed) converted traced
        have bound := Struct.bound_of_convert (resolve_faithful _ _ _) converted
        rcases Struct.convert_kind converted with ⟨fields, _⟩ | ⟨_, _, _, _, impossible⟩
        · exact .snoc earlier source fields bound
        · simp at impossible

theorem lookup_snoc_ne_none {known : Definitions} {name other : String} {definition : Definition}
    (found : (known ++ [(name, definition)]).lookup other ≠ none) :
    known.lookup other ≠ none ∨ other = name := by
  by_contra neither
  rw [not_or, not_not] at neither
  apply found
  rw [List.lookup_append, neither.1]
  simp [List.lookup_cons, beq_false_of_ne neither.2]

theorem Traced.struct_of_known {definitions : List (String × Struct)} {known : Definitions}
    (traced : Traced definitions known) {name : String} (found : known.lookup name ≠ none) :
    ∃ struct, definitions.lookup name = some struct ∧ struct.hasFields = true ∧
      Bound known struct.within := by
  induction traced with
  | nil => exact absurd rfl found
  | snoc _ source fields bound ih =>
      rcases lookup_snoc_ne_none found with before | rfl
      · obtain ⟨struct, listed, kind, inside⟩ := ih before
        exact ⟨struct, listed, kind, inside.mono (List.prefix_append _ _)⟩
      · exact ⟨_, source, fields, bound.mono (List.prefix_append _ _)⟩

/-- From a resolved definition references lead to earlier ones only, so no way goes on forever. -/
theorem Traced.acc {definitions : List (String × Struct)}
    (distinct : (definitions.map Prod.fst).Nodup) {known : Definitions}
    (traced : Traced definitions known) {name : String} (found : known.lookup name ≠ none) :
    Acc (fun target name => Refers definitions name target) name := by
  induction traced generalizing name with
  | nil => exact absurd rfl found
  | snoc _ source fields bound ih =>
      rcases lookup_snoc_ne_none found with before | rfl
      · exact ih before
      · constructor
        rintro target ⟨struct, inner, member, within, ref⟩
        obtain rfl := Option.some.inj (source.symm.trans (Ordered.lookup_of_mem distinct member))
        exact ih ((bound inner within).2 target ref)

theorem not_self_of_acc {α : Type} {r : α → α → Prop} {a : α} (reached : Acc r a) : ¬ r a a := by
  induction reached with
  | intro a _ ih => exact fun self => ih a self self

theorem Traced.acyclic {definitions : List (String × Struct)}
    (distinct : (definitions.map Prod.fst).Nodup) {known : Definitions}
    (traced : Traced definitions known)
    (all : ∀ entry ∈ definitions, known.lookup entry.1 ≠ none) (name : String) :
    ¬ Relation.TransGen (Refers definitions) name name := by
  intro cycle
  obtain ⟨_, ⟨struct, _, member, _⟩, _⟩ := Relation.TransGen.head'_iff.mp cycle
  exact not_self_of_acc (traced.acc distinct (all _ member)).transGen
    (Relation.transGen_swap.mpr cycle)

/-! ### Sources that are resolved -/

theorem Source.traced_definitions (source : Source) (entries : List (String × Struct))
    {known later : Definitions}
    (folded : entries.foldlM (fun known entry => (source.follow entry.1 known).map (·.2)) known =
      .ok later)
    (traced : Traced source.definitions known) : Traced source.definitions later := by
  induction entries generalizing known with
  | nil =>
      obtain rfl := Except.ok.inj folded
      exact traced
  | cons entry entries ih =>
      simp only [List.foldlM_cons, bind_eq_ok_iff, map_eq_ok_iff] at folded
      obtain ⟨middle, ⟨⟨definition, next⟩, followed, rfl⟩, rest⟩ := folded
      exact ih rest (resolve_traced followed traced)

theorem Source.itemsOf_succeeds_iff (source : Source) (known : Definitions) :
    (∃ items, source.itemsOf known = .ok items) ↔
      ∀ entry ∈ source.layout, ∃ label fields count later,
        entry.2.convert source.follow entry.1 known = .ok (.struct label fields count, later) := by
  rw [Source.itemsOf]
  generalize source.layout = entries
  induction entries with
  | nil => exact ⟨fun _ => by simp, fun _ => ⟨[], rfl⟩⟩
  | cons entry entries ih =>
      rw [List.forall_mem_cons, ← ih]
      constructor
      · rintro ⟨items, converted⟩
        simp only [List.mapM_cons, bind_eq_ok_iff] at converted
        obtain ⟨item, ⟨⟨struct, later⟩, here, built⟩, others, behind, _⟩ := converted
        refine ⟨?_, others, behind⟩
        cases struct with
        | field => simp at built
        | ref => simp at built
        | struct label fields count => exact ⟨label, fields, count, later, here⟩
      · rintro ⟨⟨label, fields, count, later, here⟩, others, behind⟩
        refine ⟨(entry.1, fields) :: others, ?_⟩
        rw [List.mapM_cons, here, behind]
        rfl

theorem Source.resolvable_of_resolved {source : Source}
    (distinct : (source.definitions.map Prod.fst).Nodup) {definitions : Definitions}
    (first : source.definitionsOf = .ok definitions)
    (second : ∃ items, source.itemsOf definitions = .ok items) : source.Resolvable := by
  have traced := source.traced_definitions source.definitions first .nil
  obtain ⟨_, all⟩ := Source.settled_definitionsOf first
  have items := (source.itemsOf_succeeds_iff definitions).mp second
  -- Both kinds of entries have fields, and all inside them is bound in the end.
  have sound : ∀ entry ∈ source.entries, entry.2.hasFields = true ∧
      Bound definitions entry.2.within := by
    intro entry member
    rcases List.mem_append.mp member with inDefinitions | inLayout
    · obtain ⟨struct, source, fields, bound⟩ := traced.struct_of_known (all entry inDefinitions)
      have found := Ordered.lookup_of_mem distinct inDefinitions
      obtain rfl := Option.some.inj (source.symm.trans found)
      exact ⟨fields, bound⟩
    · obtain ⟨label, inner, count, later, converted⟩ := items entry inLayout
      obtain ⟨grows, _⟩ := Struct.convert_grows source.follow_faithful converted
      obtain rfl := grows.complete all
      rcases Struct.convert_kind converted with ⟨fields, _⟩ | ⟨_, _, _, _, impossible⟩
      · exact ⟨fields, Struct.bound_of_convert source.follow_faithful converted⟩
      · simp at impossible
  refine ⟨?_, ?_, ?_, traced.acyclic distinct all⟩
  · exact fun entry member struct within => ((sound entry member).2 struct within).1
  · intro entry member bare
    exact Bool.noConfusion ((sound entry member).1.symm.trans bare.2)
  · intro entry member struct within target ref
    obtain ⟨inner, source, _⟩ :=
      traced.struct_of_known (((sound entry member).2 struct within).2 target ref)
    exact mem_names_of_lookup source

theorem Source.Resolvable.convert_succeeds {source : Source} (resolvable : source.Resolvable)
    {entry : String × Struct} (member : entry ∈ source.entries) {follow : Follow}
    (reaches : follow.Reaches entry.2.within) (known : Definitions) :
    ∃ label fields count later,
      entry.2.convert follow entry.1 known = .ok (.struct label fields count, later) := by
  obtain ⟨item, later, converted⟩ :=
    entry.2.convert_succeeds (resolvable.definite entry member) reaches entry.1 known
  rcases Struct.convert_kind converted with ⟨_, label, fields, count, rfl⟩ | ⟨bare, _⟩
  · exact ⟨label, fields, count, later, converted⟩
  · exact absurd bare (resolvable.noBareRef entry member)

/-- While all that is under way leads to `name`, a source without defects lets it be resolved. -/
theorem Source.Resolvable.resolve_succeeds {source : Source} (resolvable : source.Resolvable)
    {depth : Nat} {pending : List String} (room : Room source.definitions depth pending)
    {name : String} (defined : name ∈ source.definitions.map Prod.fst)
    (leading : ∀ other ∈ pending, Relation.TransGen (Refers source.definitions) other name)
    (known : Definitions) :
    ∃ result, resolve source.definitions depth pending name known = .ok result := by
  induction depth generalizing pending name known with
  | zero => exact absurd room.pos (Nat.lt_irrefl 0)
  | succ depth ih =>
      have fresh : name ∉ pending := fun underWay => resolvable.acyclic name (leading name underWay)
      cases before : known.lookup name with
      | some definition => exact ⟨(definition, known), by simp only [resolve, before]⟩
      | none =>
          cases found : source.definitions.lookup name with
          | none =>
              obtain ⟨entry, member, rfl⟩ := List.mem_map.mp defined
              simpa using List.lookup_eq_none_iff.mp found entry member
          | some struct =>
              have member := Ordered.mem_of_lookup found
              have entry : (name, struct) ∈ source.entries := List.mem_append_left _ member
              have inner : (resolve source.definitions depth (name :: pending)).Reaches
                  struct.within := by
                intro other within target ref known
                have refers : Refers source.definitions name target :=
                  ⟨struct, other, member, within, ref⟩
                refine ih (room.enter fresh defined)
                  (resolvable.found _ entry other within target ref) ?_ known
                intro earlier underWay
                rcases List.mem_cons.mp underWay with rfl | older
                · exact .single refers
                · exact (leading earlier older).tail refers
              obtain ⟨label, fields, count, later, converted⟩ :=
                resolvable.convert_succeeds entry inner known
              refine ⟨(⟨fields, count⟩, later ++ [(name, ⟨fields, count⟩)]), ?_⟩
              simp only [resolve, before, found]
              rw [if_neg (by simpa using fresh), converted]
              rfl

theorem Source.Resolvable.follow_succeeds {source : Source} (resolvable : source.Resolvable)
    {name : String} (defined : name ∈ source.definitions.map Prod.fst) (known : Definitions) :
    ∃ result, source.follow name known = .ok result :=
  resolvable.resolve_succeeds (room_nil (Nat.lt_succ_self _)) defined (by simp) known

theorem Source.Resolvable.definitionsOf_succeeds {source : Source}
    (resolvable : source.Resolvable) : ∃ definitions, source.definitionsOf = .ok definitions := by
  have fold : ∀ (entries : List (String × Struct)) (known : Definitions),
      (∀ entry ∈ entries, entry ∈ source.definitions) → ∃ later,
        entries.foldlM (fun known entry => (source.follow entry.1 known).map (·.2)) known =
          .ok later := by
    intro entries
    induction entries with
    | nil => exact fun known _ => ⟨known, rfl⟩
    | cons entry entries ih =>
        intro known listed
        obtain ⟨result, followed⟩ := resolvable.follow_succeeds
          (List.mem_map_of_mem (listed entry List.mem_cons_self)) known
        obtain ⟨later, rest⟩ :=
          ih result.2 fun other member => listed other (List.mem_cons_of_mem _ member)
        refine ⟨later, ?_⟩
        rw [List.foldlM_cons, followed]
        exact rest
  exact fold source.definitions [] fun _ => id

theorem Source.resolved_iff (source : Source) (distinct : (source.definitions.map Prod.fst).Nodup) :
    (∃ definitions items, source.definitionsOf = .ok definitions ∧
      source.itemsOf definitions = .ok items) ↔ source.Resolvable := by
  constructor
  · rintro ⟨definitions, items, first, second⟩
    exact Source.resolvable_of_resolved distinct first ⟨items, second⟩
  · intro resolvable
    obtain ⟨definitions, first⟩ := resolvable.definitionsOf_succeeds
    obtain ⟨items, second⟩ := (source.itemsOf_succeeds_iff definitions).mpr fun entry member =>
      have listed : entry ∈ source.entries := List.mem_append_right _ member
      resolvable.convert_succeeds listed (fun struct within target ref =>
        resolvable.follow_succeeds (resolvable.found entry listed struct within target ref)) _
    exact ⟨definitions, items, first, second⟩

theorem ofSource_succeeds_iff (source : Source)
    (distinct : (source.definitions.map Prod.fst).Nodup) :
    (∃ layout, ofSource source = .ok layout) ↔ source.Resolvable := by
  have ordered : (source.sorted.definitions.map Prod.fst).Nodup :=
    (names_sortedEntries source.definitions).nodup_iff.mpr distinct
  rw [← source.resolvable_sorted, ← source.sorted.resolved_iff ordered]
  constructor
  · rintro ⟨layout, resolved⟩
    simp only [ofSource, bind_eq_ok_iff] at resolved
    obtain ⟨definitions, first, items, second, _⟩ := resolved
    exact ⟨definitions, items, first, second⟩
  · rintro ⟨definitions, items, first, second⟩
    exact ⟨⟨definitions, items⟩, bind_eq_ok_iff.mpr ⟨definitions, first,
      bind_eq_ok_iff.mpr ⟨items, second, rfl⟩⟩⟩

/-- A document that passes the schema is read if and only if it has none of the defects. Whether it
does or not, references lead less deep than there are definitions: what would happen beyond that
does not matter. -/
theorem parse_succeeds_iff (text : String) (source : Source) (document : Document text source) :
    ((∃ layout, parse text = .ok layout) ↔ source.Resolvable) ∧
      ∀ beyond steps, source.definitions.length < steps →
        source.sorted.follow = unrolled source.sorted.definitions beyond steps [] := by
  constructor
  · rw [← ofSource_succeeds_iff source document.distinct.definitions.1, document.parse_eq]
    simp only [mapError_eq_ok_iff]
  · intro beyond steps enough
    apply source.sorted.follow_eq_unrolled
    have size := (names_sortedEntries source.definitions).length_eq
    rw [List.length_map, List.length_map] at size
    exact size ▸ enough

def cyclicText : String :=
  "definitions: {A: {fields: {x: {fields: {y: {ref: B}}}}}, B: {fields: {a: {ref: A}}}}\n" ++
    "layout: {main: {fields: [z]}}\n"

theorem document_cyclicText : ∃ source, Document cyclicText source ∧
    source.definitions.map (fun entry => (entry.1, entry.2.within.filterMap Struct.ref?)) =
      [("A", ["B"]), ("B", ["A"])] := by
  have evaluated : ((Yaml.Data.ofText cyclicText).toOption.bind fun data =>
      (Source.ofData data).toOption.map fun source =>
        source.definitions.map fun entry => (entry.1, entry.2.within.filterMap Struct.ref?)) =
        some [("A", ["B"]), ("B", ["A"])] := by decide +kernel
  simp only [Option.bind_eq_some_iff, Option.map_eq_some_iff, toOption_eq_some_iff] at evaluated
  obtain ⟨data, read, source, checked, edges⟩ := evaluated
  exact ⟨source, ⟨data, read, checked⟩, edges⟩

theorem parse_succeeds_iff_cyclic : ∃ source, Document cyclicText source ∧
    ¬ source.Resolvable ∧ ¬ ∃ layout, parse cyclicText = .ok layout := by
  obtain ⟨source, document, edges⟩ := document_cyclicText
  have refers : ∀ name target, (name, [target]) ∈ [("A", ["B"]), ("B", ["A"])] →
      Refers source.definitions name target := by
    intro name target listed
    rw [← edges] at listed
    obtain ⟨entry, member, same⟩ := List.mem_map.mp listed
    obtain ⟨rfl, targets⟩ := Prod.mk.inj same
    have inside : target ∈ entry.2.within.filterMap Struct.ref? := by simp [targets]
    obtain ⟨inner, within, ref⟩ := List.mem_filterMap.mp inside
    exact ⟨entry.2, inner, member, within, ref⟩
  have cyclic : ¬ source.Resolvable := fun resolvable =>
    resolvable.acyclic "A" (.tail (.single (refers "A" "B" (by simp))) (refers "B" "A" (by simp)))
  exact ⟨source, document, cyclic,
    fun parsed => cyclic ((parse_succeeds_iff cyclicText source document).1.mp parsed)⟩

end Palette.Layout
