import Palette.Proofs.LayoutAccepted

/-!
What the errors of the resolver say. An error names a struct, a reference or a definition, and
whatever it names does have the defect. For a cycle this rests on the definitions under way: while a
reference is followed, each of them leads to the definition that is asked for, so one that is met
again leads to itself; and one that was finished is no longer among them.
-/

namespace Palette

theorem bind_eq_error_iff {ε α β : Type} {first : Except ε α} {next : α → Except ε β} {error : ε} :
    (first >>= next) = .error error ↔
      first = .error error ∨ ∃ value, first = .ok value ∧ next value = .error error := by
  cases first <;> simp [bind, Except.bind]

theorem exists_of_foldlM_eq_error {ε α σ : Type} {step : σ → α → Except ε σ} {elements : List α}
    {start : σ} {error : ε} (failed : elements.foldlM step start = .error error) :
    ∃ element ∈ elements, ∃ state, step state element = .error error := by
  induction elements generalizing start with
  | nil => cases failed
  | cons element elements ih =>
      rw [List.foldlM_cons, bind_eq_error_iff] at failed
      rcases failed with here | ⟨next, _, behind⟩
      · exact ⟨element, List.mem_cons_self, start, here⟩
      · obtain ⟨other, member, state, there⟩ := ih behind
        exact ⟨other, List.mem_cons_of_mem _ member, state, there⟩

theorem exists_of_mapM_eq_error {ε α β : Type} {f : α → Except ε β} {elements : List α} {error : ε}
    (failed : elements.mapM f = .error error) : ∃ element ∈ elements, f element = .error error := by
  induction elements with
  | nil => cases failed
  | cons element elements ih =>
      simp only [List.mapM_cons, bind_eq_error_iff] at failed
      rcases failed with here | ⟨_, _, behind | ⟨_, _, impossible⟩⟩
      · exact ⟨element, List.mem_cons_self, here⟩
      · obtain ⟨other, member, there⟩ := ih behind
        exact ⟨other, List.mem_cons_of_mem _ member, there⟩
      · cases impossible

namespace Layout

/-! ### Structs by name -/

mutual

/-- The struct and all structs inside it, each with the name that it is stored under. -/
def Struct.stored (name : String) : Struct → List (String × Struct)
  | .mk fields ref => (name, .mk fields ref) :: fields.stored

def Fields.stored : Fields → List (String × Struct)
  | .absent | .names _ => []
  | .members members => members.stored

def Members.stored : Members → List (String × Struct)
  | .nil => []
  | .cons _ none rest => rest.stored
  | .cons name (some struct) rest => struct.stored name ++ rest.stored

end

mutual

theorem Struct.map_snd_stored (name : String) (struct : Struct) :
    (struct.stored name).map Prod.snd = struct.within := by
  match struct with
  | .mk fields ref => exact congrArg (Struct.mk fields ref :: ·) fields.map_snd_stored

theorem Fields.map_snd_stored (fields : Fields) : fields.stored.map Prod.snd = fields.within := by
  match fields with
  | .absent | .names names => rfl
  | .members members => exact members.map_snd_stored

theorem Members.map_snd_stored (members : Members) :
    members.stored.map Prod.snd = members.within := by
  match members with
  | .nil => rfl
  | .cons name none rest => exact rest.map_snd_stored
  | .cons name (some struct) rest =>
      rw [Members.stored, List.map_append, struct.map_snd_stored name, rest.map_snd_stored]
      rfl

end

theorem mem_within_of_stored {name : String} {struct : Struct} {entry : String × Struct}
    (member : entry ∈ struct.stored name) : entry.2 ∈ struct.within :=
  struct.map_snd_stored name ▸ List.mem_map_of_mem member

/-- All structs of a source, at any depth. -/
def Source.structs (source : Source) : List (String × Struct) :=
  source.entries.flatMap fun entry => entry.2.stored entry.1

theorem Source.mem_structs {source : Source} {entry inner : String × Struct}
    (listed : entry ∈ source.entries) (inside : inner ∈ entry.2.stored entry.1) :
    inner ∈ source.structs :=
  List.mem_flatMap.mpr ⟨entry, listed, inside⟩

/-! ### What errors say -/

/-- The defect that an error names is there. -/
def Error.Genuine (source : Source) : Error → Prop
  | .cyclicRef name => Relation.TransGen (Refers source.definitions) name name
  | .refNotFound name =>
      (∃ entry ∈ source.structs, entry.2.ref? = some name) ∧
        name ∉ source.definitions.map Prod.fst
  | .refAndFields name =>
      ∃ struct, (name, struct) ∈ source.structs ∧ struct.ref?.isSome = true ∧
        struct.hasFields = true
  | .emptyStruct name =>
      ∃ struct, (name, struct) ∈ source.structs ∧ struct.ref? = none ∧ struct.hasFields = false
  | .notStruct .definition name => ∃ struct, (name, struct) ∈ source.definitions ∧ struct.BareRef
  | .notStruct .layout name => ∃ struct, (name, struct) ∈ source.layout ∧ struct.BareRef

def Struct.defect? (name : String) (struct : Struct) : Option Error :=
  match struct.ref?.isSome, struct.hasFields with
  | true, true => some (.refAndFields name)
  | false, false => some (.emptyStruct name)
  | _, _ => none

theorem genuine_of_defect? {source : Source} {entry : String × Struct}
    (listed : entry ∈ source.structs) {error : Error}
    (defect : entry.2.defect? entry.1 = some error) : error.Genuine source := by
  obtain ⟨name, struct⟩ := entry
  unfold Struct.defect? at defect
  split at defect
  next ref fields =>
    obtain rfl := Option.some.inj defect
    exact ⟨struct, listed, ref, fields⟩
  next ref fields =>
    obtain rfl := Option.some.inj defect
    exact ⟨struct, listed, by simpa using ref, fields⟩
  next => cases defect

/-! ### Errors of the resolver -/

/-- Some structs are not converted because one of them has a defect of its own, or because a
reference of one of them could not be followed. -/
def Fails (follow : Follow) (structs : List (String × Struct)) (error : Error) : Prop :=
  ∃ entry ∈ structs, entry.2.defect? entry.1 = some error ∨
    ∃ target known, entry.2.ref? = some target ∧ follow target known = .error error

theorem Fails.mono {follow : Follow} {structs others : List (String × Struct)} {error : Error}
    (fails : Fails follow structs error) (listed : ∀ entry ∈ structs, entry ∈ others) :
    Fails follow others error := by
  obtain ⟨entry, member, reason⟩ := fails
  exact ⟨entry, listed entry member, reason⟩

section Convert

variable {follow : Follow} {error : Error}

mutual

theorem Struct.fails_of_convert {name : String} {struct : Struct} {known : Definitions}
    (failed : struct.convert follow name known = .error error) :
    Fails follow (struct.stored name) error := by
  match struct with
  | .mk .absent none | .mk (.names names) (some target) | .mk (.members members) (some target) =>
      obtain rfl := Except.error.inj failed
      exact ⟨_, List.mem_cons_self, .inl rfl⟩
  | .mk .absent (some target) =>
      simp only [Struct.convert, bind_eq_error_iff] at failed
      rcases failed with followed | ⟨_, _, impossible⟩
      · exact ⟨_, List.mem_cons_self, .inr ⟨target, known, rfl, followed⟩⟩
      · cases impossible
  | .mk (.names names) none => cases failed
  | .mk (.members members) none =>
      simp only [Struct.convert, bind_eq_error_iff] at failed
      rcases failed with inside | ⟨_, _, impossible⟩
      · exact (Members.fails_of_convert inside).mono fun entry => List.mem_cons_of_mem _
      · cases impossible

theorem Members.fails_of_convert {members : Members} {known : Definitions}
    (failed : members.convert follow known = .error error) :
    Fails follow members.stored error := by
  match members with
  | .nil => cases failed
  | .cons name none rest =>
      simp only [Members.convert, bind_eq_error_iff] at failed
      rcases failed with behind | ⟨_, _, impossible⟩
      · change Fails follow rest.stored error
        exact Members.fails_of_convert behind
      · cases impossible
  | .cons name (some struct) rest =>
      simp only [Members.convert, bind_eq_error_iff] at failed
      rcases failed with here | ⟨_, _, behind | ⟨_, _, impossible⟩⟩
      · exact (Struct.fails_of_convert here).mono fun entry => List.mem_append_left _
      · exact (Members.fails_of_convert behind).mono fun entry => List.mem_append_right _
      · cases impossible

end

end Convert

theorem fails_or_bareRef {α : Type} (result : List Item → Nat → Definitions → α) {follow : Follow}
    {known : Definitions} {name : String} {struct : Struct} {refused error : Error}
    (failed : (do
      match ← struct.convert follow name known with
      | (.struct _ fields count, later) => return result fields count later
      | _ => .error refused : Except Error α) = .error error) :
    Fails follow (struct.stored name) error ∨ (error = refused ∧ struct.BareRef) := by
  rw [bind_eq_error_iff] at failed
  rcases failed with inside | ⟨⟨item, later⟩, converted, built⟩
  · exact .inl (Struct.fails_of_convert inside)
  · rcases Struct.convert_kind converted with ⟨_, _, _, _, rfl⟩ | ⟨bare, _, _, _, rfl⟩
    · cases built
    · exact .inr ⟨(Except.error.inj built).symm, bare⟩

/-- The name is that of a definition, or some struct refers to it. -/
def Source.Asks (source : Source) (name : String) : Prop :=
  name ∈ source.definitions.map Prod.fst ∨ ∃ entry ∈ source.structs, entry.2.ref? = some name

/-- While all that is under way leads to `name`, an error in resolving it is genuine. -/
theorem Source.genuine_of_resolve {source : Source} {depth : Nat} {pending : List String}
    (room : Room source.definitions depth pending) {name : String} (asked : source.Asks name)
    (leading : ∀ other ∈ pending, Relation.TransGen (Refers source.definitions) other name)
    {known : Definitions} {error : Error}
    (failed : resolve source.definitions depth pending name known = .error error) :
    error.Genuine source := by
  induction depth generalizing pending name known with
  | zero => exact absurd room.pos (Nat.lt_irrefl 0)
  | succ depth ih =>
      cases before : known.lookup name with
      | some definition =>
          simp only [resolve, before] at failed
          cases failed
      | none =>
          cases found : source.definitions.lookup name with
          | none =>
              simp only [resolve, before, found] at failed
              obtain rfl := Except.error.inj failed
              have unknown : name ∉ source.definitions.map Prod.fst := fun listed =>
                Ordered.mem_keys_iff.mp listed found
              exact ⟨asked.resolve_left unknown, unknown⟩
          | some struct =>
              have member := Ordered.mem_of_lookup found
              have listed : (name, struct) ∈ source.entries := List.mem_append_left _ member
              simp only [resolve, before, found] at failed
              by_cases underWay : pending.contains name = true
              · rw [if_pos underWay] at failed
                obtain rfl := Except.error.inj failed
                exact leading name (by simpa using underWay)
              · rw [if_neg underWay] at failed
                have fresh : name ∉ pending := by simpa using underWay
                rcases fails_or_bareRef _ failed with ⟨entry, inside, reason⟩ | ⟨rfl, bare⟩
                · have stored := source.mem_structs listed inside
                  rcases reason with defect | ⟨target, later, ref, followed⟩
                  · exact genuine_of_defect? stored defect
                  · have refers : Refers source.definitions name target :=
                      ⟨struct, entry.2, member, mem_within_of_stored inside, ref⟩
                    refine ih (room.enter fresh (mem_names_of_lookup found))
                      (.inr ⟨entry, stored, ref⟩) ?_ followed
                    -- The chain of references is longer by the one from `name` to `target`.
                    intro other older
                    rcases List.mem_cons.mp older with rfl | earlier
                    · exact .single refers
                    · exact (leading other earlier).tail refers
                · exact ⟨struct, member, bare⟩

theorem Source.genuine_of_follow {source : Source} {name : String} (asked : source.Asks name)
    {known : Definitions} {error : Error} (failed : source.follow name known = .error error) :
    error.Genuine source :=
  source.genuine_of_resolve (room_nil (Nat.lt_succ_self _)) asked (by simp) failed

theorem Source.genuine_of_definitionsOf {source : Source} {error : Error}
    (failed : source.definitionsOf = .error error) : error.Genuine source := by
  obtain ⟨entry, member, known, refused⟩ := exists_of_foldlM_eq_error failed
  cases followed : source.follow entry.1 known with
  | ok result =>
      rw [followed] at refused
      cases refused
  | error other =>
      rw [followed] at refused
      obtain rfl := Except.error.inj refused
      exact source.genuine_of_follow (.inl (List.mem_map_of_mem member)) followed

theorem Source.genuine_of_itemsOf {source : Source} {known : Definitions} {error : Error}
    (failed : source.itemsOf known = .error error) : error.Genuine source := by
  obtain ⟨entry, member, refused⟩ := exists_of_mapM_eq_error failed
  have listed : entry ∈ source.entries := List.mem_append_right _ member
  rcases fails_or_bareRef (fun fields _ _ => (entry.1, fields)) refused with
    ⟨inner, inside, defect | ⟨target, later, ref, followed⟩⟩ | ⟨rfl, bare⟩
  · exact genuine_of_defect? (source.mem_structs listed inside) defect
  · exact source.genuine_of_follow (.inr ⟨inner, source.mem_structs listed inside, ref⟩) followed
  · exact ⟨entry.2, member, bare⟩

/-! ### Order does not matter -/

def contentStored : String × Option Struct → List (String × Struct)
  | (_, none) => []
  | (name, some struct) => struct.stored name

theorem Members.stored_eq (members : Members) :
    members.stored = members.entries.flatMap contentStored := by
  match members with
  | .nil => rfl
  | .cons name none rest => exact rest.stored_eq
  | .cons name (some struct) rest => exact congrArg (struct.stored name ++ ·) rest.stored_eq

theorem Members.mem_stored_insert {name : String} {content : Option Struct} {members : Members}
    {entry : String × Struct} :
    entry ∈ (members.insert name content).stored ↔
      entry ∈ contentStored (name, content) ∨ entry ∈ members.stored := by
  rw [Members.stored_eq, Members.stored_eq, Members.entries_insert, ← List.mem_append,
    ← List.flatMap_cons]
  exact ((List.perm_orderedInsert ByName _ _).flatMap_right _).mem_iff

/-- A struct of the same name, up to the order of what is inside it. -/
def StoredAs (structs : List (String × Struct)) (entry : String × Struct) : Prop :=
  ∃ struct, (entry.1, struct) ∈ structs ∧ struct.sorted = entry.2

mutual

theorem Struct.storedAs_of_sorted {struct : Struct} {name : String} {entry : String × Struct}
    (member : entry ∈ struct.sorted.stored name) : StoredAs (struct.stored name) entry := by
  match struct with
  | .mk fields ref =>
      rcases List.mem_cons.mp member with rfl | below
      · exact ⟨_, List.mem_cons_self, rfl⟩
      · obtain ⟨inner, inside, same⟩ := fields.storedAs_of_sorted below
        exact ⟨inner, List.mem_cons_of_mem _ inside, same⟩

theorem Fields.storedAs_of_sorted {fields : Fields} {entry : String × Struct}
    (member : entry ∈ fields.sorted.stored) : StoredAs fields.stored entry := by
  match fields with
  | .absent | .names names => cases member
  | .members members => exact members.storedAs_of_sorted member

theorem Members.storedAs_of_sorted {members : Members} {entry : String × Struct}
    (member : entry ∈ members.sorted.stored) : StoredAs members.stored entry := by
  match members with
  | .nil => cases member
  | .cons name none rest =>
      rcases Members.mem_stored_insert.mp member with here | behind
      · cases here
      · exact rest.storedAs_of_sorted behind
  | .cons name (some struct) rest =>
      rcases Members.mem_stored_insert.mp member with here | behind
      · obtain ⟨inner, inside, same⟩ := struct.storedAs_of_sorted here
        exact ⟨inner, List.mem_append_left _ inside, same⟩
      · obtain ⟨inner, inside, same⟩ := rest.storedAs_of_sorted behind
        exact ⟨inner, List.mem_append_right _ inside, same⟩

end

theorem Source.storedAs_of_sorted {source : Source} {entry : String × Struct}
    (member : entry ∈ source.sorted.structs) : StoredAs source.structs entry := by
  obtain ⟨outer, listed, inside⟩ := List.mem_flatMap.mp member
  obtain ⟨other, place, rfl⟩ := Source.mem_entries_sorted.mp listed
  obtain ⟨struct, stored, same⟩ := other.2.storedAs_of_sorted inside
  exact ⟨struct, source.mem_structs place stored, same⟩

theorem Source.exists_of_sorted {source : Source} {name : String} {P : Option String → Bool → Prop}
    (found : ∃ struct, (name, struct) ∈ source.sorted.structs ∧ P struct.ref? struct.hasFields) :
    ∃ struct, (name, struct) ∈ source.structs ∧ P struct.ref? struct.hasFields := by
  obtain ⟨inner, member, holds⟩ := found
  obtain ⟨struct, stored, rfl⟩ := source.storedAs_of_sorted member
  rw [struct.ref?_sorted, struct.hasFields_sorted] at holds
  exact ⟨struct, stored, holds⟩

theorem bareRef_of_sortedEntries {entries : List (String × Struct)} {name : String}
    (found : ∃ struct, (name, struct) ∈ sortedEntries entries ∧ struct.BareRef) :
    ∃ struct, (name, struct) ∈ entries ∧ struct.BareRef := by
  obtain ⟨struct, member, bare⟩ := found
  obtain ⟨other, listed, same⟩ := mem_sortedEntries.mp member
  obtain ⟨rfl, rfl⟩ := Prod.mk.inj same
  exact ⟨other.2, listed, other.2.bareRef_sorted.mp bare⟩

theorem Error.Genuine.of_sorted {source : Source} {error : Error}
    (genuine : error.Genuine source.sorted) : error.Genuine source := by
  match error with
  | .cyclicRef name =>
      have refers : Refers source.sorted.definitions = Refers source.definitions :=
        refers_sorted source.definitions
      change Relation.TransGen (Refers source.sorted.definitions) name name at genuine
      rwa [refers] at genuine
  | .refNotFound name =>
      obtain ⟨⟨entry, member, ref⟩, unknown⟩ := genuine
      obtain ⟨struct, stored, same⟩ := source.storedAs_of_sorted member
      have names := names_sortedEntries source.definitions
      refine ⟨⟨_, stored, ?_⟩, fun listed => unknown (names.mem_iff.mpr listed)⟩
      rw [← ref, ← same, struct.ref?_sorted]
  | .refAndFields name =>
      exact Source.exists_of_sorted (P := fun ref fields => ref.isSome = true ∧ fields = true) genuine
  | .emptyStruct name =>
      exact Source.exists_of_sorted (P := fun ref fields => ref = none ∧ fields = false) genuine
  | .notStruct .definition name => exact bareRef_of_sortedEntries genuine
  | .notStruct .layout name => exact bareRef_of_sortedEntries genuine

theorem genuine_of_ofSource {source : Source} {error : Error}
    (failed : ofSource source = .error error) : error.Genuine source := by
  apply Error.Genuine.of_sorted
  simp only [ofSource, bind_eq_error_iff] at failed
  rcases failed with first | ⟨definitions, _, second | ⟨_, _, impossible⟩⟩
  · exact Source.genuine_of_definitionsOf first
  · exact Source.genuine_of_itemsOf second
  · cases impossible

/-- A document that passes the schema fails, if at all, with an error of the resolver, and what the
error names is there: a definition that leads back to itself, a reference to nothing, a struct with
both or neither of a reference and fields, or a bare reference where a struct is wanted. -/
theorem parse_failure_genuine (text : String) (source : Source) (document : Document text source)
    (failure : Failure) (failed : parse text = .error failure) :
    ∃ error, failure = .layout error ∧ error.Genuine source := by
  rw [document.parse_eq] at failed
  cases resolved : ofSource source with
  | ok layout =>
      rw [resolved] at failed
      cases failed
  | error error =>
      rw [resolved] at failed
      exact ⟨error, (Except.error.inj failed).symm, genuine_of_ofSource resolved⟩

def selfText : String :=
  "definitions: {A: {fields: {u: , x: {fields: {y: {ref: A}}}}}}\n" ++
    "layout: {main: {fields: [z]}}\n"

def layoutError? : Except Failure Layout → Option Error
  | .error (.layout error) => some error
  | _ => none

theorem layoutError?_eq_some {outcome : Except Failure Layout} {error : Error}
    (failed : layoutError? outcome = some error) : outcome = .error (.layout error) := by
  unfold layoutError? at failed
  split at failed
  next => rw [Option.some.inj failed]
  next => cases failed

theorem document_selfText : ∃ source, Document selfText source ∧
    parse selfText = .error (.layout (.cyclicRef "A")) := by
  have evaluated : ((Yaml.Data.ofText selfText).toOption.bind fun data =>
      (Source.ofData data).toOption.map fun _ => layoutError? (parse selfText)) =
        some (some (.cyclicRef "A")) := by decide +kernel
  simp only [Option.bind_eq_some_iff, Option.map_eq_some_iff, toOption_eq_some_iff] at evaluated
  obtain ⟨data, read, source, checked, failed⟩ := evaluated
  exact ⟨source, ⟨data, read, checked⟩, layoutError?_eq_some failed⟩

theorem parse_failure_genuine_self : ∃ source, Document selfText source ∧
    parse selfText = .error (.layout (.cyclicRef "A")) ∧
    Relation.TransGen (Refers source.definitions) "A" "A" := by
  obtain ⟨source, document, failed⟩ := document_selfText
  obtain ⟨error, same, genuine⟩ := parse_failure_genuine selfText source document _ failed
  obtain rfl := Failure.layout.inj same
  exact ⟨source, document, failed, genuine⟩

end Layout

end Palette
