import Palette.Layout.Resolve
import Palette.Proofs.LayoutResolve
import Mathlib.Data.List.Nodup
import Mathlib.Data.List.Sort

/-!
Layout sources as documents give them, and in order. A document that passes the schema has distinct
names in each of its mappings, at every depth: of two keys that stand for one name the later gives
the content. Putting a source in order sorts each mapping on its own, so it moves entries and
changes nothing else.
-/

namespace Palette

namespace Ordered

variable {κ α : Type} [DecidableEq κ]

theorem nodup_put (key : κ) (value : α) {m : List (κ × α)} (distinct : (m.map Prod.fst).Nodup) :
    ((put key value m).map Prod.fst).Nodup := by
  by_cases known : key ∈ m.map Prod.fst
  · rwa [keys_put_of_mem key value m known]
  · rw [put_of_not_mem key value m known, List.map_append]
    exact distinct.append (List.nodup_singleton key) (by simpa using known)

theorem mem_put {key : κ} {value : α} {m : List (κ × α)} {entry : κ × α}
    (member : entry ∈ put key value m) : entry = (key, value) ∨ entry ∈ m := by
  induction m with
  | nil => exact .inl (by simpa [put] using member)
  | cons first rest ih =>
      obtain ⟨k, v⟩ := first
      by_cases here : k = key
      · subst here
        rw [put, if_pos rfl, List.mem_cons] at member
        exact member.imp_right (List.mem_cons_of_mem _)
      · rw [put, if_neg here, List.mem_cons] at member
        rcases member with rfl | behind
        · exact .inr List.mem_cons_self
        · exact (ih behind).imp_right (List.mem_cons_of_mem _)

theorem foldl_put (pairs m : List (κ × α)) (distinct : (m.map Prod.fst).Nodup) :
    ((pairs.foldl (fun m p => put p.1 p.2 m) m).map Prod.fst).Nodup ∧
      ∀ entry ∈ pairs.foldl (fun m p => put p.1 p.2 m) m, entry ∈ m ∨ entry ∈ pairs := by
  induction pairs generalizing m with
  | nil => exact ⟨distinct, fun entry member => .inl member⟩
  | cons pair pairs ih =>
      obtain ⟨apart, origin⟩ := ih (put pair.1 pair.2 m) (nodup_put _ _ distinct)
      refine ⟨apart, fun entry member => ?_⟩
      rcases origin entry member with early | late
      · rcases mem_put early with rfl | before
        · exact .inr List.mem_cons_self
        · exact .inl before
      · exact .inr (List.mem_cons_of_mem _ late)

theorem nodup_ofList (pairs : List (κ × α)) : ((ofList pairs).map Prod.fst).Nodup :=
  (foldl_put pairs [] List.nodup_nil).1

theorem mem_of_mem_ofList {pairs : List (κ × α)} {entry : κ × α} (member : entry ∈ ofList pairs) :
    entry ∈ pairs := by
  rcases (foldl_put pairs [] List.nodup_nil).2 entry member with none | listed
  · simp at none
  · exact listed

section Lookup

variable {σ : Type} [BEq σ] [LawfulBEq σ] {m others : List (σ × α)} {key : σ} {value : α}

theorem mem_of_lookup (found : m.lookup key = some value) : (key, value) ∈ m := by
  obtain ⟨before, after, split, _⟩ := List.lookup_eq_some_iff.mp found
  simp [split]

theorem lookup_of_mem (distinct : (m.map Prod.fst).Nodup) (member : (key, value) ∈ m) :
    m.lookup key = some value := by
  induction m with
  | nil => simp at member
  | cons entry m ih =>
      rw [List.map_cons, List.nodup_cons] at distinct
      rcases List.mem_cons.mp member with rfl | behind
      · simp
      · have apart : key ≠ entry.1 := fun same =>
          distinct.1 (same ▸ List.mem_map_of_mem behind)
        rw [List.lookup_cons, beq_false_of_ne apart]
        exact ih distinct.2 behind

/-- With distinct keys, the same map is the same list up to its order. -/
theorem perm_iff_lookup (distinct : (m.map Prod.fst).Nodup)
    (apart : (others.map Prod.fst).Nodup) :
    m.Perm others ↔ ∀ key, m.lookup key = others.lookup key := by
  constructor
  · intro same key
    apply Option.ext
    intro value
    constructor
    · intro found
      exact lookup_of_mem apart (same.mem_iff.mp (mem_of_lookup found))
    · intro found
      exact lookup_of_mem distinct (same.mem_iff.mpr (mem_of_lookup found))
  · intro same
    apply (List.perm_ext_iff_of_nodup distinct.of_map apart.of_map).mpr
    rintro ⟨key, value⟩
    constructor
    · intro member
      exact mem_of_lookup ((same key).symm.trans (lookup_of_mem distinct member))
    · intro member
      exact mem_of_lookup ((same key).trans (lookup_of_mem apart member))

end Lookup

end Ordered

namespace Layout

/-! ### Names in mappings -/

def Members.entries : Members → List (String × Option Struct)
  | .nil => []
  | .cons name content rest => (name, content) :: rest.entries

def Members.names (members : Members) : List String := members.entries.map Prod.fst

mutual

def Struct.Distinct : Struct → Prop
  | .mk fields _ => fields.Distinct

def Fields.Distinct : Fields → Prop
  | .absent | .names _ => True
  | .members members => members.Distinct

def Members.Distinct : Members → Prop
  | .nil => True
  | .cons name none rest => name ∉ rest.names ∧ rest.Distinct
  | .cons name (some struct) rest => name ∉ rest.names ∧ struct.Distinct ∧ rest.Distinct

end

/-- The names of the entries are distinct, and so are those inside each entry. -/
def DistinctEntries (entries : List (String × Struct)) : Prop :=
  (entries.map Prod.fst).Nodup ∧ ∀ entry ∈ entries, entry.2.Distinct

structure Source.Distinct (source : Source) : Prop where
  definitions : DistinctEntries source.definitions
  layout : DistinctEntries source.layout

theorem entries_membersOf (entries : List (String × Option Struct)) :
    (membersOf entries).entries = entries := by
  induction entries with
  | nil => rfl
  | cons entry entries ih => rw [membersOf, Members.entries, ih]

theorem distinct_membersOf (entries : List (String × Option Struct))
    (apart : (entries.map Prod.fst).Nodup)
    (inner : ∀ entry ∈ entries, ∀ struct ∈ entry.2, struct.Distinct) :
    (membersOf entries).Distinct := by
  induction entries with
  | nil => trivial
  | cons entry entries ih =>
      obtain ⟨name, content⟩ := entry
      rw [List.map_cons, List.nodup_cons] at apart
      have fresh : name ∉ (membersOf entries).names := by
        rw [Members.names, entries_membersOf]
        exact apart.1
      have others := ih apart.2 fun other member => inner other (List.mem_cons_of_mem _ member)
      cases content with
      | none => exact ⟨fresh, others⟩
      | some struct => exact ⟨fresh, inner _ List.mem_cons_self struct rfl, others⟩

/-! ### Entries in order -/

section ByName

variable {α : Type}

def ByName (first second : String × α) : Prop := first.1 ≤ second.1

instance : DecidableRel (ByName : String × α → String × α → Prop) :=
  fun first second => inferInstanceAs (Decidable (first.1 ≤ second.1))

instance : Std.Total (ByName : String × α → String × α → Prop) :=
  ⟨fun first second => String.le_total first.1 second.1⟩

instance : IsTrans (String × α) ByName := ⟨fun _ _ _ => String.le_trans⟩

theorem eq_of_byName {first second : List (String × α)} (distinct : (first.map Prod.fst).Nodup)
    (same : first.Perm second) (ordered : first.Pairwise ByName) (others : second.Pairwise ByName) :
    first = second := by
  apply List.Perm.eq_of_pairwise _ ordered others same
  intro one other member listed below above
  exact List.inj_on_of_nodup_map distinct member (same.mem_iff.mpr listed)
    (String.le_antisymm below above)

end ByName

def sortedContent (entry : String × Option Struct) : String × Option Struct :=
  (entry.1, entry.2.map Struct.sorted)

theorem Members.entries_insert (name : String) (content : Option Struct) (members : Members) :
    (members.insert name content).entries =
      members.entries.orderedInsert ByName (name, content) := by
  match members with
  | .nil => rfl
  | .cons first inner rest =>
      rw [Members.insert, Members.entries, List.orderedInsert_cons]
      change _ = if name ≤ first then _ else _
      split
      · rfl
      · rw [Members.entries, Members.entries_insert name content rest]

theorem Members.entries_sorted (members : Members) :
    members.sorted.entries = (members.entries.map sortedContent).insertionSort ByName := by
  match members with
  | .nil => rfl
  | .cons name none rest | .cons name (some struct) rest =>
      rw [Members.sorted, Members.entries_insert, Members.entries_sorted rest]
      rfl

theorem sortedEntries_perm (entries : List (String × Struct)) :
    (sortedEntries entries).Perm (entries.map fun entry => (entry.1, entry.2.sorted)) :=
  List.mergeSort_perm _ _

theorem sortedEntries_of_ordered {entries : List (String × Struct)}
    (ordered : (entries.map Prod.fst).Pairwise (· ≤ ·)) :
    sortedEntries entries = entries.map fun entry => (entry.1, entry.2.sorted) := by
  apply List.mergeSort_of_pairwise
  simpa [List.pairwise_map] using ordered

theorem sortedEntries_ordered (entries : List (String × Struct)) :
    (sortedEntries entries).Pairwise ByName :=
  List.pairwise_mergeSort' ByName _

/-! ### Checks that pass -/

section Checks

variable {α β : Type}

theorem under_eq_ok_iff {steps : List Step} {checked : Checked α} {value : α} :
    under steps checked = .ok value ↔ checked = .ok value := by
  cases checked <;> simp [under]

theorem both_eq_ok_iff {first : Checked α} {second : Checked β} {pair : α × β} :
    both first second = .ok pair ↔ first = .ok pair.1 ∧ second = .ok pair.2 := by
  cases first <;> cases second <;> simp [both, Prod.ext_iff]

theorem either_eq_ok {first second : Checked α} {value : α}
    (passed : either first second = .ok value) : first = .ok value ∨ second = .ok value := by
  cases first with
  | ok => exact .inl passed
  | error =>
      cases second with
      | ok => exact .inr passed
      | error => simp [either] at passed

theorem mem_of_all {checks : List (Checked α)} {values : List α} (passed : all checks = .ok values) :
    ∀ value ∈ values, .ok value ∈ checks := by
  induction checks generalizing values with
  | nil =>
      obtain rfl := Except.ok.inj passed
      simp
  | cons check checks ih =>
      rw [all, map_eq_ok_iff] at passed
      obtain ⟨pair, passed, rfl⟩ := passed
      obtain ⟨first, others⟩ := both_eq_ok_iff.mp passed
      intro value member
      rcases List.mem_cons.mp member with rfl | behind
      · exact first ▸ List.mem_cons_self
      · exact List.mem_cons_of_mem _ (ih others value behind)

theorem mappingOf_eq_ok {entries : List (Yaml.Scalar × Yaml.NodeId)}
    {content : Yaml.NodeId → Checked α} {result : List (String × α)}
    (passed : mappingOf entries content = .ok result) :
    (result.map Prod.fst).Nodup ∧ ∀ entry ∈ result, ∃ id, content id = .ok entry.2 := by
  rw [mappingOf, map_eq_ok_iff] at passed
  obtain ⟨pairs, passed, rfl⟩ := passed
  refine ⟨Ordered.nodup_ofList pairs, fun entry member => ?_⟩
  have checked := mem_of_all passed entry (Ordered.mem_of_mem_ofList member)
  obtain ⟨source, _, same⟩ := List.mem_map.mp checked
  exact ⟨source.2, under_eq_ok_iff.mp (both_eq_ok_iff.mp same).2⟩

end Checks

/-! ### Documents -/

theorem partAt_eq_ok {α : Type} {entries : List (Yaml.Scalar × Yaml.NodeId)} {name : String}
    {missing : Checked α} {content : Yaml.NodeId → Checked α} {value : α}
    (passed : partAt entries name missing content = .ok value) :
    missing = .ok value ∨ ∃ id, content id = .ok value := by
  unfold partAt at passed
  split at passed
  next id _ => exact .inr ⟨id, under_eq_ok_iff.mp passed⟩
  next => exact .inl passed

theorem namesAt_distinct {d : Yaml.Data} {value : Yaml.Value} {fields : Fields}
    (passed : namesAt d value = .ok fields) : fields.Distinct := by
  unfold namesAt at passed
  split at passed
  iterate 3
    obtain ⟨names, _, rfl⟩ := map_eq_ok_iff.mp passed
    trivial
  simp [violates] at passed

theorem contentAt_distinct {d : Yaml.Data} {struct : Yaml.NodeId → Checked Struct}
    (structs : ∀ id value, struct id = .ok value → value.Distinct) {id : Yaml.NodeId}
    {content : Option Struct} (passed : contentAt d struct id = .ok content) :
    ∀ inner ∈ content, inner.Distinct := by
  unfold contentAt at passed
  split at passed
  · obtain rfl := Except.ok.inj passed
    simp
  · obtain ⟨value, checked, rfl⟩ := map_eq_ok_iff.mp passed
    simpa using structs id value checked

theorem fieldsAt_distinct {d : Yaml.Data} {struct : Yaml.NodeId → Checked Struct}
    (structs : ∀ id value, struct id = .ok value → value.Distinct) {id : Yaml.NodeId}
    {fields : Fields} (passed : fieldsAt d struct id = .ok fields) : fields.Distinct := by
  unfold fieldsAt at passed
  split at passed
  · obtain rfl := Except.ok.inj passed
    trivial
  · rcases either_eq_ok passed with mapping | sequence
    · rw [under_eq_ok_iff] at mapping
      unfold membersAt at mapping
      split at mapping
      · obtain ⟨members, checked, rfl⟩ := map_eq_ok_iff.mp mapping
        obtain ⟨apart, contents⟩ := mappingOf_eq_ok checked
        apply distinct_membersOf members apart
        intro entry member
        obtain ⟨inner, content⟩ := contents entry member
        exact contentAt_distinct structs content
      · simp [violates] at mapping
    · exact namesAt_distinct (under_eq_ok_iff.mp sequence)

theorem structAt_distinct (d : Yaml.Data) (depth : Nat) (enclosing : List Yaml.NodeId)
    (id : Yaml.NodeId) (struct : Struct) (passed : structAt d depth enclosing id = .ok struct) :
    struct.Distinct := by
  induction depth generalizing enclosing id struct with
  | zero => simp [structAt, violates] at passed
  | succ depth ih =>
      rw [structAt] at passed
      split at passed
      · simp [violates] at passed
      · split at passed
        · obtain ⟨parts, checked, rfl⟩ := map_eq_ok_iff.mp passed
          change parts.1.Distinct
          rcases partAt_eq_ok (both_eq_ok_iff.mp checked).1 with absent | ⟨inner, present⟩
          · rw [← Except.ok.inj absent]
            trivial
          · exact fieldsAt_distinct (ih (id :: enclosing)) present
        · simp [violates] at passed

theorem structsAt_distinct {d : Yaml.Data} {id : Yaml.NodeId} {entries : List (String × Struct)}
    (passed : structsAt d id = .ok entries) : DistinctEntries entries := by
  unfold structsAt at passed
  split at passed
  · obtain ⟨apart, contents⟩ := mappingOf_eq_ok passed
    refine ⟨apart, fun entry member => ?_⟩
    obtain ⟨inner, struct⟩ := contents entry member
    exact structAt_distinct d _ _ inner entry.2 struct
  · simp [violates] at passed

theorem distinctEntries_nil : DistinctEntries [] := ⟨List.nodup_nil, by simp⟩

theorem sourceOf_distinct {d : Yaml.Data} {entries : List (Yaml.Scalar × Yaml.NodeId)}
    {source : Source} (passed : sourceOf d entries = .ok source) : source.Distinct := by
  rw [sourceOf] at passed
  obtain ⟨parts, checked, rfl⟩ := map_eq_ok_iff.mp passed
  obtain ⟨definitions, rest⟩ := both_eq_ok_iff.mp checked
  constructor
  · rcases partAt_eq_ok definitions with absent | ⟨inner, present⟩
    · rw [← Except.ok.inj absent]
      exact distinctEntries_nil
    · exact structsAt_distinct present
  · rcases partAt_eq_ok (both_eq_ok_iff.mp rest).1 with absent | ⟨inner, present⟩
    · simp [under, violates] at absent
    · exact structsAt_distinct present

/-- The text is a YAML document that passes the schema, and `source` is what it says. -/
def Document (text : String) (source : Source) : Prop :=
  ∃ data, Yaml.Data.ofText text = .ok data ∧ Source.ofData data = .ok source

theorem Document.distinct {text : String} {source : Source} (document : Document text source) :
    source.Distinct := by
  obtain ⟨data, _, passed⟩ := document
  unfold Source.ofData at passed
  split at passed
  · exact sourceOf_distinct passed
  · split at passed
    · exact sourceOf_distinct passed
    · exact sourceOf_distinct passed
    · simp [violates] at passed

theorem Document.parse_eq {text : String} {source : Source} (document : Document text source) :
    parse text = (ofSource source).mapError .layout := by
  obtain ⟨data, read, passed⟩ := document
  rw [parse, read]
  change ((Source.ofData data).mapError Failure.schema >>= _) = _
  rw [passed]
  rfl

end Layout

end Palette
