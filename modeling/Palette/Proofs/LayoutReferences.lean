import Palette.Proofs.LayoutSource
import Mathlib.Logic.Relation

/-!
The structs of a source and the references between its definitions, at any depth. What makes a source
resolvable is said of them alone, and so it does not depend on the order in which they are written.
-/

namespace Palette.Layout

/-! ### Structs and references of a source -/

def Struct.ref? : Struct → Option String
  | .mk _ ref => ref

def Struct.hasFields : Struct → Bool
  | .mk .absent _ => false
  | .mk (.names _) _ | .mk (.members _) _ => true

/-- The struct has exactly one of a reference and fields. -/
def Struct.Definite (struct : Struct) : Prop := struct.ref?.isSome ≠ struct.hasFields

def Struct.BareRef (struct : Struct) : Prop :=
  struct.ref?.isSome = true ∧ struct.hasFields = false

mutual

def Struct.within : Struct → List Struct
  | .mk fields ref => .mk fields ref :: fields.within

def Fields.within : Fields → List Struct
  | .absent | .names _ => []
  | .members members => members.within

def Members.within : Members → List Struct
  | .nil => []
  | .cons _ none rest => rest.within
  | .cons _ (some struct) rest => struct.within ++ rest.within

end

/-- The definition `name` has a reference to `target`, at any depth. -/
def Refers (definitions : List (String × Struct)) (name target : String) : Prop :=
  ∃ struct inner, (name, struct) ∈ definitions ∧ inner ∈ struct.within ∧ inner.ref? = some target

def Source.entries (source : Source) : List (String × Struct) := source.definitions ++ source.layout

/-- What is asked of a source, all definitions counting whether they are used or not. -/
structure Source.Resolvable (source : Source) : Prop where
  definite : ∀ entry ∈ source.entries, ∀ struct ∈ entry.2.within, struct.Definite
  noBareRef : ∀ entry ∈ source.entries, ¬ entry.2.BareRef
  found : ∀ entry ∈ source.entries, ∀ struct ∈ entry.2.within, ∀ target, struct.ref? = some target →
    target ∈ source.definitions.map Prod.fst
  acyclic : ∀ name, ¬ Relation.TransGen (Refers source.definitions) name name

/-! ### Order does not matter -/

theorem Struct.ref?_sorted (struct : Struct) : struct.sorted.ref? = struct.ref? := by
  match struct with
  | .mk fields ref => rfl

theorem Struct.hasFields_sorted (struct : Struct) : struct.sorted.hasFields = struct.hasFields := by
  match struct with
  | .mk .absent ref | .mk (.names names) ref | .mk (.members members) ref => rfl

theorem Struct.definite_sorted (struct : Struct) : struct.sorted.Definite ↔ struct.Definite := by
  rw [Struct.Definite, Struct.Definite, struct.ref?_sorted, struct.hasFields_sorted]

theorem Struct.bareRef_sorted (struct : Struct) : struct.sorted.BareRef ↔ struct.BareRef := by
  rw [Struct.BareRef, Struct.BareRef, struct.ref?_sorted, struct.hasFields_sorted]

def contentWithin : String × Option Struct → List Struct
  | (_, none) => []
  | (_, some struct) => struct.within

theorem Members.within_eq (members : Members) :
    members.within = members.entries.flatMap contentWithin := by
  match members with
  | .nil => rfl
  | .cons name none rest => exact rest.within_eq
  | .cons name (some struct) rest => exact congrArg (struct.within ++ ·) rest.within_eq

theorem Members.within_insert (name : String) (content : Option Struct) (members : Members) :
    (members.insert name content).within.Perm
      (contentWithin (name, content) ++ members.within) := by
  rw [Members.within_eq, Members.within_eq, Members.entries_insert, ← List.flatMap_cons]
  exact (List.perm_orderedInsert ByName _ _).flatMap_right _

mutual

theorem Struct.within_sorted (struct : Struct) :
    struct.sorted.within.Perm (struct.within.map Struct.sorted) := by
  match struct with
  | .mk fields ref => exact (fields.within_sorted).cons _

theorem Fields.within_sorted (fields : Fields) :
    fields.sorted.within.Perm (fields.within.map Struct.sorted) := by
  match fields with
  | .absent | .names names => exact .nil
  | .members members => exact members.within_sorted

theorem Members.within_sorted (members : Members) :
    members.sorted.within.Perm (members.within.map Struct.sorted) := by
  match members with
  | .nil => exact .nil
  | .cons name none rest =>
      exact (Members.within_insert name none rest.sorted).trans rest.within_sorted
  | .cons name (some struct) rest =>
      rw [Members.within, List.map_append]
      exact (Members.within_insert name _ rest.sorted).trans
        (struct.within_sorted.append rest.within_sorted)

end

theorem mem_within_sorted {struct inner : Struct} :
    inner ∈ struct.sorted.within ↔ ∃ other ∈ struct.within, other.sorted = inner := by
  rw [struct.within_sorted.mem_iff, List.mem_map]

theorem mem_sortedEntries {entries : List (String × Struct)} {entry : String × Struct} :
    entry ∈ sortedEntries entries ↔
      ∃ other ∈ entries, (other.1, other.2.sorted) = entry := by
  rw [(sortedEntries_perm entries).mem_iff, List.mem_map]

theorem refers_sorted (definitions : List (String × Struct)) :
    Refers (sortedEntries definitions) = Refers definitions := by
  funext name target
  apply propext
  constructor
  · rintro ⟨struct, inner, member, within, ref⟩
    obtain ⟨entry, listed, same⟩ := mem_sortedEntries.mp member
    obtain ⟨rfl, rfl⟩ := Prod.mk.inj same
    obtain ⟨other, inside, rfl⟩ := mem_within_sorted.mp within
    exact ⟨entry.2, other, listed, inside, other.ref?_sorted ▸ ref⟩
  · rintro ⟨struct, inner, member, within, ref⟩
    exact ⟨struct.sorted, inner.sorted, mem_sortedEntries.mpr ⟨_, member, rfl⟩,
      mem_within_sorted.mpr ⟨inner, within, rfl⟩, inner.ref?_sorted.trans ref⟩

theorem names_sortedEntries (entries : List (String × Struct)) :
    ((sortedEntries entries).map Prod.fst).Perm (entries.map Prod.fst) := by
  have moved := (sortedEntries_perm entries).map Prod.fst
  rwa [List.map_map] at moved

theorem Source.mem_entries_sorted {source : Source} {entry : String × Struct} :
    entry ∈ source.sorted.entries ↔
      ∃ other ∈ source.entries, (other.1, other.2.sorted) = entry := by
  rw [Source.entries, Source.entries, List.mem_append]
  change entry ∈ sortedEntries _ ∨ entry ∈ sortedEntries _ ↔ _
  rw [mem_sortedEntries, mem_sortedEntries]
  simp only [List.mem_append, or_and_right, exists_or]

theorem Source.resolvable_sorted (source : Source) :
    source.sorted.Resolvable ↔ source.Resolvable := by
  have names : ∀ name, name ∈ source.sorted.definitions.map Prod.fst ↔
      name ∈ source.definitions.map Prod.fst := fun name =>
    (names_sortedEntries source.definitions).mem_iff
  have refers : Refers source.sorted.definitions = Refers source.definitions :=
    refers_sorted source.definitions
  constructor
  · intro ordered
    have place : ∀ {entry}, entry ∈ source.entries →
        (entry.1, entry.2.sorted) ∈ source.sorted.entries := fun member =>
      Source.mem_entries_sorted.mpr ⟨_, member, rfl⟩
    refine ⟨?_, ?_, ?_, refers ▸ ordered.acyclic⟩
    · intro entry member struct within
      exact struct.definite_sorted.mp (ordered.definite _ (place member) _
        (mem_within_sorted.mpr ⟨struct, within, rfl⟩))
    · intro entry member bare
      exact ordered.noBareRef _ (place member) (entry.2.bareRef_sorted.mpr bare)
    · intro entry member struct within target ref
      exact (names target).mp (ordered.found _ (place member) _
        (mem_within_sorted.mpr ⟨struct, within, rfl⟩) target (struct.ref?_sorted.trans ref))
  · intro plain
    refine ⟨?_, ?_, ?_, refers ▸ plain.acyclic⟩
    · intro entry member struct within
      obtain ⟨other, listed, rfl⟩ := Source.mem_entries_sorted.mp member
      obtain ⟨inner, inside, rfl⟩ := mem_within_sorted.mp within
      exact inner.definite_sorted.mpr (plain.definite other listed inner inside)
    · intro entry member bare
      obtain ⟨other, listed, rfl⟩ := Source.mem_entries_sorted.mp member
      exact plain.noBareRef other listed (other.2.bareRef_sorted.mp bare)
    · intro entry member struct within target ref
      obtain ⟨other, listed, rfl⟩ := Source.mem_entries_sorted.mp member
      obtain ⟨inner, inside, rfl⟩ := mem_within_sorted.mp within
      exact (names target).mpr
        (plain.found other listed inner inside target (inner.ref?_sorted ▸ ref))

end Palette.Layout
