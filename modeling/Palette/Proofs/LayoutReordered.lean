import Palette.Output.Header
import Palette.Output.ClassSource
import Palette.Proofs.LayoutSource

/-!
The order in which a mapping is written means nothing. Two sources that differ in it alone are the
same once they are put in order, so they are resolved alike: with the same error, or to the same
layout, and hence to the same texts.
-/

namespace Palette.Layout

/-! ### The same mappings in another order -/

mutual

/-- The same struct, up to the order in which the entries of its mappings are written. -/
def Struct.Reordered : Struct → Struct → Prop
  | .mk fields ref, .mk others target => fields.Reordered others ∧ ref = target

def Fields.Reordered : Fields → Fields → Prop
  | .absent, .absent => True
  | .names names, .names others => names = others
  | .members members, .members others => members.Reordered others.entries
  | _, _ => False

/-- Each member stands somewhere among `others`, and those behind it are what else there is. -/
def Members.Reordered : Members → List (String × Option Struct) → Prop
  | .nil, others => others = []
  | .cons name none rest, others =>
      ∃ front back, others = front ++ (name, none) :: back ∧ rest.Reordered (front ++ back)
  | .cons name (some struct) rest, others =>
      ∃ front inner back, others = front ++ (name, some inner) :: back ∧
        struct.Reordered inner ∧ rest.Reordered (front ++ back)

end

def ReorderedEntries : List (String × Struct) → List (String × Struct) → Prop
  | [], others => others = []
  | (name, struct) :: rest, others =>
      ∃ front inner back, others = front ++ (name, inner) :: back ∧
        struct.Reordered inner ∧ ReorderedEntries rest (front ++ back)

structure Source.Reordered (source other : Source) : Prop where
  definitions : ReorderedEntries source.definitions other.definitions
  layout : ReorderedEntries source.layout other.layout

/-! ### In order they are the same -/

theorem Members.Distinct.nodup {members : Members} (distinct : members.Distinct) :
    members.names.Nodup := by
  match members with
  | .nil => exact List.nodup_nil
  | .cons name none rest => exact List.nodup_cons.mpr ⟨distinct.1, distinct.2.nodup⟩
  | .cons name (some struct) rest => exact List.nodup_cons.mpr ⟨distinct.1, distinct.2.2.nodup⟩

theorem names_sortedContent (entries : List (String × Option Struct)) :
    (entries.map sortedContent).map Prod.fst = entries.map Prod.fst := by
  rw [List.map_map]
  rfl

theorem membersOf_entries (members : Members) : membersOf members.entries = members := by
  match members with
  | .nil => rfl
  | .cons name content rest => rw [Members.entries, membersOf, membersOf_entries rest]

theorem Members.sorted_eq_of_perm {members others : Members} (distinct : members.Distinct)
    (same : (members.entries.map sortedContent).Perm (others.entries.map sortedContent)) :
    members.sorted = others.sorted := by
  have moved := List.perm_insertionSort ByName (members.entries.map sortedContent)
  have apart : ((members.sorted.entries).map Prod.fst).Nodup := by
    rw [Members.entries_sorted, (moved.map Prod.fst).nodup_iff, names_sortedContent]
    exact distinct.nodup
  have entries : members.sorted.entries = others.sorted.entries := by
    rw [Members.entries_sorted] at apart
    rw [Members.entries_sorted, Members.entries_sorted]
    exact eq_of_byName apart (moved.trans (same.trans (List.perm_insertionSort ByName _).symm))
      (List.pairwise_insertionSort ByName _) (List.pairwise_insertionSort ByName _)
  rw [← membersOf_entries members.sorted, entries, membersOf_entries]

mutual

theorem Struct.Reordered.sorted_eq {struct other : Struct} (same : struct.Reordered other)
    (distinct : struct.Distinct) : struct.sorted = other.sorted := by
  match struct, other with
  | .mk fields ref, .mk others target =>
      obtain ⟨inner, rfl⟩ := same
      rw [Struct.sorted, Struct.sorted, inner.sorted_eq distinct]

theorem Fields.Reordered.sorted_eq {fields other : Fields} (same : fields.Reordered other)
    (distinct : fields.Distinct) : fields.sorted = other.sorted := by
  match fields, other with
  | .absent, .absent => rfl
  | .names names, .names others =>
      obtain rfl : names = others := same
      rfl
  | .members members, .members others =>
      have moved : members.Reordered others.entries := same
      rw [Fields.sorted, Fields.sorted]
      exact congrArg _ (Members.sorted_eq_of_perm distinct (moved.perm distinct))
  | .absent, .names _ | .absent, .members _ | .names _, .absent | .names _, .members _
  | .members _, .absent | .members _, .names _ => exact False.elim same

theorem Members.Reordered.perm {members : Members} {others : List (String × Option Struct)}
    (same : members.Reordered others) (distinct : members.Distinct) :
    (members.entries.map sortedContent).Perm (others.map sortedContent) := by
  match members with
  | .nil =>
      obtain rfl : others = [] := same
      exact .nil
  | .cons name none rest =>
      obtain ⟨front, back, rfl, behind⟩ := same
      have moved := behind.perm distinct.2
      rw [List.map_append] at moved ⊢
      exact (moved.cons _).trans List.perm_middle.symm
  | .cons name (some struct) rest =>
      obtain ⟨front, inner, back, rfl, here, behind⟩ := same
      have moved := behind.perm distinct.2.2
      rw [List.map_append] at moved ⊢
      rw [List.map_cons, sortedContent, Option.map_some, ← here.sorted_eq distinct.2.1]
      exact (moved.cons _).trans List.perm_middle.symm

end

theorem ReorderedEntries.perm {entries others : List (String × Struct)}
    (same : ReorderedEntries entries others) (distinct : ∀ entry ∈ entries, entry.2.Distinct) :
    (entries.map fun entry => (entry.1, entry.2.sorted)).Perm
      (others.map fun entry => (entry.1, entry.2.sorted)) := by
  induction entries generalizing others with
  | nil =>
      obtain rfl : others = [] := same
      exact .nil
  | cons entry entries ih =>
      obtain ⟨front, inner, back, rfl, here, behind⟩ := same
      have moved := ih behind fun other member => distinct other (List.mem_cons_of_mem _ member)
      rw [List.map_append] at moved ⊢
      rw [List.map_cons, List.map_cons, here.sorted_eq (distinct _ List.mem_cons_self)]
      exact (moved.cons _).trans List.perm_middle.symm

theorem sortedEntries_of_reordered {entries others : List (String × Struct)}
    (same : ReorderedEntries entries others) (distinct : DistinctEntries entries) :
    sortedEntries entries = sortedEntries others := by
  have moved := sortedEntries_perm entries
  have sorted := moved.trans ((same.perm distinct.2).trans (sortedEntries_perm others).symm)
  refine eq_of_byName ?_ sorted (sortedEntries_ordered entries) (sortedEntries_ordered others)
  rw [(moved.map Prod.fst).nodup_iff, List.map_map]
  exact distinct.1

theorem Source.Reordered.ofSource_eq {source other : Source} (same : source.Reordered other)
    (distinct : source.Distinct) : ofSource other = ofSource source := by
  have ordered : source.sorted = other.sorted := by
    rw [Source.sorted, Source.sorted,
      sortedEntries_of_reordered same.definitions distinct.definitions,
      sortedEntries_of_reordered same.layout distinct.layout]
  rw [ofSource, ofSource, ordered]

/-! ### Putting a source in order is a reordering -/

mutual

theorem Struct.reordered_sorted (struct : Struct) : struct.Reordered struct.sorted := by
  match struct with
  | .mk fields ref => exact ⟨fields.reordered_sorted, rfl⟩

theorem Fields.reordered_sorted (fields : Fields) : fields.Reordered fields.sorted := by
  match fields with
  | .absent => trivial
  | .names names => exact rfl
  | .members members =>
      apply Members.reordered_of_perm members
      rw [Members.entries_sorted]
      exact (List.perm_insertionSort ByName _).symm

theorem Members.reordered_of_perm (members : Members) {others : List (String × Option Struct)}
    (same : (members.entries.map sortedContent).Perm others) : members.Reordered others := by
  match members with
  | .nil => exact same.symm.eq_nil
  | .cons name none rest =>
      have member : (name, none) ∈ others := same.mem_iff.mp List.mem_cons_self
      obtain ⟨front, back, rfl⟩ := List.append_of_mem member
      exact ⟨front, back, rfl, rest.reordered_of_perm (same.trans List.perm_middle).cons_inv⟩
  | .cons name (some struct) rest =>
      have member : (name, some struct.sorted) ∈ others := same.mem_iff.mp List.mem_cons_self
      obtain ⟨front, back, rfl⟩ := List.append_of_mem member
      exact ⟨front, _, back, rfl, struct.reordered_sorted,
        rest.reordered_of_perm (same.trans List.perm_middle).cons_inv⟩

end

theorem ReorderedEntries.of_perm {entries others : List (String × Struct)}
    (same : (entries.map fun entry => (entry.1, entry.2.sorted)).Perm others) :
    ReorderedEntries entries others := by
  induction entries generalizing others with
  | nil => exact same.symm.eq_nil
  | cons entry entries ih =>
      have member : (entry.1, entry.2.sorted) ∈ others := same.mem_iff.mp List.mem_cons_self
      obtain ⟨front, back, rfl⟩ := List.append_of_mem member
      exact ⟨front, _, back, rfl, entry.2.reordered_sorted,
        ih (same.trans List.perm_middle).cons_inv⟩

theorem Source.reordered_sorted (source : Source) : source.Reordered source.sorted :=
  ⟨.of_perm (sortedEntries_perm _).symm, .of_perm (sortedEntries_perm _).symm⟩

/-! ### Documents -/

/-- The texts of the theme class for the outcome of reading a layout. -/
def classTexts (unit : String) (theme : Theme.Flat) (names : Output.Names)
    (outcome : Except Failure Layout) :=
  outcome.map fun layout =>
    (Printer.render unit (Output.header layout names : Printer.Program Output.Error),
      layout.flatten.map fun flat => Printer.render unit (Output.classSource flat theme names))

/-- However the mappings of a document are reordered, it is read with the same outcome, be it an
error or a layout, and so the theme class has the same texts. -/
theorem parse_eq_of_reordered (text : String) (source other : Source)
    (document : Document text source) (reordered : source.Reordered other) :
    ofSource other = ofSource source ∧
      ∀ rewritten, Document rewritten other →
        parse rewritten = parse text ∧
        ∀ unit theme names,
          classTexts unit theme names (parse rewritten) =
            classTexts unit theme names (parse text) := by
  have resolved := reordered.ofSource_eq document.distinct
  refine ⟨resolved, fun rewritten again => ?_⟩
  have same : parse rewritten = parse text := by
    rw [again.parse_eq, document.parse_eq, resolved]
  exact ⟨same, fun unit theme names => by rw [same]⟩

def backwardText : String :=
  "definitions: {Shades: {fields: {text: {ref: Pair}, line: }}, Pair: {fields: [b, a]}}\n" ++
    "layout: {tabs: {fields: {two: {ref: Shades}, one: }}, main: {fields: [z, y]}}\n"

theorem document_backwardText : ∃ source, Document backwardText source ∧
    source.definitions.map Prod.fst = ["Shades", "Pair"] ∧
    source.layout.map Prod.fst = ["tabs", "main"] := by
  have evaluated : ((Yaml.Data.ofText backwardText).toOption.bind fun data =>
      (Source.ofData data).toOption.map fun source =>
        (source.definitions.map Prod.fst, source.layout.map Prod.fst)) =
        some (["Shades", "Pair"], ["tabs", "main"]) := by decide +kernel
  simp only [Option.bind_eq_some_iff, Option.map_eq_some_iff, toOption_eq_some_iff] at evaluated
  obtain ⟨data, read, source, checked, names⟩ := evaluated
  exact ⟨source, ⟨data, read, checked⟩, Prod.mk.inj names⟩

theorem parse_eq_of_reordered_backward : ∃ source, Document backwardText source ∧
    source.definitions.map Prod.fst = ["Shades", "Pair"] ∧ source.Reordered source.sorted ∧
    ofSource source.sorted = ofSource source := by
  obtain ⟨source, document, names, _⟩ := document_backwardText
  exact ⟨source, document, names, source.reordered_sorted,
    (parse_eq_of_reordered backwardText source source.sorted document source.reordered_sorted).1⟩

end Palette.Layout
