import Palette.Proofs.LayoutAccepted
import Palette.Proofs.StructShape

/-!
The order of the declarations in the header. Definitions are printed in the order in which they were
resolved, and a definition is noted only when all that it refers to has been: so each struct is
declared once, and every type is complete where a member has it.
-/

namespace Palette.Layout

/-! ### Definitions are noted once -/

/-- A definition that is under way is not noted in between, so its name is new when it is. -/
theorem resolve_nodup {definitions : List (String × Struct)} {depth : Nat} {pending : List String}
    {name : String} {known later : Definitions} {definition : Definition}
    (resolved : resolve definitions depth pending name known = .ok (definition, later))
    (distinct : (known.map Prod.fst).Nodup) : (later.map Prod.fst).Nodup := by
  induction depth generalizing pending name known definition later with
  | zero => simp [resolve] at resolved
  | succ depth ih =>
      obtain ⟨_, rfl⟩ | ⟨fresh, _, struct, label, middle, _, converted, rfl⟩ :=
        resolve_cases resolved
      · exact distinct
      · have before : (middle.map Prod.fst).Nodup :=
          Struct.convert_keeps (fun _ _ _ _ followed => ih followed) converted distinct
        have grows := (Struct.convert_grows (resolve_faithful _ _ _) converted).1
        have absent := grows.apart name List.mem_cons_self fresh
        have new : name ∉ middle.map Prod.fst := fun listed =>
          Ordered.mem_keys_iff.mp listed absent
        rw [List.map_append]
        exact before.append (List.nodup_singleton name) (by simpa using new)

theorem Source.nodup_definitions (source : Source) (entries : List (String × Struct))
    {known later : Definitions}
    (folded : entries.foldlM (fun known entry => (source.follow entry.1 known).map (·.2)) known =
      .ok later)
    (distinct : (known.map Prod.fst).Nodup) : (later.map Prod.fst).Nodup := by
  induction entries generalizing known with
  | nil =>
      obtain rfl := Except.ok.inj folded
      exact distinct
  | cons entry entries ih =>
      simp only [List.foldlM_cons, bind_eq_ok_iff, map_eq_ok_iff] at folded
      obtain ⟨middle, ⟨⟨definition, next⟩, followed, rfl⟩, rest⟩ := folded
      exact ih rest (resolve_nodup followed distinct)

theorem Source.perm_definitionsOf {source : Source}
    (distinct : (source.definitions.map Prod.fst).Nodup) {definitions : Definitions}
    (resolved : source.definitionsOf = .ok definitions) :
    (definitions.map Prod.fst).Perm (source.definitions.map Prod.fst) := by
  have nodup := source.nodup_definitions source.definitions resolved List.nodup_nil
  have traced := source.traced_definitions source.definitions resolved .nil
  obtain ⟨_, all⟩ := Source.settled_definitionsOf resolved
  rw [List.perm_ext_iff_of_nodup nodup distinct]
  intro name
  constructor
  · intro listed
    obtain ⟨struct, source, _⟩ := traced.struct_of_known (Ordered.mem_keys_iff.mp listed)
    exact mem_names_of_lookup source
  · intro listed
    obtain ⟨entry, member, rfl⟩ := List.mem_map.mp listed
    exact Ordered.mem_keys_iff.mpr (all entry member)

theorem document_of_parse {text : String} {layout : Layout} (parsed : parse text = .ok layout) :
    ∃ source, Document text source ∧ ofSource source = .ok layout := by
  simp only [parse, bind_eq_ok_iff, mapError_eq_ok_iff] at parsed
  obtain ⟨data, read, source, checked, resolved⟩ := parsed
  exact ⟨source, ⟨data, read, checked⟩, resolved⟩

theorem Document.perm_definitions {text : String} {source : Source}
    (document : Document text source) {layout : Layout} (resolved : ofSource source = .ok layout) :
    (layout.definitions.map Prod.fst).Perm (source.definitions.map Prod.fst) := by
  have names := names_sortedEntries source.definitions
  simp only [ofSource, bind_eq_ok_iff] at resolved
  obtain ⟨definitions, first, items, _, same⟩ := resolved
  obtain rfl := Except.ok.inj same
  have ordered : (source.sorted.definitions.map Prod.fst).Nodup :=
    names.nodup_iff.mpr document.distinct.definitions.1
  exact (Source.perm_definitionsOf ordered first).trans names

def Source.inPlace (source : Source) : Source :=
  ⟨source.definitions.map fun entry => (entry.1, entry.2.sorted),
    source.layout.map fun entry => (entry.1, entry.2.sorted)⟩

theorem Source.sorted_of_ordered (source : Source)
    (definitions : (source.definitions.map Prod.fst).Pairwise (· ≤ ·))
    (layout : (source.layout.map Prod.fst).Pairwise (· ≤ ·)) : source.sorted = source.inPlace := by
  rw [Source.sorted, sortedEntries_of_ordered definitions, sortedEntries_of_ordered layout]
  rfl

/-! ### References lead back -/

/-- What an item refers to, if it is a reference. -/
def Item.target? : Item → Option String
  | .ref _ referenced _ => some referenced
  | .field _ | .struct _ _ _ => none

/-- All references of the items, at any depth, are to definitions of these names. -/
def RefersOnlyTo (names : List String) (items : List Item) : Prop :=
  ∀ item ∈ withinAll items, ∀ target, item.target? = some target → target ∈ names

theorem CountedAll.refersOnlyTo {known : Definitions} {items : List Item}
    (counted : CountedAll known items) : RefersOnlyTo (known.map Prod.fst) items := by
  intro item inside target refers
  have here := counted.within item inside
  cases item with
  | field | struct => cases refers
  | ref name referenced count =>
      obtain rfl := Option.some.inj refers
      obtain ⟨definition, found, _⟩ := here
      exact Ordered.mem_keys_iff.mpr (by simp [found])

theorem Settled.counted_of_split {definitions : Definitions} (settled : Settled definitions)
    {before after : Definitions} {entry : String × Definition}
    (split : definitions = before ++ entry :: after) : CountedAll before entry.2.fields := by
  induction settled generalizing after with
  | nil => simp at split
  | @snoc known name definition _ _ counted ih =>
      -- The entry is the last one, or it is among those that were there before.
      rcases List.eq_nil_or_concat after with rfl | ⟨others, last, rfl⟩
      · obtain ⟨rfl, rfl⟩ := List.append_inj' split rfl |>.imp_right List.singleton_inj.mp
        exact counted
      · rw [List.concat_eq_append, ← List.cons_append, ← List.append_assoc] at split
        exact ih (List.append_inj' split rfl).1

end Palette.Layout

namespace Palette.Output

open Printer Layout

/-! ### Types in scope -/

/-- Types that are declared to their end, and the one whose declaration is open. -/
structure Scope where
  complete : List String := []
  current : Option String := none
  deriving DecidableEq, Repr

/-- Reads on by one line. No type is declared twice or inside of another, and the type of a member
is that of colors or complete. -/
def Scope.step? : Scope → DeclarationLine → Option Scope
  | ⟨complete, none⟩, .openDefinition name =>
      if name ∈ complete then none else some ⟨complete, some name⟩
  | ⟨_, some _⟩, .openDefinition _ => none
  | ⟨complete, some name⟩, .closeDefinition => some ⟨complete ++ [name], none⟩
  | ⟨_, none⟩, .closeDefinition => none
  | scope, .member type _ => if type = "QColor" ∨ type ∈ scope.complete then some scope else none
  | scope, .blank | scope, .openMember | scope, .closeMember _ => some scope

def Scope.readLines (scope : Scope) (rows : List (Nat × DeclarationLine)) : Option Scope :=
  (rows.map Prod.snd).foldlM Scope.step? scope

theorem Scope.readLines_append (scope : Scope) (first second : List (Nat × DeclarationLine)) :
    scope.readLines (first ++ second) = (scope.readLines first).bind (·.readLines second) := by
  rw [readLines, List.map_append, List.foldlM_append]
  rfl

section Members

variable {known : Definitions} {scope : Scope}

mutual

/-- Members whose types are complete leave the scope as it is. -/
theorem Scope.readLines_declared (complete : ∀ entry ∈ known, entry.1 ∈ scope.complete)
    {item : Item} (counted : item.Counted known) (depth : Nat) :
    scope.readLines ((declared item).rows depth) = some scope := by
  cases item with
  | field name => simp [Scope.readLines, declared, Declared.rows, Scope.step?]
  | ref name referenced count =>
      obtain ⟨definition, found, _⟩ := counted
      have listed : referenced ∈ scope.complete := by
        obtain ⟨before, after, split, _⟩ := List.lookup_eq_some_iff.mp found
        exact complete (referenced, definition) (by simp [split])
      simp [Scope.readLines, declared, Declared.rows, Scope.step?, listed]
  | struct name fields count =>
      have inside := Scope.readLines_declaredAll complete counted.2 (depth + 1)
      have opened : ∀ rows, scope.readLines ((depth, .blank) :: (depth, .openMember) :: rows) =
          scope.readLines rows := by simp [Scope.readLines, Scope.step?]
      rw [declared, Declared.rows, List.cons_append, List.cons_append, opened,
        scope.readLines_append, inside]
      simp [Scope.readLines, Scope.step?]

theorem Scope.readLines_declaredAll (complete : ∀ entry ∈ known, entry.1 ∈ scope.complete)
    {items : List Item} (counted : CountedAll known items) (depth : Nat) :
    scope.readLines (declaredRows depth (declaredAll items)) = some scope := by
  cases items with
  | nil => rfl
  | cons item rest =>
      rw [declaredAll, declaredRows, scope.readLines_append,
        Scope.readLines_declared complete counted.1]
      exact Scope.readLines_declaredAll complete counted.2 depth

end

end Members

theorem Scope.readLines_definition {known : Definitions} {name : String} {fields : List Item}
    (fresh : name ∉ known.map Prod.fst) (counted : CountedAll known fields) (depth : Nat) :
    Scope.readLines { complete := known.map Prod.fst }
        (definitionRows depth (name, declaredAll fields)) =
      some { complete := known.map Prod.fst ++ [name] } := by
  have opened : ∀ rows, Scope.readLines { complete := known.map Prod.fst }
      ((depth, .openDefinition name) :: rows) =
        Scope.readLines ⟨known.map Prod.fst, some name⟩ rows := by
    simp [Scope.readLines, Scope.step?, fresh]
  have members : Scope.readLines ⟨known.map Prod.fst, some name⟩
      (declaredRows (depth + 1) (declaredAll fields)) = some ⟨known.map Prod.fst, some name⟩ :=
    Scope.readLines_declaredAll (fun entry member => List.mem_map_of_mem member) counted _
  rw [definitionRows, List.cons_append, opened, Scope.readLines_append, members]
  rfl

theorem Scope.readLines_definitions {definitions : Definitions} (settled : Settled definitions)
    (distinct : (definitions.map Prod.fst).Nodup) (depth : Nat) :
    Scope.readLines {} ((declaredTypes definitions).flatMap (definitionRows depth)) =
      some { complete := definitions.map Prod.fst } := by
  induction settled with
  | nil => rfl
  | @snoc known name definition _ _ counted ih =>
      rw [List.map_append, List.nodup_append] at distinct
      have fresh : name ∉ known.map Prod.fst := fun listed =>
        distinct.2.2 name listed name List.mem_cons_self rfl
      have first := ih distinct.1
      rw [declaredTypes] at first ⊢
      rw [List.map_append, List.flatMap_append, Scope.readLines_append, first, List.map_append]
      change Scope.readLines _ (definitionRows depth (name, declaredAll definition.fields) ++ []) = _
      rw [List.append_nil, Scope.readLines_definition fresh counted]
      rfl

theorem Scope.readLines_items {known : Definitions} {items : List (String × List Item)}
    (counted : ∀ item ∈ items, CountedAll known item.2) (depth : Nat) :
    Scope.readLines { complete := known.map Prod.fst }
        (items.flatMap fun item => (Declared.struct item.1 (declaredAll item.2)).rows depth) =
      some { complete := known.map Prod.fst } := by
  induction items with
  | nil => rfl
  | cons item items ih =>
      have whole : (Item.struct item.1 item.2 (countAll item.2)).Counted known :=
        ⟨rfl, counted item List.mem_cons_self⟩
      have first : Scope.readLines { complete := known.map Prod.fst }
          ((Declared.struct item.1 (declaredAll item.2)).rows depth) =
            some { complete := known.map Prod.fst } :=
        Scope.readLines_declared (fun entry member => List.mem_map_of_mem member) whole depth
      rw [List.flatMap_cons, Scope.readLines_append, first]
      exact ih fun other member => counted other (List.mem_cons_of_mem item member)

theorem Scope.readLines_structs {layout : Layout} (sound : Sound layout)
    (distinct : (layout.definitions.map Prod.fst).Nodup) (depth : Nat) :
    Scope.readLines {} ((structsOf layout).rows depth) =
      some { complete := layout.definitions.map Prod.fst } := by
  have items := Scope.readLines_items sound.counted depth
  rw [Structs.rows, Scope.readLines_append, structsOf,
    Scope.readLines_definitions sound.settled distinct, List.flatMap_map]
  exact items

/-! ### The printed header -/

def headerFront (names : Names) (depth : Nat) : List (Nat × String) :=
  ["#pragma once", "", "#include <QColor>", "#include <QString>", "",
    s!"namespace {names.scope} \x7b", s!"class {names.className} \x7b"].map (depth, ·)

def headerBack (names : Names) (size depth : Nat) : List (Nat × String) :=
  [(depth, ""), (depth, "protected:"),
    (depth + 1, "bool setColor(const QLatin1String &name, QColor color);"),
    (depth + 1, "void reset();"), (depth + 1, "void applyChanges();"),
    (depth, ""), (depth, "private:"), (depth + 1, s!"QColor colors_[{size}];"),
    (depth, "\x7d;"), (depth, s!"\x7d  // namespace {names.scope}")]

def headerText (layout : Layout) (names : Names) (unit : String) (depth : Nat) : String :=
  rowsText id unit (headerFront names depth) ++ publicText names (structsOf layout) unit depth ++
    rowsText id unit (headerBack names layout.count depth)

theorem header_prints (layout : Layout) (names : Names) :
    Prints (header layout names : Program Error) (headerText layout names) := by
  have structs : Prints (underLabel "public:" (layout.definitions.map definitionStruct ++
      (layout.items.flatMap fun item => structMember item.1 (members item.2)) ++
      [.line s!"{names.className}();"])) (publicText names (structsOf layout)) :=
    underLabel_prints ((structs_print layout).append (@prints_line Error _)) _
  have front := (@prints_lines Error ["#pragma once", "", "#include <QColor>", "#include <QString>",
    ""]).append ((@prints_line Error s!"namespace {names.scope} \x7b").append
      (@prints_line Error s!"class {names.className} \x7b"))
  have functions := underLabel_prints ((@prints_line Error
    "bool setColor(const QLatin1String &name, QColor color);").append
      ((@prints_line Error "void reset();").append (@prints_line Error "void applyChanges();")))
    "protected:"
  have array := underLabel_prints (@prints_line Error s!"QColor colors_[{layout.count}];") "private:"
  have close := (@prints_line Error "\x7d;").append
    (@prints_line Error s!"\x7d  // namespace {names.scope}")
  refine ((((((front.append structs).append (@prints_line Error "")).append functions).append
    (@prints_line Error "")).append array).append close).of_eq ?_
  intro unit depth
  simp [headerText, headerFront, headerBack, String.append_assoc]

/-- The header of a parsed layout declares each definition of the document once, and before its first
use: read line by line, no type is declared again and each is complete where a member has it. In the
order of the definitions, references at any depth lead to earlier ones; those of the items lead to
any that is declared. -/
theorem header_declares_in_order (text : String) (layout : Layout)
    (parsed : Layout.parse text = .ok layout) (names : Names) :
    Prints (header layout names : Program Error) (headerText layout names) ∧
      (∀ depth, Scope.readLines {} ((structsOf layout).rows depth) =
        some { complete := layout.definitions.map Prod.fst }) ∧
      (layout.definitions.map Prod.fst).Nodup ∧
      (∃ source, Document text source ∧
        (layout.definitions.map Prod.fst).Perm (source.definitions.map Prod.fst)) ∧
      (∀ before entry after, layout.definitions = before ++ entry :: after →
        RefersOnlyTo (before.map Prod.fst) entry.2.fields) ∧
      ∀ item ∈ layout.items, RefersOnlyTo (layout.definitions.map Prod.fst) item.2 := by
  have sound := sound_of_parse parsed
  obtain ⟨source, document, resolved⟩ := document_of_parse parsed
  have same := document.perm_definitions resolved
  have distinct := same.nodup_iff.mpr document.distinct.definitions.1
  refine ⟨header_prints layout names, Scope.readLines_structs sound distinct, distinct,
    ⟨source, document, same⟩, ?_, ?_⟩
  · intro before entry after split
    exact (sound.settled.counted_of_split split).refersOnlyTo
  · intro item member
    exact (sound.counted item member).refersOnlyTo

def targets (items : List Item) : List String := (withinAll items).filterMap Item.target?

def forwardText : String :=
  "definitions: {Base: {fields: {in: {ref: Pair}, line: }}, Pair: {fields: [a, b]}}\n" ++
    "layout: {main: {fields: {x: {ref: Base}, y: {fields: {z: {ref: Pair}}}}}}\n"

theorem parse_forwardText : ∃ source layout, Document forwardText source ∧
    Layout.parse forwardText = .ok layout ∧
    source.sorted.definitions.map Prod.fst = ["Base", "Pair"] ∧
    (layout.definitions.map fun entry => (entry.1, targets entry.2.fields)) =
      [("Pair", []), ("Base", ["Pair"])] ∧
    (layout.items.map fun item => (item.1, targets item.2)) = [("main", ["Base", "Pair"])] := by
  have evaluated : ((Yaml.Data.ofText forwardText).toOption.bind fun data =>
      (Source.ofData data).toOption.bind fun source =>
        source.inPlace.definitionsOf.toOption.bind fun definitions =>
          (source.inPlace.itemsOf definitions).toOption.map fun items =>
            ((source.definitions.map Prod.fst, source.layout.map Prod.fst),
              definitions.map fun entry => (entry.1, targets entry.2.fields),
              items.map fun item => (item.1, targets item.2))) =
      some ((["Base", "Pair"], ["main"]), [("Pair", []), ("Base", ["Pair"])],
        [("main", ["Base", "Pair"])]) := by decide +kernel
  simp only [Option.bind_eq_some_iff, Option.map_eq_some_iff, toOption_eq_some_iff,
    Prod.mk.injEq] at evaluated
  obtain ⟨data, read, source, checked, definitions, resolved, items, converted, ⟨names, tops⟩,
    references, uses⟩ := evaluated
  have document : Document forwardText source := ⟨data, read, checked⟩
  have sorted : source.sorted = source.inPlace :=
    source.sorted_of_ordered (names ▸ by decide) (tops ▸ by decide)
  have made : ofSource source = .ok ⟨definitions, items⟩ := by
    simp only [ofSource, sorted, bind_eq_ok_iff]
    exact ⟨definitions, resolved, items, converted, rfl⟩
  refine ⟨source, ⟨definitions, items⟩, document, ?_, ?_, references, uses⟩
  · rw [document.parse_eq, made]
    rfl
  · rw [sorted, Source.inPlace, List.map_map]
    exact names

theorem header_declares_in_order_forward : ∃ source layout, Document forwardText source ∧
    Layout.parse forwardText = .ok layout ∧
    source.sorted.definitions.map Prod.fst = ["Base", "Pair"] ∧
    (layout.definitions.map fun entry => (entry.1, targets entry.2.fields)) =
      [("Pair", []), ("Base", ["Pair"])] ∧
    (layout.items.map fun item => (item.1, targets item.2)) = [("main", ["Base", "Pair"])] ∧
    Scope.readLines {} ((structsOf layout).rows 1) = some { complete := ["Pair", "Base"] } := by
  obtain ⟨source, layout, document, parsed, names, references, uses⟩ := parse_forwardText
  obtain ⟨_, scope, _⟩ := header_declares_in_order forwardText layout parsed {}
  have order : layout.definitions.map Prod.fst = ["Pair", "Base"] := by
    have firsts := congrArg (List.map Prod.fst) references
    rwa [List.map_map] at firsts
  exact ⟨source, layout, document, parsed, names, references, uses, order ▸ scope 1⟩

end Palette.Output
