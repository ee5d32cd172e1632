import Palette.Proofs.StructReading

/-!
The shape of the structs, seen from both sides. The header declares them with named types, the
source fills them by position from lists in which every reference has been expanded. Both are walks
over the layout on their own; that the lists fit the declarations follows from the numbering that
goes along with the references.
-/

namespace Palette.Theme

def joined (outer : String) (names : List String) : String := names.foldl below outer

theorem joined_concat (outer : String) (names : List String) (name : String) :
    joined outer (names ++ [name]) = below (joined outer names) name :=
  List.foldl_concat below outer name names

end Palette.Theme

namespace Palette.Layout

open Theme

/-! ### Colors by the names of their members -/

mutual

/-- The colors of an item with the names that lead to them, in the order of their numbers. -/
def FlatItem.namedLeaves (outer : List String) : FlatItem → List (List String × Nat)
  | .field name id => [(outer ++ [name], id)]
  | .struct name fields => namedLeavesOf (outer ++ [name]) fields

def namedLeavesOf (outer : List String) : List FlatItem → List (List String × Nat)
  | [] => []
  | item :: rest => item.namedLeaves outer ++ namedLeavesOf outer rest

end

def namedLeaves (flat : List FlatStruct) : List (List String × Nat) :=
  flat.flatMap fun s => namedLeavesOf [s.name] s.fields

mutual

theorem FlatItem.leaves_joined (outer : List String) (item : FlatItem) :
    item.leaves (joined "" outer) =
      (item.namedLeaves outer).map fun leaf => (joined "" leaf.1, leaf.2) := by
  cases item with
  | field name id => simp [FlatItem.leaves, FlatItem.namedLeaves, joined_concat]
  | struct name fields =>
      rw [FlatItem.leaves, ← joined_concat, leavesOf_joined _ fields, FlatItem.namedLeaves]

theorem leavesOf_joined (outer : List String) (items : List FlatItem) :
    leavesOf (joined "" outer) items =
      (namedLeavesOf outer items).map fun leaf => (joined "" leaf.1, leaf.2) := by
  cases items with
  | nil => rfl
  | cons item rest =>
      rw [leavesOf, FlatItem.leaves_joined outer item, leavesOf_joined outer rest, namedLeavesOf,
        List.map_append]

end

theorem leaves_eq_namedLeaves (flat : List FlatStruct) :
    leaves flat = (namedLeaves flat).map fun leaf => (joined "" leaf.1, leaf.2) := by
  have each : ∀ s : FlatStruct, leavesOf (below "" s.name) s.fields =
      (namedLeavesOf [s.name] s.fields).map fun leaf => (joined "" leaf.1, leaf.2) := fun s =>
    leavesOf_joined [s.name] s.fields
  simp only [leaves, namedLeaves, each, List.map_flatMap]

theorem map_snd_namedLeaves (flat : List FlatStruct) :
    (namedLeaves flat).map Prod.snd = ids flat := by
  rw [← map_snd_leaves, leaves_eq_namedLeaves, List.map_map]
  rfl

end Palette.Layout

namespace Palette.Output

open Printer Layout Target

/-! ### Filling by position -/

/-- Members with every struct in its place. Where the type of a member has a name, its members are
those of the struct that is declared under that name; without one there is no result. -/
inductive Expands (definitions : List (String × List Declared)) :
    List Declared → List Shape → Prop where
  | nil : Expands definitions [] []
  | color {rest : List Declared} {shapes : List Shape} (name : String)
      (behind : Expands definitions rest shapes) :
      Expands definitions (.color name :: rest) (.field name :: shapes)
  | typed {members rest : List Declared} {inner shapes : List Shape} (type name : String)
      (found : definitions.lookup type = some members)
      (inside : Expands definitions members inner) (behind : Expands definitions rest shapes) :
      Expands definitions (.typed type name :: rest) (.struct name inner :: shapes)
  | struct {members rest : List Declared} {inner shapes : List Shape} (name : String)
      (inside : Expands definitions members inner) (behind : Expands definitions rest shapes) :
      Expands definitions (.struct name members :: rest) (.struct name inner :: shapes)

mutual

/-- The colors that an initializer reaches, with the names that lead to them. A color takes a number
and a struct a list of its own; where one meets the other there is no result. -/
def fill (outer : List String) : Shape → Braced → Option (List (List String × Nat))
  | .field name, .color id => some [(outer ++ [name], id)]
  | .struct name members, .group parts => fillAll (outer ++ [name]) members parts
  | .field _, .group _ => none
  | .struct _ _, .color _ => none

def fillAll (outer : List String) :
    List Shape → List Braced → Option (List (List String × Nat))
  | [], [] => some []
  | shape :: shapes, part :: parts =>
      match fill outer shape part, fillAll outer shapes parts with
      | some first, some others => some (first ++ others)
      | _, _ => none
  | [], _ :: _ => none
  | _ :: _, [] => none

end

/-- Every struct among the members of the class is assigned, in order, a list that fits its expanded
declaration; together they reach these colors. -/
inductive Fits (definitions : List (String × List Declared)) :
    List (String × List Declared) → Assigned → List (List String × Nat) → Prop where
  | nil : Fits definitions [] [] []
  | cons {members : List Declared} {shapes : List Shape} {parts : List Braced}
      {colors others : List (List String × Nat)} {items : List (String × List Declared)}
      {assigned : Assigned} (name : String) (expands : Expands definitions members shapes)
      (filled : fillAll [name] shapes parts = some colors)
      (behind : Fits definitions items assigned others) :
      Fits definitions ((name, members) :: items) ((name, parts) :: assigned) (colors ++ others)

theorem Fits.map_fst {definitions items : List (String × List Declared)} {assigned : Assigned}
    {colors : List (List String × Nat)} (fits : Fits definitions items assigned colors) :
    assigned.map Prod.fst = items.map Prod.fst := by
  induction fits with
  | nil => rfl
  | cons name _ _ _ ih => rw [List.map_cons, List.map_cons, ih]

theorem lookup_declaredTypes {definitions : Definitions} {name : String} {definition : Definition}
    (found : definitions.lookup name = some definition) :
    (declaredTypes definitions).lookup name = some (declaredAll definition.fields) := by
  induction definitions with
  | nil => simp at found
  | cons entry definitions ih =>
      rw [List.lookup_cons] at found
      rw [declaredTypes, List.map_cons, List.lookup_cons]
      cases same : name == entry.1 with
      | true =>
          simp only [same, Option.some.injEq] at found ⊢
          rw [found]
      | false =>
          simp only [same] at found ⊢
          exact ih found

section Numbered

variable {definitions : Definitions}

theorem fills_of_numbered {next stop : Nat} {items : List Item} {flat : List FlatItem}
    (numbered : Numbered definitions next items flat stop) (outer : List String) :
    ∃ shapes, Expands (declaredTypes definitions) (declaredAll items) shapes ∧
      fillAll outer shapes (bracedAll flat) = some (namedLeavesOf outer flat) := by
  -- The names above a member grow on the way down, so the statement is for all of them at once.
  induction numbered generalizing outer with
  | nil => exact ⟨[], .nil, rfl⟩
  | field name _ ih =>
      obtain ⟨shapes, expands, filled⟩ := ih outer
      refine ⟨.field name :: shapes, .color name expands, ?_⟩
      simp only [bracedAll, braced, fillAll, fill, filled, namedLeavesOf, FlatItem.namedLeaves]
  | ref name referenced count found _ _ insideIh behindIh =>
      obtain ⟨inner, inside, filledInside⟩ := insideIh (outer ++ [name])
      obtain ⟨shapes, behind, filled⟩ := behindIh outer
      refine ⟨.struct name inner :: shapes,
        .typed referenced name (lookup_declaredTypes found) inside behind, ?_⟩
      simp only [bracedAll, braced, fillAll, fill, filledInside, filled, namedLeavesOf,
        FlatItem.namedLeaves]
  | struct name count _ _ insideIh behindIh =>
      obtain ⟨inner, inside, filledInside⟩ := insideIh (outer ++ [name])
      obtain ⟨shapes, behind, filled⟩ := behindIh outer
      refine ⟨.struct name inner :: shapes, .struct name inside behind, ?_⟩
      simp only [bracedAll, braced, fillAll, fill, filledInside, filled, namedLeavesOf,
        FlatItem.namedLeaves]

theorem fits_of_numbered {next stop : Nat} {items : List (String × List Item)}
    {flat : List FlatStruct} (numbered : NumberedStructs definitions next items flat stop) :
    Fits (declaredTypes definitions) (items.map fun item => (item.1, declaredAll item.2))
      (assignedOf flat) (namedLeaves flat) := by
  induction numbered with
  | nil => exact .nil
  | cons name inside _ ih =>
      obtain ⟨shapes, expands, filled⟩ := fills_of_numbered inside [name]
      exact .cons name expands filled ih

end Numbered

/-! ### The printed class -/

def publicText (names : Names) (structs : Structs) (unit : String) (depth : Nat) : String :=
  lineText unit depth "public:" ++
    (structs.text unit (depth + 1) ++ lineText unit (depth + 1) s!"{names.className}();")

theorem header_declares_structs (layout : Layout) (names : Names) :
    PrintsWithin (header layout names : Program Error) (publicText names (structsOf layout)) := by
  have structs : Prints (underLabel "public:" (layout.definitions.map definitionStruct ++
      (layout.items.flatMap fun item => structMember item.1 (members item.2)) ++
      [.line s!"{names.className}();"])) (publicText names (structsOf layout)) :=
    underLabel_prints ((structs_print layout).append (@prints_line Error _)) _
  refine .append (.append (.append (.append (.append ?_ ?_) ?_) ?_) ?_) ?_
  · refine Printable.append_within (PlainAll.printable ?_) structs.within
    exact ⟨trivial, trivial, trivial, trivial⟩
  · exact ⟨_, prints_line _⟩
  · refine underLabel_printable (PlainAll.printable ?_) _
    exact ⟨trivial, trivial, trivial, trivial⟩
  · exact ⟨_, prints_line _⟩
  · exact underLabel_printable ⟨_, prints_line _⟩ _
  · exact PlainAll.printable ⟨trivial, trivial, trivial⟩

/-- The function that fills the structs, in which `d` stands for the colors of the class. -/
def applyText (names : Names) (assigned : Assigned) (unit : String) (depth : Nat) : String :=
  lineText unit depth s!"void {names.className}::applyChanges() \x7b" ++
    (lineText unit (depth + 1) ("const auto d = [this](size_t i) -> const QColor& " ++
        "\x7b return this->colors_[i]; \x7d;") ++
      assignedText assigned unit (depth + 1) ++ lineText unit (depth + 1) "this->reset();") ++
    lineText unit depth "\x7d"

theorem sourceStart_applies (flat : List FlatStruct) (names : Names) :
    PrintsWithin (sourceStart flat names) (applyText names (assignedOf flat)) := by
  have filling : Prints [applyFunction flat names] (applyText names (assignedOf flat)) :=
    ((((prints_line _).append (assignStructs_print flat)).append (prints_line _)).block _ _).of_eq
      fun _ _ => rfl
  change PrintsWithin ([_, _, _, _] ++ [applyFunction flat names]) _
  refine Printable.append_within (PlainAll.printable ?_) filling.within
  exact ⟨trivial, ⟨trivial, trivial⟩, trivial, ⟨trivial, trivial, trivial⟩, trivial⟩

/-- The source fills the structs like this, whether or not it can be printed to its end. -/
def AppliesStructs (flat : List FlatStruct) (theme : Theme.Flat) (names : Names)
    (assigned : Assigned) : Prop :=
  ∃ front : String → Nat → String, ∀ p, ∃ behind,
    (runAll (classSource flat theme names) p).1.text =
      p.text ++ front p.unit p.depth ++ applyText names assigned p.unit p.depth ++ behind

theorem classSource_applies (flat : List FlatStruct) (theme : Theme.Flat) (names : Names) :
    AppliesStructs flat theme names (assignedOf flat) := by
  obtain ⟨front, back, prints⟩ := sourceStart_applies flat names
  -- The defaults that follow may fail, but they take back nothing of what stands in front of them.
  refine ⟨front, fun p => ?_⟩
  obtain ⟨written, text⟩ := extends_runAll ([resetFunction flat theme names] ++ sourceEnd flat names)
    (p.write (front p.unit p.depth ++ applyText names (assignedOf flat) p.unit p.depth ++
      back p.unit p.depth))
  refine ⟨back p.unit p.depth ++ written, ?_⟩
  rw [classSource, List.append_assoc, runAll_append, prints p]
  refine text.trans ?_
  simp only [write, String.append_assoc]

/-- For a parsed layout, the lists that the source assigns fit the structs that the header declares:
position by position, a number stands for a color and braces for a struct, be it declared in place or
under the name of its type. The number at each member is that of the color with this path, and the
numbers are those below the size of the array, each used once. With plain names, the printed texts
cannot be read otherwise. -/
theorem structs_fit_of_parse (text : String) (layout : Layout)
    (parsed : Layout.parse text = .ok layout) (theme : Theme.Flat) (names : Names) :
    ∃ flat, layout.flatten = .ok flat ∧
      PrintsWithin (header layout names : Program Error) (publicText names (structsOf layout)) ∧
      AppliesStructs flat theme names (assignedOf flat) ∧
      Fits (structsOf layout).definitions (structsOf layout).items (assignedOf flat)
        (namedLeaves flat) ∧
      leaves flat = ((namedLeaves flat).map fun leaf => (Theme.joined "" leaf.1, leaf.2)) ∧
      (namedLeaves flat).map Prod.snd = List.range layout.count ∧
      ((structsOf layout).Named → ∀ unit, (∀ c ∈ unit.toList, c = ' ' ∨ c = '\t') → ∀ depth,
        Structs.read ((structsOf layout).text unit depth) = some (structsOf layout) ∧
        readAssigned (assignedText (assignedOf flat) unit depth) = some (assignedOf flat)) := by
  obtain ⟨flat, flattened, numbered, numbers⟩ := (sound_of_parse parsed).flatten
  have fits := fits_of_numbered numbered
  refine ⟨flat, flattened, header_declares_structs layout names,
    classSource_applies flat theme names, fits, leaves_eq_namedLeaves flat,
    (map_snd_namedLeaves flat).trans numbers, ?_⟩
  intro named unit blank depth
  have blanks : ∀ c ∈ unit.toList, isBlank c = true := by simpa [isBlank] using blank
  refine ⟨named.read_text blanks depth, readAssigned_assignedText ?_ blanks depth⟩
  intro entry member
  have listed : entry.1 ∈ (structsOf layout).items.map Prod.fst :=
    fits.map_fst ▸ List.mem_map_of_mem member
  obtain ⟨item, inside, same⟩ := List.mem_map.mp listed
  rw [← same]
  exact (named item (List.mem_append_right _ inside)).1

def sharedDeclarations : String :=
  "  struct Pair \x7b\n    QColor a;\n    QColor b;\n  \x7d;\n" ++
    "\n  struct \x7b\n\n    struct \x7b\n      Pair in;\n    \x7d x;\n" ++
    "    Pair y;\n    QColor z;\n  \x7d main;\n"

def sharedAssignments : String :=
  "  this->main = \x7b\n    \x7b\n      \x7b\n" ++
    "        d(0),\n        d(1),\n      \x7d,\n    \x7d,\n" ++
    "    \x7b\n      d(2),\n      d(3),\n    \x7d,\n    d(4),\n  \x7d;\n"

theorem structs_fit_of_parse_shared : ∃ layout flat, Layout.parse sharedText = .ok layout ∧
    layout.flatten = .ok flat ∧
    ∃ structs assigned, Structs.read sharedDeclarations = some structs ∧
      readAssigned sharedAssignments = some assigned ∧
      Fits structs.definitions structs.items assigned
        [(["main", "x", "in", "a"], 0), (["main", "x", "in", "b"], 1), (["main", "y", "a"], 2),
          (["main", "y", "b"], 3), (["main", "z"], 4)] := by
  have evaluated : ((Layout.parse sharedText).toOption.bind fun layout =>
      layout.flatten.toOption.map fun flat =>
        (decide (structsOf layout).Named,
          [(structsOf layout).text "  " 1, assignedText (assignedOf flat) "  " 1],
          namedLeaves flat)) =
      some (true, [sharedDeclarations, sharedAssignments],
        [(["main", "x", "in", "a"], 0), (["main", "x", "in", "b"], 1), (["main", "y", "a"], 2),
          (["main", "y", "b"], 3), (["main", "z"], 4)]) := by decide +kernel
  simp only [Option.bind_eq_some_iff, Option.map_eq_some_iff, toOption_eq_some_iff,
    Prod.mk.injEq, decide_eq_true_eq, List.cons.injEq, and_true] at evaluated
  obtain ⟨layout, parsed, flat, flattened, named, ⟨declarations, assignments⟩, colors⟩ := evaluated
  obtain ⟨expanded, again, _, _, fits, _, _, reads⟩ :=
    structs_fit_of_parse sharedText layout parsed sharedTheme {}
  obtain rfl : flat = expanded := Except.ok.inj (flattened.symm.trans again)
  obtain ⟨structs, assigned⟩ := reads named "  " (by simp) 1
  rw [declarations] at structs
  rw [assignments] at assigned
  exact ⟨layout, flat, parsed, flattened, _, _, structs, assigned, colors ▸ fits⟩

end Palette.Output
