import Palette.Output.Header
import Palette.Proofs.CppLookup
import Palette.Proofs.LayoutFlatten
import Mathlib.Data.List.Forall2

/-!
The default colors of the theme class. The header declares an array for the colors that the layout
counts; the source fills it in the order of their numbers, one line for each, or names the first
color that the theme lacks. Both walk the layout on their own, and meet in the numbers.
-/

namespace Palette.Output

open Printer Layout KeyTrie Matcher Target

/-! ### Lines without errors -/

mutual

theorem plain_initializer (item : FlatItem) : PlainAll (initializer item) := by
  cases item with
  | field name id => exact ⟨trivial, trivial⟩
  | struct name fields => exact ⟨plain_initializers fields, trivial⟩

theorem plain_initializers (items : List FlatItem) : PlainAll (initializers items) := by
  cases items with
  | nil => trivial
  | cons item rest =>
      exact (plainAll_append _ _).mpr ⟨plain_initializer item, plain_initializers rest⟩

end

mutual

theorem plain_member {ε : Type} (item : Item) : PlainAll (member item : Program ε) := by
  cases item with
  | field name => exact ⟨trivial, trivial⟩
  | ref name referenced count => exact ⟨trivial, trivial⟩
  | struct name fields count => exact ⟨trivial, plain_members fields, trivial⟩

theorem plain_members {ε : Type} (items : List Item) : PlainAll (members items : Program ε) := by
  cases items with
  | nil => trivial
  | cons item rest => exact (plainAll_append _ _).mpr ⟨plain_member item, plain_members rest⟩

end

theorem plain_sourceStart (flat : List FlatStruct) (names : Names) :
    PlainAll (sourceStart flat names) := by
  have structs : PlainAll (flat.map assignStruct) :=
    plainAll_map assignStruct (fun s => plain_initializers s.fields) flat
  refine ⟨trivial, ⟨trivial, trivial⟩, trivial, ⟨trivial, trivial, trivial⟩, ?_, trivial⟩
  refine (plainAll_append _ _).mpr ⟨?_, trivial, trivial⟩
  exact (plainAll_append _ _).mpr ⟨⟨trivial, trivial⟩, structs⟩

theorem sourceEnd_printable (flat : List FlatStruct) (names : Names) :
    Printable (sourceEnd flat names) := by
  have lookup := (Cpp.written_function (pathTree (leaves flat)) (ofTrie_proper _)).prints
  refine .append (.append ?_ ⟨_, lookup.mapErrors Error.matcher⟩) ⟨_, prints_line _⟩
  exact PlainAll.printable
    ⟨⟨trivial, trivial, trivial, trivial, trivial⟩, trivial, trivial, trivial⟩

section Header

variable {ε : Type}

theorem underLabel_prints {program : Program ε} {text : String → Nat → String}
    (inside : Prints program text) (label : String) :
    Prints (underLabel label program) fun unit depth =>
      lineText unit depth label ++ text unit (depth + 1) :=
  (prints_line label).append inside.indented

theorem underLabel_printable {program : Program ε} (inside : Printable program) (label : String) :
    Printable (underLabel label program) := by
  obtain ⟨_, prints⟩ := inside
  exact ⟨_, underLabel_prints prints label⟩

theorem plain_structs (layout : Layout) :
    PlainAll (layout.definitions.map definitionStruct ++
      (layout.items.flatMap fun item => structMember item.1 (members item.2)) : Program ε) := by
  refine (plainAll_append _ _).mpr ⟨?_, ?_⟩
  · exact plainAll_map definitionStruct (fun entry => plain_members entry.2.fields) _
  · induction layout.items with
    | nil => trivial
    | cons item items ih =>
        exact (plainAll_append _ _).mpr ⟨⟨trivial, plain_members item.2, trivial⟩, ih⟩

theorem headerStart_printable (layout : Layout) (names : Names) :
    Printable (headerStart layout names : Program ε) := by
  have structs := (plain_structs layout : PlainAll (_ : Program ε)).printable
  refine .append (.append (.append (.append ?_ ?_) ?_) ?_) ?_
  · exact PlainAll.printable ⟨trivial, trivial, trivial, trivial⟩
  · exact underLabel_printable (structs.append ⟨_, prints_line _⟩) _
  · exact ⟨_, prints_line _⟩
  · refine underLabel_printable ?_ _
    exact PlainAll.printable ⟨trivial, trivial, trivial, trivial⟩
  · exact ⟨_, prints_line _⟩

end Header

def arrayText (size : Nat) (unit : String) (depth : Nat) : String :=
  lineText unit depth "private:" ++ lineText unit (depth + 1) s!"QColor colors_[{size}];"

/-- The printed header ends with an array of this size, behind which only the class and its
namespace are closed. -/
def DeclaresArray (layout : Layout) (names : Names) (size : Nat) : Prop :=
  ∃ front, Prints (headerStart layout names : Program Error) front ∧
    Prints (header layout names : Program Error) fun unit depth =>
      front unit depth ++ arrayText size unit depth ++
        (lineText unit depth "\x7d;" ++ lineText unit depth s!"\x7d  // namespace {names.scope}")

theorem header_declares (layout : Layout) (names : Names) :
    DeclaresArray layout names layout.count := by
  obtain ⟨front, start⟩ := headerStart_printable layout names
  exact ⟨front, start, (start.append (underLabel_prints (prints_line _) _)).append
    ((prints_line _).append (prints_line _))⟩

/-! ### The default colors -/

theorem resetColor_of_found {colors : Theme.Colors} {leaf : String × Nat} {color : Rgba}
    (found : colors.lookup leaf.1 = some color) :
    resetColor colors leaf = .line (assignment leaf.2 color) := by
  rw [resetColor, found]

/-- Colors that are all in the theme are set line by line. -/
theorem resetColors_lines (colors : Theme.Colors) (leaves : List (String × Nat))
    (found : ∀ leaf ∈ leaves, colors.lookup leaf.1 ≠ none) :
    ∃ lines : List String, leaves.map (resetColor colors) = lines.map (fun line => .line line) ∧
      List.Forall₂ (fun leaf line => ∃ color, colors.lookup leaf.1 = some color ∧
        line = assignment leaf.2 color) leaves lines := by
  induction leaves with
  | nil => exact ⟨[], rfl, .nil⟩
  | cons leaf leaves ih =>
      obtain ⟨color, first⟩ := Option.ne_none_iff_exists'.mp (found leaf List.mem_cons_self)
      obtain ⟨lines, others, matching⟩ :=
        ih fun other member => found other (List.mem_cons_of_mem leaf member)
      refine ⟨assignment leaf.2 color :: lines, ?_, .cons ⟨color, first, rfl⟩ matching⟩
      rw [List.map_cons, List.map_cons, others, resetColor_of_found first]

theorem level_resetColors (colors : Theme.Colors) (leaves : List (String × Nat)) :
    LevelAll (leaves.map (resetColor colors)) := by
  induction leaves with
  | nil => trivial
  | cons leaf leaves ih =>
      refine ⟨?_, ih⟩
      unfold resetColor
      split <;> trivial

/-- The first color that is not in the theme ends the run. -/
theorem resetColors_fail (colors : Theme.Colors) (before after : List (String × Nat))
    (leaf : String × Nat) (found : ∀ other ∈ before, colors.lookup other.1 ≠ none)
    (missing : colors.lookup leaf.1 = none) :
    Fails ((before ++ leaf :: after).map (resetColor colors)) (.raised (.missingRule leaf.1)) := by
  obtain ⟨lines, printed, _⟩ := resetColors_lines colors before found
  have stop : resetColor colors leaf = .fail (.missingRule leaf.1) := by rw [resetColor, missing]
  rw [List.map_append, printed, List.map_cons, stop]
  exact Printable.append_fails ⟨_, prints_map_line lines⟩ (fails_fail _ _)

theorem classSource_fails {flat : List FlatStruct} {theme : Theme.Flat} {fault : Fault Error}
    (fails : Fails ((leaves flat).map (resetColor theme.rules)) fault) (names : Names) :
    Fails (classSource flat theme names) fault := by
  have start := (plain_sourceStart flat names).printable
  have reset : Fails [resetFunction flat theme names] fault :=
    fails.block (level_resetColors _ _) _ _
  exact (start.append_fails reset).append _

/-- The function that sets the defaults, with these lines as its body. -/
def resetText (names : Names) (lines : List String) (unit : String) (depth : Nat) : String :=
  lineText unit depth s!"void {names.className}::reset() \x7b" ++
    String.join (lines.map (lineText unit (depth + 1))) ++ lineText unit depth "\x7d"

theorem classSource_prints {flat : List FlatStruct} {theme : Theme.Flat} {names : Names}
    {lines : List String} {before after : String → Nat → String}
    (start : Prints (sourceStart flat names) before)
    (colors : (leaves flat).map (resetColor theme.rules) = lines.map fun line => .line line)
    (stop : Prints (sourceEnd flat names) after) :
    Prints (classSource flat theme names) fun unit depth =>
      before unit depth ++ resetText names lines unit depth ++ after unit depth := by
  have reset : Prints [resetFunction flat theme names] (resetText names lines) := by
    rw [resetFunction, colors]
    exact ((prints_map_line lines).block _ _).of_eq fun _ _ => rfl
  exact (start.append reset).append stop

/-- The color at `path` is not in the theme, and no other such color has a smaller number. -/
def FirstMissing (colors : Theme.Colors) (flat : List FlatStruct) (path : String) : Prop :=
  ∃ id, (path, id) ∈ leaves flat ∧ colors.lookup path = none ∧
    ∀ leaf ∈ leaves flat, colors.lookup leaf.1 = none → id ≤ leaf.2

/-- The leaves stand in the order of their numbers, so the missing one that is met first has the
smallest number. -/
theorem classSource_fails_first {flat : List FlatStruct}
    (ascending : (ids flat).Pairwise (· < ·)) (theme : Theme.Flat)
    (missing : ∃ leaf ∈ leaves flat, theme.rules.lookup leaf.1 = none) (names : Names) :
    ∃ path, FirstMissing theme.rules flat path ∧
      Fails (classSource flat theme names) (.raised (.missingRule path)) := by
  let absent (leaf : String × Nat) : Bool := (theme.rules.lookup leaf.1).isNone
  have some : ((leaves flat).find? absent).isSome := by
    rw [List.find?_isSome]
    simpa [absent] using missing
  obtain ⟨first, found⟩ := Option.isSome_iff_exists.mp some
  obtain ⟨lacking, before, after, split, present⟩ := List.find?_eq_some_iff_append.mp found
  have lacks : theme.rules.lookup first.1 = none := by simpa [absent] using lacking
  have earlier : ∀ leaf ∈ before, theme.rules.lookup leaf.1 ≠ none := by
    intro leaf member
    simpa [absent, Option.isSome_iff_ne_none] using present leaf member
  refine ⟨first.1, ⟨first.2, by simp [split], lacks, ?_⟩, ?_⟩
  · intro leaf member none
    rw [← map_snd_leaves, split, List.map_append, List.map_cons] at ascending
    obtain ⟨_, later, _⟩ := List.pairwise_append.mp ascending
    rw [split, List.mem_append, List.mem_cons] at member
    rcases member with inFront | rfl | behind
    · exact absurd none (earlier leaf inFront)
    · exact Nat.le_refl _
    · exact Nat.le_of_lt (List.rel_of_pairwise_cons later (List.mem_map_of_mem behind))
  · apply classSource_fails
    rw [split]
    exact resetColors_fail theme.rules before after first earlier lacks

/-- The printed source sets the colors by these lines, one for each number below `count` and in
that order. -/
structure SetsDefaults (flat : List FlatStruct) (theme : Theme.Flat) (names : Names) (count : Nat)
    (lines : List String) : Prop where
  printed : ∃ before after, Prints (sourceStart flat names) before ∧
    Prints (sourceEnd flat names) after ∧
    Prints (classSource flat theme names) fun unit depth =>
      before unit depth ++ resetText names lines unit depth ++ after unit depth
  length : lines.length = count
  assigns : ∀ i < count, ∃ path color, (path, i) ∈ leaves flat ∧
    theme.rules.lookup path = some color ∧
    lines[i]? = some ("this->colors_[" ++ toString i ++ "] = \x7b" ++
      (toString color.red.toNat ++ ", " ++ toString color.green.toNat ++ ", " ++
        toString color.blue.toNat ++ ", " ++ toString color.alpha.toNat) ++ "\x7d;")

theorem classSource_setsDefaults {flat : List FlatStruct} {count : Nat}
    (numbers : ids flat = List.range count) (theme : Theme.Flat)
    (found : ∀ leaf ∈ leaves flat, theme.rules.lookup leaf.1 ≠ none) (names : Names) :
    ∃ lines, SetsDefaults flat theme names count lines := by
  obtain ⟨before, start⟩ := (plain_sourceStart flat names).printable
  obtain ⟨after, stop⟩ := sourceEnd_printable flat names
  obtain ⟨lines, colors, matching⟩ := resetColors_lines theme.rules (leaves flat) found
  rw [← map_snd_leaves] at numbers
  have size : (leaves flat).length = count := by simpa using congrArg List.length numbers
  refine ⟨lines, ⟨before, after, start, stop, classSource_prints start colors stop⟩,
    matching.length_eq.symm.trans size, ?_⟩
  intro i below
  have inside : i < (leaves flat).length := size ▸ below
  have number : (leaves flat)[i].2 = i := by
    have listed := congrArg (·[i]?) numbers
    simpa [inside, below] using listed
  obtain ⟨same, pairs⟩ := List.forall₂_iff_get.mp matching
  obtain ⟨color, lookup, line⟩ := pairs i inside (same ▸ inside)
  have leaf : ((leaves flat)[i].1, i) = (leaves flat)[i] := Prod.ext rfl number.symm
  refine ⟨(leaves flat)[i].1, color, leaf ▸ List.getElem_mem inside, lookup, ?_⟩
  change lines[i]? = some (assignment i color)
  rw [List.getElem?_eq_getElem (same ▸ inside)]
  simpa [number] using line

/-- For a parsed layout, printing the source raises the path of the first color that the theme
lacks. If it lacks none, the function that sets the defaults consists of one line for each number
below the size of the array in the header, which gives it the color at the path of that number. -/
theorem classSource_defaults_of_parse (text : String) (layout : Layout)
    (parsed : Layout.parse text = .ok layout) (theme : Theme.Flat) (names : Names) :
    ∃ flat, layout.flatten = .ok flat ∧
      (∀ p, (∃ path, (runAll (classSource flat theme names) p).2 =
          .error (.raised (.missingRule path))) ↔
        ∃ leaf ∈ leaves flat, theme.rules.lookup leaf.1 = none) ∧
      (∀ p path, (runAll (classSource flat theme names) p).2 =
          .error (.raised (.missingRule path)) → FirstMissing theme.rules flat path) ∧
      ((∀ leaf ∈ leaves flat, theme.rules.lookup leaf.1 ≠ none) →
        ∃ lines, SetsDefaults flat theme names layout.count lines) ∧
      DeclaresArray layout names layout.count := by
  obtain ⟨flat, flattened, _, numbers⟩ := (sound_of_parse parsed).flatten
  have ascending : (ids flat).Pairwise (· < ·) := numbers ▸ List.pairwise_lt_range
  have sets := fun found => classSource_setsDefaults numbers theme found names
  have fails := fun missing => classSource_fails_first ascending theme missing names
  have raises : ∀ p, (∃ path, (runAll (classSource flat theme names) p).2 =
      .error (.raised (.missingRule path))) ↔
      ∃ leaf ∈ leaves flat, theme.rules.lookup leaf.1 = none := by
    intro p
    constructor
    · rintro ⟨path, raised⟩
      by_contra none
      obtain ⟨_, ⟨_, _, _, _, printed⟩, _⟩ :=
        sets fun leaf member lacks => none ⟨leaf, member, lacks⟩
      simp [printed p] at raised
    · intro missing
      obtain ⟨path, _, failed⟩ := fails missing
      exact ⟨path, failed p⟩
  refine ⟨flat, flattened, raises, ?_, sets, header_declares layout names⟩
  intro p path raised
  obtain ⟨first, least, failed⟩ := fails ((raises p).mp ⟨path, raised⟩)
  obtain rfl : path = first := by simpa [failed p] using raised.symm
  exact least

def sharedTheme : Theme.Flat where
  about := ⟨"", ""⟩
  rules := [("main.z", ⟨1, 2, 3, 255⟩), ("main.y.a", ⟨4, 5, 6, 255⟩), ("main.y.b", ⟨7, 8, 9, 255⟩),
    ("main.x.in.a", ⟨10, 11, 12, 255⟩), ("main.x.in.b", ⟨13, 14, 15, 16⟩)]

theorem classSource_defaults_of_parse_shared : ∃ layout flat,
    Layout.parse sharedText = .ok layout ∧ layout.flatten = .ok flat ∧
    (∃ lines, SetsDefaults flat sharedTheme {} 5 lines ∧
      lines[1]? = some "this->colors_[1] = \x7b13, 14, 15, 16\x7d;" ∧
      lines[4]? = some "this->colors_[4] = \x7b1, 2, 3, 255\x7d;") ∧
    DeclaresArray layout {} 5 ∧
    ∃ path, (runAll (classSource flat ⟨⟨"", ""⟩, []⟩ {}) ⟨"  ", 0, "", true⟩).2 =
      .error (.raised (.missingRule path)) := by
  obtain ⟨layout, flat, parsed, flattened, count, paths⟩ := parse_sharedText
  obtain ⟨full, same, _, _, sets, declares⟩ :=
    classSource_defaults_of_parse sharedText layout parsed sharedTheme {}
  obtain rfl : flat = full := Except.ok.inj (flattened.symm.trans same)
  obtain ⟨bare, again, raises, _⟩ :=
    classSource_defaults_of_parse sharedText layout parsed ⟨⟨"", ""⟩, []⟩ {}
  obtain rfl : flat = bare := Except.ok.inj (flattened.symm.trans again)
  rw [count] at sets declares
  obtain ⟨lines, defaults⟩ := sets (by rw [paths]; decide)
  refine ⟨layout, flat, parsed, flattened, ⟨lines, defaults, ?_, ?_⟩, declares,
    (raises _).mpr (by rw [paths]; decide)⟩
  · obtain ⟨path, color, member, found, line⟩ := defaults.assigns 1 (by decide)
    obtain rfl : path = "main.x.in.b" := by simpa [paths] using member
    obtain rfl : ⟨13, 14, 15, 16⟩ = color := Option.some.inj found
    exact line
  · obtain ⟨path, color, member, found, line⟩ := defaults.assigns 4 (by decide)
    obtain rfl : path = "main.z" := by simpa [paths] using member
    obtain rfl : ⟨1, 2, 3, 255⟩ = color := Option.some.inj found
    exact line

end Palette.Output
