import Palette.Proofs.DefaultColors
import Palette.Proofs.PrintedLookup
import Mathlib.Data.List.Nodup

/-!
Colors by name. The printed source finds the number of a color by its path and sets the color of
that number. Paths of different colors may be the same, since hyphens, underscores and case are
dropped; then the color that comes last is the one that is found, and no name leads to the others.
-/

namespace Palette

open KeyTrie Layout

theorem Text.encode_injective {first second : String}
    (same : Text.encode first = Text.encode second) : first = second := by
  have bytes : first.toList.utf8Encode = second.toList.utf8Encode := congrArg List.toByteArray same
  rwa [String.utf8Encode_toList, String.utf8Encode_toList, String.toByteArray_inj] at bytes

namespace Output

/-! ### The last color of a path -/

/-- The color `id` has the path that `name` encodes, and no later color has it. -/
def LastLeaf (leaves : List (String × Nat)) (name : Key) (id : Nat) : Prop :=
  ∃ path, (path, id) ∈ leaves ∧ Text.encode path = name ∧
    ∀ leaf ∈ leaves, Text.encode leaf.1 = name → leaf.2 ≤ id

theorem LastLeaf.unique {leaves : List (String × Nat)} {name : Key} {first second : Nat}
    (left : LastLeaf leaves name first) (right : LastLeaf leaves name second) : first = second := by
  obtain ⟨_, member, encoded, last⟩ := left
  obtain ⟨_, listed, same, latest⟩ := right
  exact Nat.le_antisymm (latest _ member encoded) (last _ listed same)

theorem get?_pathTree_eq_none_iff (leaves : List (String × Nat)) (name : Key) :
    (pathTree leaves).get? name = none ↔ ∀ leaf ∈ leaves, Text.encode leaf.1 ≠ name := by
  rw [pathTree, Node.get?_ofList, lastValue_eq_none_iff, List.forall_mem_map]

theorem lastLeaf_of_get? {leaves : List (String × Nat)}
    (ascending : (leaves.map Prod.snd).Pairwise (· < ·)) {name : Key} {value : Int}
    (found : (pathTree leaves).get? name = some value) :
    ∃ id : Nat, value = id ∧ LastLeaf leaves name id := by
  rw [pathTree, Node.get?_ofList, lastValue, List.lookup_eq_some_iff] at found
  obtain ⟨after, before, split, others⟩ := found
  have pairs := congrArg List.reverse split
  rw [List.reverse_reverse, List.reverse_append, List.reverse_cons, List.append_assoc,
    List.singleton_append, List.map_eq_append_iff] at pairs
  obtain ⟨front, back, rfl, _, behind⟩ := pairs
  obtain ⟨leaf, rest, rfl, here, later⟩ := List.map_eq_cons_iff.mp behind
  obtain ⟨rfl, rfl⟩ := Prod.mk.inj here
  refine ⟨leaf.2, rfl, leaf.1, by simp, rfl, fun other member encoded => ?_⟩
  rw [List.map_append, List.map_cons] at ascending
  rcases List.mem_append.mp member with inFront | inRest
  · have below := (List.pairwise_append.mp ascending).2.2 _ (List.mem_map_of_mem inFront) leaf.2
      List.mem_cons_self
    exact Nat.le_of_lt below
  · rcases List.mem_cons.mp inRest with rfl | inBack
    · exact Nat.le_refl _
    · have listed : (Text.encode other.1, (other.2 : Int)) ∈ after := by
        rw [← List.mem_reverse, ← later]
        exact List.mem_map_of_mem inBack
      simpa [encoded] using others _ listed

theorem get?_pathTree_eq_some_iff {leaves : List (String × Nat)}
    (ascending : (leaves.map Prod.snd).Pairwise (· < ·)) (name : Key) (value : Int) :
    (pathTree leaves).get? name = some value ↔ ∃ id : Nat, value = id ∧ LastLeaf leaves name id := by
  constructor
  · exact lastLeaf_of_get? ascending
  · rintro ⟨id, rfl, last⟩
    cases found : (pathTree leaves).get? name with
    | none =>
        obtain ⟨path, member, encoded, _⟩ := last
        exact absurd encoded ((get?_pathTree_eq_none_iff leaves name).mp found _ member)
    | some value =>
        obtain ⟨other, rfl, same⟩ := lastLeaf_of_get? ascending found
        rw [last.unique same]

theorem all_last_iff_nodup {leaves : List (String × Nat)}
    (ascending : (leaves.map Prod.snd).Pairwise (· < ·)) :
    (∀ id ∈ leaves.map Prod.snd, ∃ name, LastLeaf leaves name id) ↔
      (leaves.map Prod.fst).Nodup := by
  have distinct : (leaves.map Prod.snd).Nodup := ascending.imp Nat.ne_of_lt
  constructor
  · intro all
    have below : ∀ first ∈ leaves, ∀ second ∈ leaves, first.1 = second.1 → second.2 ≤ first.2 := by
      intro first member second listed same
      obtain ⟨name, path, inside, encoded, last⟩ := all first.2 (List.mem_map_of_mem member)
      have whole := List.inj_on_of_nodup_map distinct inside member rfl
      obtain rfl : path = second.1 := (congrArg Prod.fst whole).trans same
      exact last second listed encoded
    refine List.Nodup.map_on ?_ (List.Nodup.of_map _ distinct)
    intro first member second listed same
    exact List.inj_on_of_nodup_map distinct member listed
      (Nat.le_antisymm (below second listed first member same.symm)
        (below first member second listed same))
  · intro apart id listed
    obtain ⟨leaf, member, rfl⟩ := List.mem_map.mp listed
    refine ⟨Text.encode leaf.1, leaf.1, member, rfl, fun other inside encoded => ?_⟩
    have same := List.inj_on_of_nodup_map apart inside member (Text.encode_injective encoded)
    exact Nat.le_of_eq (congrArg Prod.snd same)

/-! ### The function that sets a color -/

/-- The statements of the function, with the meaning they have there. -/
inductive SetterStatement where
  /-- `auto idx = getDataIndex(name);` -/
  | find
  /-- `if (idx < 0) return false;` -/
  | rejectNegative
  /-- `this->colors_[idx] = color;` -/
  | store
  /-- `return true;` -/
  | accept

def SetterStatement.ofLine? (line : String) : Option SetterStatement :=
  [("auto idx = getDataIndex(name);", find), ("if (idx < 0) return false;", rejectNegative),
    ("this->colors_[idx] = color;", store), ("return true;", accept)].lookup line

/-- Runs the statements on the array of colors, where `getDataIndex` answers `found`. There is no
result where a variable is read before it is set, where the index lies outside the array, or where
the end is reached without an answer. -/
def runSetter (found : Int) (color : Rgba) :
    List SetterStatement → Option Int → List Rgba → Option (Bool × List Rgba)
  | [], _, _ => none
  | .find :: rest, _, colors => runSetter found color rest (some found) colors
  | .rejectNegative :: rest, index?, colors =>
      index?.bind fun index =>
        if index < 0 then some (false, colors) else runSetter found color rest index? colors
  | .store :: rest, index?, colors =>
      index?.bind fun index =>
        if 0 ≤ index ∧ index.toNat < colors.length then
          runSetter found color rest index? (colors.set index.toNat color)
        else none
  | .accept :: _, _, colors => some (true, colors)

/-- Calls the function with the body `setter`, where `lookup` is the text of `getDataIndex`. -/
def setColor (setter : List String) (lookup : String) (name : Key) (color : Rgba)
    (colors : List Rgba) : Option (Bool × List Rgba) := do
  let statements ← setter.mapM SetterStatement.ofLine?
  let run ← Target.Language.cpp.call lookup name
  let found ← run.answer?
  runSetter found color statements none colors

def setterLines : List String :=
  ["auto idx = getDataIndex(name);", "if (idx < 0) return false;", "this->colors_[idx] = color;",
    "return true;"]

theorem setColor_eq {lookup : String} {name : Key} {run : Target.Run} {found : Int}
    (called : Target.Language.cpp.call lookup name = some run) (answer : run.answer? = some found)
    (color : Rgba) (colors : List Rgba) :
    setColor setterLines lookup name color colors =
      if found < 0 then some (false, colors)
      else if found.toNat < colors.length then some (true, colors.set found.toNat color)
      else none := by
  have read : setterLines.mapM SetterStatement.ofLine? =
      some [.find, .rejectNegative, .store, .accept] := rfl
  rw [setColor, read, called]
  simp only [Option.bind_eq_bind, Option.bind_some, answer, runSetter]
  grind

/-! ### The printed source -/

open Printer Matcher Target

def setterText (names : Names) (lines : List String) (unit : String) (depth : Nat) : String :=
  lineText unit depth
      s!"bool {names.className}::setColor(const QLatin1String &name, QColor color) \x7b" ++
    String.join (lines.map (lineText unit (depth + 1))) ++ lineText unit depth "\x7d"

theorem setFunction_prints (names : Names) :
    Prints [setFunction names] (setterText names setterLines) := by
  have body : [.line s!"auto idx = {Dialect.cppFunction}(name);",
      .line "if (idx < 0) return false;", .line "this->colors_[idx] = color;",
      .line "return true;"] = setterLines.map fun line => (.line line : Step Error) := rfl
  rw [setFunction, body]
  exact ((prints_map_line setterLines).block _ _).of_eq fun _ _ => rfl

def lookupText (flat : List FlatStruct) (unit : String) : String :=
  (Cpp.functionOutline (Decision.ofTrie (pathTree (leaves flat)))).text unit 0

/-- The source has a function that sets a color, and behind it the one that finds its number. -/
def Emits (source : String) (names : Names) (unit : String) (setter : List String)
    (lookup : String) : Prop :=
  ∃ before after, source = before ++ setterText names setter unit 0 ++
    (lineText unit 0 s!"\x7d //  namespace {names.scope}" ++ lineText unit 0 "namespace \x7b") ++
    lookup ++ after

theorem sourceEnd_prints (flat : List FlatStruct) (names : Names) :
    Prints (sourceEnd flat names) fun unit depth =>
      setterText names setterLines unit depth ++
      (lineText unit depth s!"\x7d //  namespace {names.scope}" ++
        lineText unit depth "namespace \x7b") ++
      (Cpp.functionOutline (Decision.ofTrie (pathTree (leaves flat)))).text unit depth ++
      lineText unit depth "\x7d //  namespace" := by
  have lookup := (Cpp.written_function (pathTree (leaves flat)) (ofTrie_proper _)).prints
  exact (((setFunction_prints names).append ((prints_line _).append (prints_line _))).append
    (lookup.mapErrors Error.matcher)).append (prints_line _)

/-- A source that is printed to its end has both functions. -/
theorem emits_of_printed {flat : List FlatStruct} (ascending : (ids flat).Pairwise (· < ·))
    {theme : Theme.Flat} {names : Names} {unit source : String}
    (printed : render unit (classSource flat theme names) = (source, .ok ())) :
    Emits source names unit setterLines (lookupText flat unit) := by
  have found : ∀ leaf ∈ leaves flat, theme.rules.lookup leaf.1 ≠ none := by
    intro leaf member missing
    obtain ⟨path, _, fails⟩ :=
      classSource_fails_first ascending theme ⟨leaf, member, missing⟩ names
    have ended : (runAll (classSource flat theme names) { unit }).2 = .ok () :=
      congrArg Prod.snd printed
    simp [fails { unit }] at ended
  obtain ⟨before, start⟩ := (plain_sourceStart flat names).printable
  obtain ⟨lines, colors, _⟩ := resetColors_lines theme.rules (leaves flat) found
  have prints := classSource_prints start colors (sourceEnd_prints flat names)
  rw [render, prints] at printed
  obtain ⟨rfl, _⟩ := Prod.mk.inj printed
  exact ⟨before unit 0 ++ resetText names lines unit 0, lineText unit 0 "\x7d //  namespace", by
    simp [Printer.write, lookupText, String.append_assoc]⟩

theorem call_lookupText (flat : List FlatStruct) (unit : String)
    (blank : ∀ c ∈ unit.toList, c = ' ' ∨ c = '\t') (name : Key) :
    ∃ run, Language.cpp.call (lookupText flat unit) name = some run ∧
      run.answer? = some (((pathTree (leaves flat)).get? name).getD (-1)) := by
  have proper := ofTrie_proper ((leaves flat).map fun leaf => (Text.encode leaf.1, (leaf.2 : Int)))
  have blanks : ∀ c ∈ unit.toList, isBlank c = true := by simpa [isBlank] using blank
  have written := Cpp.written_function _ proper
  obtain ⟨_, flow⟩ := Cpp.functionCode_ends _ proper name (ofTrie_finds _ name)
  have read := Cpp.read_function _ proper unit written.readable blanks
  refine ⟨_, by rw [Language.call, Language.read, lookupText, pathTree, read, Option.map_some], ?_⟩
  rw [Run.answer?, flow, pathTree, Node.get?_ofList]
  rfl

section Numbered

variable {flat : List FlatStruct} {count : Nat}

theorem ascending_leaves (numbers : ids flat = List.range count) :
    ((leaves flat).map Prod.snd).Pairwise (· < ·) := by
  rw [map_snd_leaves, numbers]
  exact List.pairwise_lt_range

theorem LastLeaf.lt_count (numbers : ids flat = List.range count) {name : Key} {id : Nat}
    (last : LastLeaf (leaves flat) name id) : id < count := by
  obtain ⟨path, member, _⟩ := last
  have listed : id ∈ (leaves flat).map Prod.snd := List.mem_map_of_mem member
  rwa [map_snd_leaves, numbers, List.mem_range] at listed

/-- A call sets the last color of the path that the name encodes, and nothing if there is none. -/
theorem setColor_printed (numbers : ids flat = List.range count) {unit : String}
    (blank : ∀ c ∈ unit.toList, c = ' ' ∨ c = '\t') (name : Key) (color : Rgba)
    {colors : List Rgba} (size : colors.length = count) :
    setColor setterLines (lookupText flat unit) name color colors =
      some (match (pathTree (leaves flat)).get? name with
        | some index => (true, colors.set index.toNat color)
        | none => (false, colors)) := by
  obtain ⟨run, called, answer⟩ := call_lookupText flat unit blank name
  rw [setColor_eq called answer]
  cases found : (pathTree (leaves flat)).get? name with
  | none => rfl
  | some index =>
      obtain ⟨id, rfl, last⟩ := lastLeaf_of_get? (ascending_leaves numbers) found
      have inside : id < colors.length := size ▸ last.lt_count numbers
      simp [inside]

/-- Calls with this name set the color `id`, whatever the colors are. -/
def Reaches (setter : List String) (lookup : String) (count : Nat) (name : Key) (id : Nat) : Prop :=
  ∀ color colors, colors.length = count →
    setColor setter lookup name color colors = some (true, colors.set id color)

theorem reaches_iff_lastLeaf (numbers : ids flat = List.range count) {unit : String}
    (blank : ∀ c ∈ unit.toList, c = ' ' ∨ c = '\t') (name : Key) {id : Nat} (bound : id < count) :
    Reaches setterLines (lookupText flat unit) count name id ↔
      LastLeaf (leaves flat) name id := by
  constructor
  · intro reaches
    -- One array and one color that it does not hold are enough to tell the numbers apart.
    have size : (List.replicate count (⟨0, 0, 0, 0⟩ : Rgba)).length = count := by simp
    have called := reaches ⟨1, 0, 0, 0⟩ _ size
    rw [setColor_printed numbers blank name _ size] at called
    cases found : (pathTree (leaves flat)).get? name with
    | none => simp [found] at called
    | some index =>
        obtain ⟨other, rfl, last⟩ := lastLeaf_of_get? (ascending_leaves numbers) found
        rw [found] at called
        have same := congrArg (·[id]?) (Prod.mk.inj (Option.some.inj called)).2
        by_cases here : other = id
        · exact here ▸ last
        · simp [here, bound] at same
  · intro last color colors size
    have found := (get?_pathTree_eq_some_iff (ascending_leaves numbers) name id).mpr ⟨id, rfl, last⟩
    rw [setColor_printed numbers blank name color size, found]
    rfl

end Numbered

/-- In a source that is printed for a parsed layout, a name is looked up as the last color whose path
it encodes. The lookup function answers that color's number or `-1`, so setting a color never leaves
the array; and there is a name for every color if and only if no two colors have the same path. -/
theorem setColor_reaches_of_parse (text : String) (layout : Layout)
    (parsed : Layout.parse text = .ok layout) (flat : List FlatStruct)
    (flattened : layout.flatten = .ok flat) (theme : Theme.Flat) (names : Names)
    (unit source : String)
    (blank : ∀ c ∈ unit.toList, c = ' ' ∨ c = '\t')
    (printed : render unit (classSource flat theme names) = (source, .ok ())) :
    (∀ name value, (pathTree (leaves flat)).get? name = some value ↔
        ∃ id : Nat, value = id ∧ LastLeaf (leaves flat) name id) ∧
      (∀ name, (pathTree (leaves flat)).get? name = none ↔
        ∀ leaf ∈ leaves flat, Text.encode leaf.1 ≠ name) ∧
      ∃ setter lookup, Emits source names unit setter lookup ∧
        (∀ name, ∃ run answer, Language.cpp.call lookup name = some run ∧
          run.answer? = some answer ∧ answer = ((pathTree (leaves flat)).get? name).getD (-1) ∧
          (answer = -1 ∨ ∃ id < layout.count, answer = id)) ∧
        (∀ name color colors, colors.length = layout.count →
          setColor setter lookup name color colors =
            some (match (pathTree (leaves flat)).get? name with
              | some index => (true, colors.set index.toNat color)
              | none => (false, colors))) ∧
        ((∀ id < layout.count, ∃ name, Reaches setter lookup layout.count name id) ↔
          ((leaves flat).map Prod.fst).Nodup) := by
  obtain ⟨expanded, again, _, numbers⟩ := (sound_of_parse parsed).flatten
  obtain rfl : flat = expanded := Except.ok.inj (flattened.symm.trans again)
  have ascending := ascending_leaves numbers
  refine ⟨get?_pathTree_eq_some_iff ascending, get?_pathTree_eq_none_iff _, setterLines,
    lookupText flat unit, emits_of_printed (map_snd_leaves flat ▸ ascending) printed, ?_,
    fun name color colors size => setColor_printed numbers blank name color size, ?_⟩
  · intro name
    obtain ⟨run, called, answer⟩ := call_lookupText flat unit blank name
    refine ⟨run, _, called, answer, rfl, ?_⟩
    cases found : (pathTree (leaves flat)).get? name with
    | none => exact .inl rfl
    | some value =>
        obtain ⟨id, rfl, last⟩ := lastLeaf_of_get? ascending found
        exact .inr ⟨id, last.lt_count numbers, rfl⟩
  · rw [← all_last_iff_nodup ascending, map_snd_leaves, numbers]
    simp only [List.mem_range]
    refine forall₂_congr fun id bound => exists_congr fun name => ?_
    exact reaches_iff_lastLeaf numbers blank name bound

def collidingText : String := "layout: {main: {fields: [a-b, ab]}}\n"

theorem parse_collidingText : ∃ layout flat, Layout.parse collidingText = .ok layout ∧
    layout.flatten = .ok flat ∧ layout.count = 2 ∧
    leaves flat = [("main.ab", 0), ("main.ab", 1)] := by
  have evaluated : ((Layout.parse collidingText).toOption.bind fun layout =>
      layout.flatten.toOption.map fun flat => (layout.count, leaves flat)) =
        some (2, [("main.ab", 0), ("main.ab", 1)]) := by decide +kernel
  simp only [Option.bind_eq_some_iff, Option.map_eq_some_iff, toOption_eq_some_iff] at evaluated
  obtain ⟨layout, parsed, flat, flattened, both⟩ := evaluated
  exact ⟨layout, flat, parsed, flattened, Prod.mk.inj both⟩

def collidingTheme : Theme.Flat := ⟨⟨"", ""⟩, [("main.ab", ⟨1, 2, 3, 255⟩)]⟩

theorem setColor_reaches_of_parse_colliding : ∃ layout flat source,
    Layout.parse collidingText = .ok layout ∧ layout.flatten = .ok flat ∧
    render "\t" (classSource flat collidingTheme {}) = (source, .ok ()) ∧
    (pathTree (leaves flat)).get? (Text.encode "main.ab") = some 1 ∧
    ∃ setter lookup, Emits source {} "\t" setter lookup ∧
      ¬ ∀ id < 2, ∃ name, Reaches setter lookup 2 name id := by
  obtain ⟨layout, flat, parsed, flattened, count, paths⟩ := parse_collidingText
  have numbers : ids flat = List.range 2 := by
    rw [← map_snd_leaves, paths]
    rfl
  obtain ⟨_, ⟨_, _, _, _, prints⟩, _⟩ := classSource_setsDefaults numbers collidingTheme
    (by rw [paths]; decide) {}
  obtain ⟨found, _, setter, lookup, emits, _, _, reached⟩ := setColor_reaches_of_parse collidingText
    layout parsed flat flattened collidingTheme {} "\t" _ (by simp) (by rw [render, prints])
  rw [count] at reached
  refine ⟨layout, flat, _, parsed, flattened, by rw [render, prints], ?_, setter, lookup, emits, ?_⟩
  · refine (found _ 1).mpr ⟨1, rfl, "main.ab", by simp [paths], rfl, ?_⟩
    simp [paths]
  · rw [reached, paths]
    decide

end Output

end Palette
