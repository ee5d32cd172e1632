import Palette.Layout.Flatten
import Palette.Layout.Resolve
import Palette.Output.ClassSource
import Palette.Proofs.LayoutResolve

/-!
Flattening a resolved layout. Flattening is described twice: by the expansions that are built from
the first definition on, and by a relation that follows each reference where it is met and counts
the colors as it goes. For a layout that was resolved both agree, every reference is found, and the
counts noted while resolving are the numbers of colors that come out.
-/

namespace Palette.Layout

/-! ### Numbers of colors -/

mutual

/-- The numbers of the colors in an item, depth first from left to right. -/
def FlatItem.ids : FlatItem → List Nat
  | .field _ id => [id]
  | .struct _ fields => idsOf fields

def idsOf : List FlatItem → List Nat
  | [] => []
  | item :: rest => item.ids ++ idsOf rest

end

def ids (flat : List FlatStruct) : List Nat := flat.flatMap fun s => idsOf s.fields

mutual

def Shape.size : Shape → Nat
  | .field _ => 1
  | .struct _ fields => sizeAll fields

def sizeAll : List Shape → Nat
  | [] => 0
  | shape :: rest => shape.size + sizeAll rest

end

mutual

theorem Shape.number_ids (next : Nat) (shape : Shape) :
    (shape.number next).1.ids = List.range' next shape.size ∧
      (shape.number next).2 = next + shape.size := by
  cases shape with
  | field name => exact ⟨rfl, rfl⟩
  | struct name fields => exact numberAll_ids next fields

theorem numberAll_ids (next : Nat) (shapes : List Shape) :
    idsOf (numberAll next shapes).1 = List.range' next (sizeAll shapes) ∧
      (numberAll next shapes).2 = next + sizeAll shapes := by
  cases shapes with
  | nil => exact ⟨rfl, rfl⟩
  | cons shape rest =>
      obtain ⟨first, middle⟩ := Shape.number_ids next shape
      obtain ⟨others, stop⟩ := numberAll_ids (next + shape.size) rest
      simp only [numberAll, idsOf, sizeAll, middle]
      constructor
      · rw [first, others, List.range'_append_1]
      · rw [stop, Nat.add_assoc]

end

/-! ### Following references -/

/-- Items whose colors are numbered from `next` on, and the first number left. References are
followed through the definitions as they are met; where one leads nowhere, or back to itself, there
is no result. -/
inductive Numbered (definitions : Definitions) : Nat → List Item → List FlatItem → Nat → Prop where
  | nil (next : Nat) : Numbered definitions next [] [] next
  | field {next stop : Nat} {rest : List Item} {items : List FlatItem} (name : String)
      (behind : Numbered definitions (next + 1) rest items stop) :
      Numbered definitions next (.field name :: rest) (.field name next :: items) stop
  | ref {next middle stop : Nat} {rest : List Item} {inner items : List FlatItem}
      {definition : Definition} (name referenced : String) (count : Nat)
      (found : definitions.lookup referenced = some definition)
      (inside : Numbered definitions next definition.fields inner middle)
      (behind : Numbered definitions middle rest items stop) :
      Numbered definitions next (.ref name referenced count :: rest) (.struct name inner :: items)
        stop
  | struct {next middle stop : Nat} {fields rest : List Item} {inner items : List FlatItem}
      (name : String) (count : Nat) (inside : Numbered definitions next fields inner middle)
      (behind : Numbered definitions middle rest items stop) :
      Numbered definitions next (.struct name fields count :: rest) (.struct name inner :: items)
        stop

inductive NumberedStructs (definitions : Definitions) :
    Nat → List (String × List Item) → List FlatStruct → Nat → Prop where
  | nil (next : Nat) : NumberedStructs definitions next [] [] next
  | cons {next middle stop : Nat} {fields : List Item} {items : List FlatItem}
      {rest : List (String × List Item)} {flat : List FlatStruct} (name : String)
      (inside : Numbered definitions next fields items middle)
      (behind : NumberedStructs definitions middle rest flat stop) :
      NumberedStructs definitions next ((name, fields) :: rest) (⟨name, items⟩ :: flat) stop

section Following

variable {definitions : Definitions}

theorem Numbered.mono {later : Definitions} (grown : definitions <+: later) {next stop : Nat}
    {items : List Item} {flat : List FlatItem}
    (numbered : Numbered definitions next items flat stop) :
    Numbered later next items flat stop := by
  induction numbered with
  | nil next => exact .nil next
  | field name _ ih => exact .field name ih
  | ref name referenced count found _ _ insideIh behindIh =>
      exact .ref name referenced count (lookup_of_isPrefix grown found) insideIh behindIh
  | struct name count _ _ insideIh behindIh => exact .struct name count insideIh behindIh

theorem Numbered.unique {next stop : Nat} {items : List Item} {flat : List FlatItem}
    (numbered : Numbered definitions next items flat stop) {other : List FlatItem} {stop' : Nat}
    (again : Numbered definitions next items other stop') : other = flat ∧ stop' = stop := by
  induction numbered generalizing other stop' with
  | nil => cases again; exact ⟨rfl, rfl⟩
  | field name _ ih =>
      cases again with
      | field _ behind =>
          obtain ⟨rfl, rfl⟩ := ih behind
          exact ⟨rfl, rfl⟩
  | ref name referenced count found _ _ insideIh behindIh =>
      cases again with
      | ref _ _ _ foundAgain inside behind =>
          obtain rfl := Option.some.inj (found.symm.trans foundAgain)
          obtain ⟨rfl, rfl⟩ := insideIh inside
          obtain ⟨rfl, rfl⟩ := behindIh behind
          exact ⟨rfl, rfl⟩
  | struct name count _ _ insideIh behindIh =>
      cases again with
      | struct _ _ inside behind =>
          obtain ⟨rfl, rfl⟩ := insideIh inside
          obtain ⟨rfl, rfl⟩ := behindIh behind
          exact ⟨rfl, rfl⟩

/-- Numbered from anywhere, the items hold exactly `count` colors, which take the next numbers. -/
def Fills (definitions : Definitions) (items : List Item) (count : Nat) : Prop :=
  ∀ next, ∃ flat, Numbered definitions next items flat (next + count) ∧
    idsOf flat = List.range' next count ∧
    ∀ other stop, Numbered definitions next items other stop → other = flat

/-! ### Expansions -/

/-- `shapes` is what the items expand to, with the number of colors that they are said to hold. -/
structure Spread (definitions : Definitions) (items : List Item) (shapes : List Shape)
    (count : Nat) : Prop where
  size : sizeAll shapes = count
  numbered : ∀ next, Numbered definitions next items (numberAll next shapes).1 (next + count)

theorem Spread.mono {later : Definitions} (grown : definitions <+: later) {items : List Item}
    {shapes : List Shape} {count : Nat} (spread : Spread definitions items shapes count) :
    Spread later items shapes count :=
  ⟨spread.size, fun next => (spread.numbered next).mono grown⟩

theorem Spread.fills {items : List Item} {shapes : List Shape} {count : Nat}
    (spread : Spread definitions items shapes count) : Fills definitions items count := by
  intro next
  refine ⟨_, spread.numbered next, ?_, fun other stop again => ?_⟩
  · rw [(numberAll_ids next shapes).1, spread.size]
  · exact ((spread.numbered next).unique again).1

/-- The expansions of all definitions. -/
structure Table (definitions : Definitions) (known : Shapes) : Prop where
  names : known.map Prod.fst = definitions.map Prod.fst
  spread : ∀ name definition, definitions.lookup name = some definition →
    ∃ shapes, known.lookup name = some shapes ∧
      Spread definitions definition.fields shapes definition.count

variable {known : Shapes}

mutual

theorem Item.Counted.expand (table : Table definitions known) {item : Item}
    (counted : item.Counted definitions) :
    ∃ shape, item.expand known = .ok shape ∧ shape.size = item.count ∧
      ∀ next rest items stop, Numbered definitions (next + item.count) rest items stop →
        Numbered definitions next (item :: rest) ((shape.number next).1 :: items) stop := by
  cases item with
  | field name => exact ⟨.field name, rfl, rfl, fun _ _ _ _ behind => .field name behind⟩
  | ref name referenced count =>
      obtain ⟨definition, found, rfl⟩ := counted
      obtain ⟨shapes, expanded, spread⟩ := table.spread referenced definition found
      refine ⟨.struct name shapes, by rw [Item.expand, expanded], spread.size, ?_⟩
      intro next rest items stop behind
      exact .ref name referenced _ found (spread.numbered next) behind
  | struct name fields count =>
      obtain ⟨rfl, inner⟩ := counted
      obtain ⟨shapes, expanded, spread⟩ := inner.expand table
      refine ⟨.struct name shapes, by rw [Item.expand, expanded]; rfl, spread.size, ?_⟩
      intro next rest items stop behind
      exact .struct name _ (spread.numbered next) behind

theorem CountedAll.expand (table : Table definitions known) {items : List Item}
    (counted : CountedAll definitions items) :
    ∃ shapes, expandAll known items = .ok shapes ∧
      Spread definitions items shapes (countAll items) := by
  cases items with
  | nil => exact ⟨[], rfl, rfl, fun next => .nil next⟩
  | cons item rest =>
      obtain ⟨shape, first, size, numbered⟩ := counted.1.expand table
      obtain ⟨shapes, others, spread⟩ := counted.2.expand table
      refine ⟨shape :: shapes, by rw [expandAll, first, others]; rfl, ?_, ?_⟩
      · rw [sizeAll, size, spread.size, countAll_cons]
      · intro next
        simp only [numberAll, (Shape.number_ids next shape).2, size, countAll_cons]
        apply numbered
        rw [← Nat.add_assoc]
        exact spread.numbered (next + item.count)

end

theorem Item.Counted.fills (table : Table definitions known) {item : Item}
    (counted : item.Counted definitions) : Fills definitions [item] item.count := by
  have alone : CountedAll definitions [item] := ⟨counted, trivial⟩
  obtain ⟨shapes, _, spread⟩ := alone.expand table
  exact spread.fills

end Following

theorem Settled.table {definitions : Definitions} (settled : Settled definitions) :
    ∃ known, shapesOf definitions = .ok known ∧ Table definitions known := by
  induction settled with
  | nil => exact ⟨[], rfl, rfl, by simp⟩
  | @snoc earlier name definition _ total counted ih =>
      obtain ⟨known, expanded, table⟩ := ih
      obtain ⟨shapes, here, spread⟩ := counted.expand table
      have grown : earlier <+: earlier ++ [(name, definition)] := List.prefix_append _ _
      refine ⟨known ++ [(name, shapes)], ?_, by simp [table.names], ?_⟩
      · rw [shapesOf, List.foldlM_append, bind_eq_ok_iff]
        refine ⟨known, expanded, ?_⟩
        simp only [List.foldlM_cons, List.foldlM_nil, here]
        rfl
      · intro other found lookup
        rw [List.lookup_append] at lookup ⊢
        cases before : earlier.lookup other with
        | some old =>
            obtain rfl : old = found := by simpa [before] using lookup
            obtain ⟨inner, known', spread⟩ := table.spread other old before
            exact ⟨inner, by rw [known']; rfl, spread.mono grown⟩
        | none =>
            -- The name is new, so neither list had an entry for it.
            have fresh : known.lookup other = none := by
              have unknown := List.lookup_eq_none_iff.mp before
              rw [List.lookup_eq_none_iff]
              intro entry member
              have listed : entry.1 ∈ earlier.map Prod.fst :=
                table.names ▸ List.mem_map_of_mem member
              obtain ⟨source, inside, same⟩ := List.mem_map.mp listed
              exact same ▸ unknown source inside
            by_cases same : other = name
            · subst same
              obtain rfl : definition = found := by simpa [before] using lookup
              exact ⟨shapes, by simp [fresh], total ▸ spread.mono grown⟩
            · simp [before, List.lookup_cons, beq_false_of_ne same] at lookup

theorem count_cons (definitions : Definitions) (name : String) (fields : List Item)
    (items : List (String × List Item)) :
    Layout.count ⟨definitions, (name, fields) :: items⟩ =
      countAll fields + Layout.count ⟨definitions, items⟩ := rfl

theorem numbered_structs {definitions : Definitions} {known : Shapes}
    (table : Table definitions known) (items : List (String × List Item))
    (counted : ∀ item ∈ items, CountedAll definitions item.2) :
    ∃ shapes, (items.mapM fun item => do return (item.1, ← expandAll known item.2)) = .ok shapes ∧
      ∀ next, NumberedStructs definitions next items (numberStructs next shapes)
          (next + Layout.count ⟨definitions, items⟩) ∧
        ids (numberStructs next shapes) = List.range' next (Layout.count ⟨definitions, items⟩) := by
  induction items with
  | nil => exact ⟨[], rfl, fun next => ⟨.nil next, rfl⟩⟩
  | cons item items ih =>
      obtain ⟨name, fields⟩ := item
      obtain ⟨inner, expanded, spread⟩ := (counted _ List.mem_cons_self).expand table
      obtain ⟨shapes, others, numbered⟩ :=
        ih fun other member => counted other (List.mem_cons_of_mem _ member)
      refine ⟨(name, inner) :: shapes, ?_, fun next => ?_⟩
      · rw [List.mapM_cons, others]
        simp only [expanded]
        rfl
      · obtain ⟨behind, numbers⟩ := numbered (next + countAll fields)
        obtain ⟨first, stop⟩ := numberAll_ids next inner
        rw [spread.size] at first stop
        simp only [numberStructs, stop, ids, List.flatMap_cons, count_cons]
        constructor
        · rw [← Nat.add_assoc]
          exact .cons name (spread.numbered next) behind
        · rw [first, ← List.range'_append_1]
          exact congrArg _ numbers

/-! ### Parsed layouts -/

mutual

def Item.within : Item → List Item
  | .field name => [.field name]
  | .ref name referenced count => [.ref name referenced count]
  | .struct name fields count => .struct name fields count :: withinAll fields

def withinAll : List Item → List Item
  | [] => []
  | item :: rest => item.within ++ withinAll rest

end

def allItems (layout : Layout) : List Item :=
  (layout.definitions.flatMap fun entry => withinAll entry.2.fields) ++
    layout.items.flatMap fun item => withinAll item.2

mutual

theorem Item.Counted.within {definitions : Definitions} {item : Item}
    (counted : item.Counted definitions) : ∀ inner ∈ item.within, inner.Counted definitions := by
  cases item with
  | field name => simpa [Item.within] using counted
  | ref name referenced count => simpa [Item.within] using counted
  | struct name fields count =>
      intro inner member
      rcases List.mem_cons.mp member with rfl | below
      · exact counted
      · exact counted.2.within inner below

theorem CountedAll.within {definitions : Definitions} {items : List Item}
    (counted : CountedAll definitions items) :
    ∀ inner ∈ withinAll items, inner.Counted definitions := by
  cases items with
  | nil => simp [withinAll]
  | cons item rest =>
      intro inner member
      rcases List.mem_append.mp member with here | behind
      · exact counted.1.within inner here
      · exact counted.2.within inner behind

end

theorem Sound.allItems {layout : Layout} (sound : Sound layout) :
    ∀ item ∈ layout.allItems, item.Counted layout.definitions := by
  intro item member
  rcases List.mem_append.mp member with inDefinition | inItem
  · obtain ⟨entry, listed, inside⟩ := List.mem_flatMap.mp inDefinition
    exact (sound.settled.counted entry listed).2.within item inside
  · obtain ⟨entry, listed, inside⟩ := List.mem_flatMap.mp inItem
    exact (sound.counted entry listed).within item inside

theorem sound_of_parse {text : String} {layout : Layout} (parsed : parse text = .ok layout) :
    Sound layout := by
  simp only [parse, bind_eq_ok_iff, mapError_eq_ok_iff] at parsed
  obtain ⟨data, _, source, _, resolved⟩ := parsed
  exact sound_ofSource resolved

theorem Sound.flatten {layout : Layout} (sound : Sound layout) :
    ∃ flat, layout.flatten = .ok flat ∧
      NumberedStructs layout.definitions 0 layout.items flat layout.count ∧
      ids flat = List.range layout.count := by
  obtain ⟨known, expanded, table⟩ := sound.settled.table
  obtain ⟨shapes, items, numbered⟩ := numbered_structs table layout.items sound.counted
  obtain ⟨follows, numbers⟩ := numbered 0
  refine ⟨numberStructs 0 shapes, ?_, ?_, ?_⟩
  · exact bind_eq_ok_iff.mpr ⟨known, expanded, bind_eq_ok_iff.mpr ⟨shapes, items, rfl⟩⟩
  · rwa [Nat.zero_add] at follows
  · rw [List.range_eq_range']
    exact numbers

mutual

theorem FlatItem.map_snd_leaves (outer : String) (item : FlatItem) :
    (item.leaves outer).map Prod.snd = item.ids := by
  cases item with
  | field name id => rfl
  | struct name fields => exact map_snd_leavesOf _ fields

theorem map_snd_leavesOf (outer : String) (items : List FlatItem) :
    (leavesOf outer items).map Prod.snd = idsOf items := by
  cases items with
  | nil => rfl
  | cons item rest =>
      rw [leavesOf, List.map_append, FlatItem.map_snd_leaves outer item,
        map_snd_leavesOf outer rest, idsOf]

end

theorem map_snd_leaves (flat : List FlatStruct) : (leaves flat).map Prod.snd = ids flat := by
  simp only [leaves, List.map_flatMap, map_snd_leavesOf, ids]

def sharedText : String :=
  "definitions: {Pair: {fields: [a, b]}}\n" ++
    "layout: {main: {fields: {x: {fields: {in: {ref: Pair}}}, y: {ref: Pair}, z: }}}\n"

theorem parse_sharedText : ∃ layout flat, parse sharedText = .ok layout ∧
    layout.flatten = .ok flat ∧ layout.count = 5 ∧
    leaves flat = [("main.x.in.a", 0), ("main.x.in.b", 1), ("main.y.a", 2), ("main.y.b", 3),
      ("main.z", 4)] := by
  have evaluated : ((parse sharedText).toOption.bind fun layout =>
      layout.flatten.toOption.map fun flat => (layout.count, leaves flat)) =
        some (5, [("main.x.in.a", 0), ("main.x.in.b", 1), ("main.y.a", 2), ("main.y.b", 3),
          ("main.z", 4)]) := by decide +kernel
  simp only [Option.bind_eq_some_iff, Option.map_eq_some_iff, toOption_eq_some_iff] at evaluated
  obtain ⟨layout, parsed, flat, flattened, both⟩ := evaluated
  exact ⟨layout, flat, parsed, flattened, Prod.mk.inj both⟩

/-- A parsed layout is flattened without a missing definition, exactly as following its references
one by one does it. Its colors are numbered in order from zero, as many as the layout counts, and
every item and every definition holds as many as is noted there. -/
theorem flatten_numbers_of_parse (text : String) (layout : Layout)
    (parsed : parse text = .ok layout) :
    ∃ flat, layout.flatten = .ok flat ∧
      NumberedStructs layout.definitions 0 layout.items flat layout.count ∧
      ids flat = List.range layout.count ∧
      (∀ item ∈ layout.allItems, Fills layout.definitions [item] item.count) ∧
      ∀ entry ∈ layout.definitions, Fills layout.definitions entry.2.fields entry.2.count := by
  have sound := sound_of_parse parsed
  obtain ⟨flat, flattened, follows, numbers⟩ := sound.flatten
  obtain ⟨known, _, table⟩ := sound.settled.table
  refine ⟨flat, flattened, follows, numbers, ?_, ?_⟩
  · intro item member
    exact (sound.allItems item member).fills table
  · intro entry member
    obtain ⟨total, counted⟩ := sound.settled.counted entry member
    obtain ⟨shapes, _, spread⟩ := counted.expand table
    rw [total]
    exact spread.fills

theorem flatten_numbers_of_parse_shared : ∃ layout flat, parse sharedText = .ok layout ∧
    layout.flatten = .ok flat ∧ ids flat = [0, 1, 2, 3, 4] := by
  obtain ⟨layout, _, parsed, _, count, _⟩ := parse_sharedText
  obtain ⟨flat, flattened, _, numbers, _⟩ := flatten_numbers_of_parse sharedText layout parsed
  exact ⟨layout, flat, parsed, flattened, by rw [numbers, count]; rfl⟩

end Palette.Layout
