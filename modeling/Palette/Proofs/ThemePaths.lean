import Palette.Proofs.StructShape

/-!
Paths of a theme against paths of a layout. A theme is flattened rule by rule, a layout struct by
struct, and each walk puts its own paths together. They meet where the names on the way are the
same up to hyphens, underscores and the case of Latin letters, so a theme that spells the names of
a layout in any such way has all its colors.
-/

namespace Palette

namespace Theme

/-! ### Spellings of names -/

/-- Spellings of one name: hyphens and underscores may stand anywhere, and a Latin letter may be
large or small. -/
inductive SameSpelling : List Char → List Char → Prop
  | nil : SameSpelling [] []
  | fillerLeft {c : Char} {left right : List Char} (filler : c = '-' ∨ c = '_')
      (rest : SameSpelling left right) : SameSpelling (c :: left) right
  | fillerRight {c : Char} {left right : List Char} (filler : c = '-' ∨ c = '_')
      (rest : SameSpelling left right) : SameSpelling left (c :: right)
  | letter {c d : Char} {left right : List Char} (same : c.toLower = d.toLower)
      (rest : SameSpelling left right) : SameSpelling (c :: left) (d :: right)

/-- Names that are equal up to hyphens, underscores and the case of Latin letters. -/
def SameName (first second : String) : Prop := SameSpelling first.toList second.toList

def normalChars (cs : List Char) : List Char := (cs.filter fun c => !isFiller c).map Char.toLower

theorem isFiller_iff (c : Char) : isFiller c = true ↔ c = '-' ∨ c = '_' := by simp [isFiller]

theorem normalChars_filler {c : Char} (filler : isFiller c = true) (cs : List Char) :
    normalChars (c :: cs) = normalChars cs := by simp [normalChars, filler]

theorem normalChars_letter {c : Char} (letter : isFiller c = false) (cs : List Char) :
    normalChars (c :: cs) = c.toLower :: normalChars cs := by simp [normalChars, letter]

theorem isFiller_toLower (c : Char) : isFiller c.toLower = isFiller c := by
  unfold Char.toLower
  split
  · next upper =>
    have range : 65 ≤ c.val.toNat ∧ c.val.toNat ≤ 90 := upper
    have shifted : (c.val + ('a'.val - 'A'.val)).toNat = c.val.toNat + 32 := by
      rw [UInt32.toNat_add]
      change (c.val.toNat + 32) % 4294967296 = _
      omega
    have letters : ∀ d : Char, 65 ≤ d.val.toNat → d.val.toNat ≠ 95 → isFiller d = false := by
      intro d large other
      rw [isFiller, Bool.or_eq_false_iff, decide_eq_false_iff_not, decide_eq_false_iff_not]
      constructor <;> rintro rfl
      · exact absurd large (by decide)
      · exact other rfl
    rw [letters c range.1 (by omega), letters _ (by rw [shifted]; omega) (by rw [shifted]; omega)]
  · rfl

theorem SameSpelling.normalChars_eq {left right : List Char} (same : SameSpelling left right) :
    normalChars left = normalChars right := by
  induction same with
  | nil => rfl
  | fillerLeft filler _ ih => rw [normalChars_filler ((isFiller_iff _).mpr filler), ih]
  | fillerRight filler _ ih => rw [normalChars_filler ((isFiller_iff _).mpr filler), ih]
  | @letter c d _ _ same _ ih =>
    have alike : isFiller c = isFiller d := by rw [← isFiller_toLower c, same, isFiller_toLower]
    cases filler : isFiller c with
    | true => rw [normalChars_filler filler, normalChars_filler (alike ▸ filler), ih]
    | false => rw [normalChars_letter filler, normalChars_letter (alike ▸ filler), same, ih]

/-- A text whose characters in a path are known is brought to them by dropping fillers one by one;
the induction is on the text that still has some. -/
theorem SameSpelling.of_normalChars {left right : List Char}
    (same : normalChars left = normalChars right) : SameSpelling left right := by
  induction left generalizing right with
  | nil =>
    induction right with
    | nil => exact .nil
    | cons d right ih =>
      cases filler : isFiller d with
      | true =>
        rw [normalChars_filler filler] at same
        exact .fillerRight ((isFiller_iff d).mp filler) (ih same)
      | false =>
        rw [normalChars_letter filler] at same
        cases same
  | cons c left ihLeft =>
    cases filler : isFiller c with
    | true =>
      rw [normalChars_filler filler] at same
      exact .fillerLeft ((isFiller_iff c).mp filler) (ihLeft same)
    | false =>
      rw [normalChars_letter filler] at same
      induction right with
      | nil => cases same
      | cons d right ih =>
        cases other : isFiller d with
        | true =>
          rw [normalChars_filler other] at same
          exact .fillerRight ((isFiller_iff d).mp other) (ih same)
        | false =>
          rw [normalChars_letter other] at same
          obtain ⟨head, tail⟩ := List.cons.inj same
          exact .letter head (ihLeft tail)

theorem sameName_iff (first second : String) :
    SameName first second ↔ normalName first = normalName second :=
  ⟨fun same => congrArg String.ofList same.normalChars_eq,
    fun same => .of_normalChars (String.ofList_injective same)⟩

instance (first second : String) : Decidable (SameName first second) :=
  decidable_of_iff _ (sameName_iff first second).symm

theorem joined_cons (outer name : String) (names : List String) :
    joined outer (name :: names) = joined (below outer name) names := rfl

/-- How the names of a path are spelled does not show in it. -/
theorem joined_eq_of_sameNames {first second : List String}
    (same : List.Forall₂ SameName first second) (outer : String) :
    joined outer first = joined outer second := by
  induction same generalizing outer with
  | nil => rfl
  | @cons one other _ _ head _ ih =>
    have step : below outer one = below outer other := by
      rw [below, below, (sameName_iff one other).mp head]
    rw [joined_cons, joined_cons, step, ih]

/-! ### Leaves of a theme -/

inductive LeafAt : Rules → List String → Prop
  | color {rules : Rules} {name : String} {value : Rgba} (here : (name, Rule.color value) ∈ rules) :
      LeafAt rules [name]
  | ref {rules : Rules} {name target : String} (here : (name, Rule.ref target) ∈ rules) :
      LeafAt rules [name]
  | nest {rules inner : Rules} {name : String} {names : List String}
      (here : (name, Rule.nest inner) ∈ rules) (leaf : LeafAt inner names) :
      LeafAt rules (name :: names)

/-- There is a leaf at a sequence of names below a rule; at a leaf itself the sequence is empty. -/
def Rule.LeafAt : Rule → List String → Prop
  | .color _, names => names = []
  | .ref _, names => names = []
  | .nest rules, names => Theme.LeafAt rules names

theorem LeafAt.cases_cons {name : String} {rule : Rule} {rest : Rules} {names : List String}
    (leaf : LeafAt ((name, rule) :: rest) names) :
    (∃ inner, names = name :: inner ∧ rule.LeafAt inner) ∨ LeafAt rest names := by
  cases leaf with
  | color here =>
    rcases List.mem_cons.mp here with same | behind
    · obtain ⟨rfl, rfl⟩ := Prod.mk.inj same
      exact .inl ⟨[], rfl, rfl⟩
    · exact .inr (.color behind)
  | ref here =>
    rcases List.mem_cons.mp here with same | behind
    · obtain ⟨rfl, rfl⟩ := Prod.mk.inj same
      exact .inl ⟨[], rfl, rfl⟩
    · exact .inr (.ref behind)
  | nest here leaf =>
    rcases List.mem_cons.mp here with same | behind
    · obtain ⟨rfl, rfl⟩ := Prod.mk.inj same
      exact .inl ⟨_, rfl, leaf⟩
    · exact .inr (.nest behind leaf)

theorem lookup_put_self (path : String) (value : Rgba) (colors : Colors) :
    (Ordered.put path value colors).lookup path ≠ none := by simp [Ordered.lookup_put]

theorem lookup_put_of_lookup {path : String} {colors : Colors} (known : colors.lookup path ≠ none)
    (other : String) (value : Rgba) : (Ordered.put other value colors).lookup path ≠ none := by
  rw [Ordered.lookup_put]
  split
  · exact Option.some_ne_none value
  · exact known

mutual

theorem Rule.lookup_flattenInto {colors out flat : Colors} {path : String} {rule : Rule}
    (flattened : rule.flattenInto colors path out = .ok flat) :
    (∀ known, out.lookup known ≠ none → flat.lookup known ≠ none) ∧
      ∀ names, rule.LeafAt names → flat.lookup (joined path names) ≠ none := by
  cases rule with
  | color value =>
    obtain rfl := Except.ok.inj flattened
    exact ⟨fun _ known => lookup_put_of_lookup known path value,
      fun names leaf => by subst leaf; exact lookup_put_self path value out⟩
  | ref name =>
    rw [Rule.flattenInto] at flattened
    split at flattened
    · next value _ =>
      obtain rfl := Except.ok.inj flattened
      exact ⟨fun _ known => lookup_put_of_lookup known path value,
        fun names leaf => by subst leaf; exact lookup_put_self path value out⟩
    · cases flattened
  | nest rules => exact lookup_flattenAllInto flattened

theorem lookup_flattenAllInto {colors out flat : Colors} {outer : String} {rules : Rules}
    (flattened : flattenAllInto colors outer out rules = .ok flat) :
    (∀ known, out.lookup known ≠ none → flat.lookup known ≠ none) ∧
      ∀ names, LeafAt rules names → flat.lookup (joined outer names) ≠ none := by
  match rules with
  | [] =>
    obtain rfl := Except.ok.inj flattened
    exact ⟨fun _ known => known, fun names leaf => by cases leaf <;> contradiction⟩
  | (name, rule) :: rest =>
    rw [flattenAllInto] at flattened
    split at flattened
    · next next first =>
      obtain ⟨keptFirst, addedFirst⟩ := Rule.lookup_flattenInto first
      obtain ⟨keptRest, addedRest⟩ := lookup_flattenAllInto flattened
      refine ⟨fun known there => keptRest known (keptFirst known there), fun names leaf => ?_⟩
      rcases leaf.cases_cons with ⟨inner, rfl, below⟩ | behind
      · rw [joined_cons]
        exact keptRest _ (addedFirst inner below)
      · exact addedRest names behind
    · cases flattened

end

theorem lookup_flatten_of_leafAt {theme : Theme} {flat : Flat}
    (flattened : theme.flatten = .ok flat) {names : List String}
    (leaf : LeafAt theme.rules names) :
    flat.rules.lookup (joined "" names) ≠ none := by
  rw [Theme.flatten] at flattened
  cases inner : flattenAllInto theme.colors "" [] theme.rules with
  | error e => rw [inner] at flattened; cases flattened
  | ok rules =>
    rw [inner] at flattened
    obtain rfl := Except.ok.inj flattened
    exact (lookup_flattenAllInto inner).2 names leaf

end Theme

namespace Output

open Printer Layout Theme

/-- Every color of the layout has a leaf of the theme under the same names, in any spelling. -/
def Covers (rules : Rules) (flat : List FlatStruct) : Prop :=
  ∀ leaf ∈ namedLeaves flat,
    ∃ spelled, LeafAt rules spelled ∧ List.Forall₂ SameName spelled leaf.1

theorem Covers.lookup_ne_none {theme : Theme} {colors : Flat}
    (flattened : theme.flatten = .ok colors) {flat : List FlatStruct}
    (covers : Covers theme.rules flat) :
    ∀ leaf ∈ leaves flat, colors.rules.lookup leaf.1 ≠ none := by
  intro leaf member
  rw [leaves_eq_namedLeaves] at member
  obtain ⟨named, listed, rfl⟩ := List.mem_map.mp member
  obtain ⟨spelled, there, alike⟩ := covers named listed
  have path : joined "" spelled = joined "" named.1 := joined_eq_of_sameNames alike ""
  rw [← path]
  exact lookup_flatten_of_leafAt flattened there

/-- If a theme can be flattened and has a color or a reference under the names of every color of a
parsed layout, whatever their spelling, then the source of the theme class is printed to its end:
no rule is missing. -/
theorem classSource_prints_of_covers (text : String) (layout : Layout)
    (parsed : Layout.parse text = .ok layout) (theme : Theme) (colors : Flat)
    (flattened : theme.flatten = .ok colors) (names : Names) :
    ∃ flat, layout.flatten = .ok flat ∧
      (Covers theme.rules flat →
        ∀ p, (runAll (classSource flat colors names) p).2 = .ok ()) := by
  obtain ⟨flat, expanded, _, numbers⟩ := (sound_of_parse parsed).flatten
  refine ⟨flat, expanded, fun covers p => ?_⟩
  obtain ⟨_, ⟨_, _, _, _, printed⟩, _⟩ :=
    classSource_setsDefaults numbers colors (covers.lookup_ne_none flattened) names
  rw [printed p]

def fillerText : String := "layout: {_: {fields: {_: {fields: [A-b, _]}, tab: }}}\n"

theorem parse_fillerText : ∃ layout flat, Layout.parse fillerText = .ok layout ∧
    layout.flatten = .ok flat ∧
    (namedLeaves flat).map Prod.fst = [["_", "_", "A-b"], ["_", "_", "_"], ["_", "tab"]] := by
  have evaluated : ((Layout.parse fillerText).toOption.bind fun layout =>
      layout.flatten.toOption.map fun flat => (namedLeaves flat).map Prod.fst) =
        some [["_", "_", "A-b"], ["_", "_", "_"], ["_", "tab"]] := by decide +kernel
  simp only [Option.bind_eq_some_iff, Option.map_eq_some_iff, toOption_eq_some_iff] at evaluated
  obtain ⟨layout, parsed, flat, flattened, names⟩ := evaluated
  exact ⟨layout, flat, parsed, flattened, names⟩

def fillerTheme : Theme where
  about := ⟨"", ""⟩
  colors := [("--main", ⟨1, 2, 3, 255⟩)]
  rules := [("", .nest [("-_", .nest [("aB", .ref "--main"), ("--", .color ⟨4, 5, 6, 255⟩)]),
    ("T_A_B", .ref "--main")])]

theorem classSource_prints_of_covers_filler : ∃ layout flat colors,
    Layout.parse fillerText = .ok layout ∧ layout.flatten = .ok flat ∧
    fillerTheme.flatten = .ok colors ∧ Covers fillerTheme.rules flat ∧
    ∀ p, (runAll (classSource flat colors {}) p).2 = .ok () := by
  obtain ⟨layout, flat, parsed, expanded, listed⟩ := parse_fillerText
  obtain ⟨colors, flattened⟩ : ∃ colors, fillerTheme.flatten = .ok colors := ⟨_, rfl⟩
  obtain ⟨again, same, prints⟩ :=
    classSource_prints_of_covers fillerText layout parsed fillerTheme colors flattened {}
  obtain rfl : flat = again := Except.ok.inj (expanded.symm.trans same)
  have covers : Covers fillerTheme.rules flat := by
    intro leaf member
    have names : leaf.1 ∈ (namedLeaves flat).map Prod.fst := List.mem_map_of_mem member
    simp only [listed, List.mem_cons, List.not_mem_nil, or_false] at names
    rcases names with names | names | names <;> rw [names]
    · exact ⟨["", "-_", "aB"], .nest (.head _) (.nest (.head _) (.ref (.head _))),
        .cons (by decide) (.cons (by decide) (.cons (by decide) .nil))⟩
    · exact ⟨["", "-_", "--"], .nest (.head _) (.nest (.head _) (.color (.tail _ (.head _)))),
        .cons (by decide) (.cons (by decide) (.cons (by decide) .nil))⟩
    · exact ⟨["", "T_A_B"], .nest (.head _) (.ref (.tail _ (.head _))),
        .cons (by decide) (.cons (by decide) .nil)⟩
  exact ⟨layout, flat, colors, parsed, expanded, flattened, covers, prints covers⟩

end Output

end Palette
