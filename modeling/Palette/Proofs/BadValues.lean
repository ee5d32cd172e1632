import Palette.Proofs.HexRange
import Palette.Proofs.InfiniteArguments
import Palette.Proofs.WalkFailures

/-!
Values that end the walk over a style sheet. Most values that are no colors are warned about and
left out, but a hexadecimal channel below zero and an infinite argument of a color function end the
walk. A block is walked to its end exactly if no declaration read in it has such a value, in
whatever order they stand.
-/

namespace Palette.Theme

open Stylesheet Walk

variable {source : List UInt8}

/-! Values that end the walk. -/

/-- A call of a color function whose numbers run into infinity where bytes are asked for. -/
inductive InfiniteCall (source : List UInt8) (call : Node) (name : String) : Prop
  | mk {arguments : Node} {text first second third : String} {alpha : Option String}
      {numbers : String → String → String → List (Option Float)}
      (listed : call.child? "arguments" = some arguments)
      (known : Rgba.roundedNumbers.lookup name = some numbers)
      (read : (textOf source arguments).outcome = .ok text)
      (cut : Rgba.splitArguments text = ([first, second, third], alpha))
      (infinite : Rgba.Overflows (numbers first second third ++ Rgba.alphaNumbers alpha))

/-- A value that is read as a color and ends the walk. -/
inductive BadValue (source : List UInt8) (value : Node) : Prop
  | negative {text : String} (kind : value.kind = "color_value")
      (read : (textOf source value).outcome = .ok text)
      (pair : Rgba.HasNegativePair (Text.strip text))
  | infinite {name : String} (kind : value.kind = "call_expression")
      (called : (functionName source value).outcome = .ok name)
      (call : InfiniteCall source value name)

theorem hexColor_escapesIff (text : String) :
    (hexColor text).EscapesIff (Rgba.HasNegativePair text) := by
  rw [← propext (Rgba.ofHex_outOfRange_iff text)]
  unfold hexColor
  split
  next color read => exact (succeeds_pure _).congr (by simp [read])
  next faults read => exact (escapesIff_fail rfl).congr (by simp [read])
  next error other read =>
    refine (succeeds_pure _).congr ⟨False.elim, fun ⟨faults, out⟩ => ?_⟩
    rw [read] at out
    exact other faults (Except.error.inj out)

theorem infiniteCall_iff {call arguments : Node} {name text : String}
    {function : String → String → String → Except Rgba.ArgumentError (UInt8 × UInt8 × UInt8)}
    (listed : call.child? "arguments" = some arguments)
    (known : Rgba.functions.lookup name = some function)
    (read : (textOf source arguments).outcome = .ok text) :
    InfiniteCall source call name ↔ ∃ first second third alpha,
      Rgba.splitArguments text = ([first, second, third], alpha) ∧
        functionColor (function first second third) alpha = .error .infinite := by
  rcases Rgba.functions_lookup_cases name with
    ⟨none, _⟩ | ⟨function', numbers, known', counted, rounds⟩
  · cases known.symm.trans none
  cases known.symm.trans known'
  constructor
  · rintro ⟨listed', counted', read', cut, infinite⟩
    cases listed.symm.trans listed'
    cases counted.symm.trans counted'
    cases read.symm.trans read'
    exact ⟨_, _, _, _, cut, (functionColor_eq_infinite (rounds _ _ _) _).2 infinite⟩
  · rintro ⟨first, second, third, alpha, cut, infinite⟩
    exact ⟨listed, counted, read, cut,
      (functionColor_eq_infinite (rounds first second third) alpha).1 infinite⟩

theorem calledColor_escapesIff {call : Node} (legible : Legible source call) (name : String) :
    (calledColor source call name).EscapesIff (InfiniteCall source call name) := by
  unfold calledColor
  split
  next arguments function listed known =>
    refine (textOf_succeeds (legible.child? listed)).bind fun text read => ?_
    rw [infiniteCall_iff listed known read]
    split
    next first second third alpha cut =>
      split
      next color computed => exact (succeeds_pure _).congr (by simp [cut, computed])
      next computed => exact (escapesIff_fail rfl).congr (by simp [cut, computed])
      next error other computed =>
        refine (succeeds_pure _).congr ⟨False.elim, ?_⟩
        rintro ⟨_, _, _, _, cut', infinite⟩
        cases cut.symm.trans cut'
        exact other (Except.error.inj (computed.symm.trans infinite))
    next other =>
      refine (succeeds_pure _).congr ⟨False.elim, ?_⟩
      rintro ⟨first, second, third, alpha, cut, _⟩
      exact other first second third alpha cut
  next other =>
    refine (succeeds_pure _).congr ⟨False.elim, ?_⟩
    rintro ⟨listed, counted, _, _, _⟩
    rcases Rgba.functions_lookup_cases name with ⟨_, none⟩ | ⟨function, _, known, _, _⟩
    · cases counted.symm.trans none
    · exact other _ function listed known

theorem callColor_escapesIff {call : Node} (legible : Legible source call) :
    (callColor source call).EscapesIff
      (∃ name, (functionName source call).outcome = .ok name ∧ InfiniteCall source call name) := by
  refine (functionName_succeeds legible).bind fun name called => ?_
  refine (calledColor_escapesIff legible name).congr ⟨fun call => ⟨name, called, call⟩, ?_⟩
  rintro ⟨other, called', call⟩
  cases called.symm.trans called'
  exact call

theorem colorOf_lone_escapesIff {value : Node} (legible : Legible source value) :
    (colorOf source [value]).EscapesIff (BadValue source value) := by
  refine (textOf_succeeds legible).bind fun text read => ?_
  dsimp only
  split
  next kind =>
    refine (hexColor_escapesIff (Text.strip text)).congr ⟨fun pair => .negative kind read pair, ?_⟩
    rintro (⟨_, read', pair⟩ | ⟨kind', _, _⟩)
    · cases read.symm.trans read'
      exact pair
    · exact absurd (kind.symm.trans kind') (by decide)
  next notHex =>
    split
    next kind =>
      refine (callColor_escapesIff legible).congr
        ⟨fun ⟨name, called, call⟩ => .infinite kind called call, ?_⟩
      rintro (⟨kind', _, _⟩ | ⟨_, called, call⟩)
      · exact absurd kind' notHex
      · exact ⟨_, called, call⟩
    next notCall =>
      have good : False ↔ BadValue source value := by
        refine ⟨False.elim, ?_⟩
        rintro (⟨kind, _, _⟩ | ⟨kind, _, _⟩)
        · exact notHex kind
        · exact notCall kind
      refine EscapesIff.congr ?_ good
      split
      · split
        · exact succeeds_pure _
        · split <;> exact succeeds_pure _
      · exact succeeds_pure _

def BadValues (source : List UInt8) (values : List Node) : Prop :=
  ∃ value, values = [value] ∧ BadValue source value

theorem colorOf_escapesIff : ∀ {values : List Node}, (∀ value ∈ values, Legible source value) →
    (colorOf source values).EscapesIff (BadValues source values)
  | [value], legible =>
      (colorOf_lone_escapesIff (legible value List.mem_cons_self)).congr (by simp [BadValues])
  | [], _ => (succeeds_pure _).congr (by simp [BadValues])
  | _ :: _ :: _, _ => (succeeds_pure _).congr (by simp [BadValues])

theorem isReference_succeeds {value : Node} (legible : Legible source value) :
    (isReference source value).Succeeds := by
  unfold isReference
  split
  next node _ found =>
    exact (textOf_succeeds (legible.child? found)).bind fun _ _ => succeeds_pure _
  next => exact succeeds_pure _

theorem isReference_eq_true {value : Node}
    (reference : (isReference source value).outcome = .ok true) :
    value.kind = "call_expression" ∧ (functionName source value).outcome = .ok "var" := by
  unfold isReference at reference
  split at reference
  next node call found =>
    refine ⟨by simpa using call, ?_⟩
    rw [functionName, found]
    cases read : (textOf source node).outcome with
    | error failure =>
        rw [outcome_bind_error read] at reference
        cases reference
    | ok text =>
        rw [outcome_bind_ok read] at reference
        have var : Text.lower text = "var" := by simpa using Except.ok.inj reference
        rw [← var]
        exact outcome_bind_ok read
  next => cases reference

theorem not_badValue_of_isReference {value : Node}
    (reference : (isReference source value).outcome = .ok true) : ¬ BadValue source value := by
  obtain ⟨call, var⟩ := isReference_eq_true reference
  rintro (⟨kind, _, _⟩ | ⟨_, called, ⟨_, known, _, _, _⟩⟩)
  · exact absurd (kind.symm.trans call) (by decide)
  · cases var.symm.trans called
    have unknown : Rgba.roundedNumbers.lookup "var" = none := rfl
    cases unknown.symm.trans known

theorem referenceOf_succeeds {call : Node} (legible : Legible source call) :
    (referenceOf source call).Succeeds := by
  unfold referenceOf
  split
  next first rest found =>
    obtain ⟨arguments, listed, children⟩ := Option.map_eq_some_iff.1 found
    have member : first ∈ arguments.children :=
      List.mem_of_mem_filter (children ▸ List.mem_cons_self : first ∈ arguments.namedChildren)
    exact (textOf_succeeds ((legible.child? listed).child member)).bind fun _ _ => succeeds_pure _
  next => exact succeeds_pure _

theorem ruleColor_escapesIff {values : List Node}
    (legible : ∀ value ∈ values, Legible source value) :
    (ruleColor source values).EscapesIff (BadValues source values) :=
  (colorOf_escapesIff legible).andThen fun _ => succeeds_pure _

theorem ruleOf_escapesIff : ∀ {values : List Node}, (∀ value ∈ values, Legible source value) →
    (ruleOf source values).EscapesIff (BadValues source values)
  | [value], legible => by
      have legible' := legible value List.mem_cons_self
      refine (isReference_succeeds legible').bind fun answer reference => ?_
      cases answer with
      | true =>
          refine (referenceOf_succeeds legible').congr ⟨False.elim, ?_⟩
          rintro ⟨_, lone, bad⟩
          cases lone
          exact not_badValue_of_isReference reference bad
      | false => exact ruleColor_escapesIff legible
  | [], legible => ruleColor_escapesIff legible
  | _ :: _ :: _, legible => ruleColor_escapesIff legible

/-! Declarations, and the blocks they stand in. -/

/-- A declaration whose one value ends the walk. -/
structure BadDeclaration (source : List UInt8) (item : Node) : Prop where
  kind : item.kind = "declaration"
  values : BadValues source (valuesOf item)

theorem Legible.valuesOf {item : Node} (legible : Legible source item) :
    ∀ value ∈ valuesOf item, Legible source value :=
  legible.filter _

theorem rootItem_escapesIff (colors : Colors) {item : Node} (legible : Legible source item) :
    (rootItem source colors item).EscapesIff (BadDeclaration source item) := by
  unfold rootItem
  split
  next other =>
    exact EscapesIff.congr (skip_then legible _ _) ⟨False.elim, fun bad => other bad.kind⟩
  next kind =>
    rw [Classical.not_not] at kind
    refine (nameOf_succeeds legible).bind fun name _ => ?_
    refine ((colorOf_escapesIff legible.valuesOf).andThen fun read => ?_).congr
      ⟨fun values => ⟨kind, values⟩, fun bad => bad.values⟩
    cases read with
    | ok color => exact succeeds_pure _
    | error refusal => exact skip_then legible _ _

theorem rootItems_escapesIff {items : List Node} (legible : ∀ item ∈ items, Legible source item) :
    ∀ colors, (rootItems source colors items).EscapesIff
      (∃ item ∈ items, BadDeclaration source item) := by
  induction items with
  | nil => exact fun colors => EscapesIff.congr (succeeds_pure colors) (by simp)
  | cons item rest ih =>
      intro colors
      refine ((rootItem_escapesIff colors (legible item List.mem_cons_self)).bind fun next _ =>
        ih (fun other member => legible other (List.mem_cons_of_mem item member)) next).congr ?_
      simp

theorem ruleDeclaration_escapesIff (rules : Rules) {item : Node} (legible : Legible source item) :
    (ruleDeclaration source rules item).EscapesIff (BadValues source (valuesOf item)) := by
  refine (nameOf_succeeds legible).bind fun name _ => ?_
  refine (ruleOf_escapesIff legible.valuesOf).andThen fun read => ?_
  cases read with
  | ok rule => exact succeeds_pure _
  | error refusal => exact skip_then legible _ _

def IsWord (name : String) : Prop := name ≠ "" ∧ ' ' ∉ name.toList

theorem isWord_iff {name : String} : isWord name = true ↔ IsWord name := by
  simp [isWord, IsWord]

/-- The declarations that are read for the rules of a block: its own, and those of the blocks of
the rules that nest in it. -/
inductive ReadIn (source : List UInt8) : (block declaration : Node) → Prop
  | own {block declaration : Node} (member : declaration ∈ block.children)
      (item : isItem declaration = true) (kind : declaration.kind = "declaration") :
      ReadIn source block declaration
  | nested {block rule inner declaration : Node} {name : String} (member : rule ∈ block.children)
      (item : isItem rule = true) (kind : rule.kind = "at_rule")
      (keyword : (keywordOf source rule).outcome = .ok "nest")
      (prelude : (preludeOf source rule).outcome = .ok name)
      (word : IsWord name)
      (body : rule.child? "block" = some inner) (below : ReadIn source inner declaration) :
      ReadIn source block declaration

def SpoilsRules (source : List UInt8) (block : Node) : Prop :=
  ∃ declaration, ReadIn source block declaration ∧ BadDeclaration source declaration

inductive SpoilsItem (source : List UInt8) (item : Node) : Prop
  | declaration (bad : BadDeclaration source item)
  | nested {inner : Node} {name : String} (kind : item.kind = "at_rule")
      (keyword : (keywordOf source item).outcome = .ok "nest")
      (prelude : (preludeOf source item).outcome = .ok name)
      (word : IsWord name)
      (body : item.child? "block" = some inner) (below : SpoilsRules source inner)

theorem spoilsRules_iff (block : Node) :
    SpoilsRules source block ↔
      ∃ item ∈ block.children, isItem item = true ∧ SpoilsItem source item := by
  constructor
  · rintro ⟨declaration, read, bad⟩
    cases read with
    | own member item kind => exact ⟨declaration, member, item, .declaration bad⟩
    | nested member item kind keyword prelude word body below =>
        exact ⟨_, member, item, .nested kind keyword prelude word body ⟨declaration, below, bad⟩⟩
  · rintro ⟨item, member, isItem, spoils⟩
    cases spoils with
    | declaration bad => exact ⟨item, .own member isItem bad.kind, bad⟩
    | nested kind keyword prelude word body below =>
        obtain ⟨declaration, read, bad⟩ := below
        exact ⟨declaration, .nested member isItem kind keyword prelude word body read, bad⟩

theorem spoilsItem_nest_iff (item : Node) {name : String} (kind : item.kind = "at_rule")
    (keyword : (keywordOf source item).outcome = .ok "nest")
    (prelude : (preludeOf source item).outcome = .ok name) :
    SpoilsItem source item ↔ IsWord name ∧
      ∃ inner, item.child? "block" = some inner ∧ SpoilsRules source inner := by
  constructor
  · rintro (bad | ⟨_, _, prelude', word, body, below⟩)
    · exact absurd (kind.symm.trans bad.kind) (by decide)
    · cases prelude.symm.trans prelude'
      exact ⟨word, _, body, below⟩
  · rintro ⟨word, inner, body, below⟩
    exact .nested kind keyword prelude word body below

theorem ruleItem_escapesIff (rules : Rules) {item : Node} (legible : Legible source item)
    (inner : ∀ block, item.child? "block" = some block →
      (rulesOf source block).EscapesIff (SpoilsRules source block)) :
    (ruleItem source rules item).EscapesIff (SpoilsItem source item) := by
  obtain ⟨label, children⟩ := item
  rw [ruleItem, blockRules_eq source label]
  split
  next kind =>
    refine (ruleDeclaration_escapesIff rules legible).congr
      ⟨fun values => .declaration ⟨kind, values⟩, ?_⟩
    rintro (bad | ⟨other, _, _, _, _, _⟩)
    · exact bad.values
    · exact absurd (kind.symm.trans other) (by decide)
  next notDeclaration =>
    split
    next kind =>
      refine (keywordOf_succeeds legible).bind fun keyword read => ?_
      split
      next other =>
        refine EscapesIff.congr (skip_then legible _ _) ⟨False.elim, ?_⟩
        rintro (bad | ⟨_, nest, _, _, _, _⟩)
        · exact notDeclaration bad.kind
        · exact other (Except.ok.inj (read.symm.trans nest))
      next nest =>
        rw [Classical.not_not] at nest
        subst nest
        refine (preludeOf_succeeds legible).bind fun name prelude => ?_
        rw [spoilsItem_nest_iff (.mk label children) kind read prelude]
        cases found : (Node.mk label children).child? "block" with
        | none => exact EscapesIff.congr (skip_then legible _ _) (by simp)
        | some block =>
            rw [← isWord_iff]
            cases isWord name with
            | false => exact EscapesIff.congr (skip_then legible _ _) (by simp)
            | true =>
                exact ((inner block found).andThen fun _ => succeeds_pure _).congr (by simp)
    next notRule =>
      refine EscapesIff.congr (skip_then legible _ _) ⟨False.elim, ?_⟩
      rintro (bad | ⟨kind, _, _, _, _, _⟩)
      · exact notDeclaration bad.kind
      · exact notRule kind

theorem ruleItems_escapesIff (items : List Node) (legible : ∀ item ∈ items, Legible source item)
    (inner : ∀ item ∈ items, ∀ block, item.child? "block" = some block →
      (rulesOf source block).EscapesIff (SpoilsRules source block)) (rules : Rules) :
    (ruleItems source rules items).EscapesIff
      (∃ item ∈ items, isItem item = true ∧ SpoilsItem source item) := by
  induction items generalizing rules with
  | nil =>
      rw [ruleItems]
      exact EscapesIff.congr (succeeds_pure rules) (by simp)
  | cons item rest ih =>
      have behind := ih (fun other member => legible other (List.mem_cons_of_mem item member))
        fun other member => inner other (List.mem_cons_of_mem item member)
      rw [ruleItems]
      split
      next looked =>
        have first := ruleItem_escapesIff rules (legible item List.mem_cons_self)
          (inner item List.mem_cons_self)
        exact (first.bind fun next _ => behind next).congr (by simp [looked])
      next passed =>
        refine (Succeeds.bind (succeeds_pure rules) fun next _ => behind next).congr ?_
        simp [passed]

theorem rulesOf_escapesIff (block : Node) : Legible source block →
    (rulesOf source block).EscapesIff (SpoilsRules source block) := by
  induction block using Node.block_induction with
  | step block ih =>
      intro legible
      obtain ⟨label, children⟩ := block
      have inner : ∀ item ∈ children, ∀ block, item.child? "block" = some block →
          (rulesOf source block).EscapesIff (SpoilsRules source block) := by
        intro item member block found
        exact ih item member block found
          ((legible.child member).child (List.mem_of_find?_eq_some found))
      rw [rulesOf]
      refine (ruleItems_escapesIff children (fun item member => legible.child member) inner
        []).congr ?_
      exact (spoilsRules_iff (.mk label children)).symm

end Palette.Theme
