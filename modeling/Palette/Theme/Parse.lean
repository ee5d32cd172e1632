import Palette.Stylesheet.Reader
import Palette.Theme.Value

/-!
From style sheets to themes. A style sheet has one block about the theme, at most one block of root
colors, and a block of rules for each top-level name; rules nest under `@nest`.
-/

namespace Palette.Theme

open Stylesheet

/-- Whether an item of a block is looked at: comments are not, nor what has errors in it. -/
def isItem (n : Node) : Bool := n.label.named && !n.isComment && !n.label.faulty && !n.isError

def keywordOf (source : List UInt8) (n : Node) : Walk String :=
  match n.child? "at_keyword" with
  | some keyword => do
      let text ← textOf source keyword
      return Text.lower (String.ofList (text.toList.dropWhile (· = '@')))
  | none => pure ""

def isPreludePart (n : Node) : Bool :=
  n.label.named && n.kind ≠ "at_keyword" && n.kind ≠ "block" && !n.isComment

def preludeParts (source : List UInt8) : List Node → Walk (List String)
  | [] => pure []
  | n :: rest => do
      let text ← textOf source n
      return text :: (← preludeParts source rest)

def preludeOf (source : List UInt8) (n : Node) : Walk String := do
  let parts ← preludeParts source (n.children.filter isPreludePart)
  return Text.strip (" ".intercalate parts)

def nameOf (source : List UInt8) (declaration : Node) : Walk String :=
  match declaration.child? "property_name" with
  | some name => textOf source name
  | none => pure ""

def valuesOf (declaration : Node) : List Node :=
  declaration.children.filter fun n => n.label.named && n.kind ≠ "property_name" && !n.isComment

/-! The block about the theme. -/

def aboutKeys : List String := ["author", "icon-set"]

def aboutItem (source : List UInt8) (found : List (String × String)) (item : Node) :
    Walk (List (String × String)) := do
  if item.kind ≠ "declaration" then
    skip source item (.unexpected item.kind)
    return found
  let name ← nameOf source item
  let key := Text.lower name
  if !aboutKeys.contains key then
    skip source item (.unexpected name)
    return found
  match valuesOf item with
  | [value] =>
      if value.kind = "string_value" then
        return Ordered.put key (unquote (← textOf source value)) found
      else
        skip source item .notString
        return found
  | _ =>
      skip source item .notString
      return found

def aboutItems (source : List UInt8) :
    List (String × String) → List Node → Walk (List (String × String))
  | found, [] => pure found
  | found, item :: rest => do
      let next ← aboutItem source found item
      aboutItems source next rest

def aboutOf (source : List UInt8) (n block : Node) : Walk About := do
  let found ← aboutItems source [] (block.children.filter isItem)
  match found.lookup "author", found.lookup "icon-set" with
  | some author, some iconSet => return ⟨author, iconSet⟩
  | none, _ => failAt (.incompleteAbout "author") n.label.startPoint
  | some _, none => failAt (.incompleteAbout "icon-set") n.label.startPoint

/-! Root colors. -/

def rootItem (source : List UInt8) (colors : Colors) (item : Node) : Walk Colors := do
  if item.kind ≠ "declaration" then
    skip source item (.unexpected item.kind)
    return colors
  let name ← nameOf source item
  match ← colorOf source (valuesOf item) with
  | .ok color => return Ordered.put name color colors
  | .error refusal =>
      skip source item (.refused refusal)
      return colors

def rootItems (source : List UInt8) : Colors → List Node → Walk Colors
  | colors, [] => pure colors
  | colors, item :: rest => do
      let next ← rootItem source colors item
      rootItems source next rest

def rootOf (source : List UInt8) (block : Node) : Walk Colors :=
  rootItems source [] (block.children.filter isItem)

/-! Rules. -/

def ruleDeclaration (source : List UInt8) (rules : Rules) (item : Node) : Walk Rules := do
  let name ← nameOf source item
  match ← ruleOf source (valuesOf item) with
  | .ok rule => return Ordered.put name rule rules
  | .error refusal =>
      skip source item (.refused refusal)
      return rules

def isWord (name : String) : Bool := name ≠ "" && !name.toList.contains ' '

mutual

def rulesOf (source : List UInt8) : Node → Walk Rules
  | .mk _ children => ruleItems source [] children

def ruleItems (source : List UInt8) (rules : Rules) : List Node → Walk Rules
  | [] => pure rules
  | item :: rest => do
      let next ← if isItem item then ruleItem source rules item else pure rules
      ruleItems source next rest

def ruleItem (source : List UInt8) (rules : Rules) : Node → Walk Rules
  | .mk label children => do
      let item := Node.mk label children
      if label.kind = "declaration" then ruleDeclaration source rules item
      else if label.kind = "at_rule" then
        let keyword ← keywordOf source item
        if keyword ≠ "nest" then
          skip source item (.unknownAtRule keyword)
          return rules
        let name ← preludeOf source item
        match blockRules source children with
        | some inner =>
            if isWord name then return Ordered.put name (.nest (← inner)) rules
            else
              skip source item .badAtRuleBody
              return rules
        | none =>
            skip source item .badAtRuleBody
            return rules
      else
        skip source item (.unexpected label.kind)
        return rules

def blockRules (source : List UInt8) : List Node → Option (Walk Rules)
  | [] => none
  | n :: rest => if n.kind = "block" then some (rulesOf source n) else blockRules source rest

end

theorem blockRules_eq (source : List UInt8) (label : Label) (children : List Node) :
    blockRules source children =
      ((Node.mk label children).child? "block").map (rulesOf source) := by
  change _ = (children.find? (·.kind = "block")).map (rulesOf source)
  induction children with
  | nil => rw [blockRules, List.find?_nil, Option.map_none]
  | cons child rest ih =>
      rw [blockRules, List.find?_cons]
      by_cases kind : child.kind = "block"
      · simp [kind]
      · simp [kind, ih]

/-! The whole style sheet. -/

structure Draft where
  about : Option About := none
  colors : Option Colors := none
  rules : Rules := []

def aboutRule (source : List UInt8) (draft : Draft) (n : Node) : Walk Draft := do
  let keyword ← keywordOf source n
  if keyword ≠ "chatterino" then
    skip source n (.unknownAtRule keyword)
    return draft
  match n.child? "block" with
  | none =>
      skip source n .badAtRuleBody
      return draft
  | some block =>
      let about ← aboutOf source n block
      if draft.about.isSome then failAt .duplicateAbout n.label.startPoint
      else return { draft with about := some about }

def ruleSet (source : List UInt8) (draft : Draft) (n : Node) : Walk Draft := do
  match n.child? "selectors", n.child? "block" with
  | some selectors, some block =>
      let selector := Text.strip (← textOf source selectors)
      if Text.lower selector = ":root" then
        let colors ← rootOf source block
        if draft.colors.isSome then failAt .duplicateRoot n.label.startPoint
        else return { draft with colors := some colors }
      else
        match selectors.namedChildren with
        | [tag] =>
            if tag.kind = "tag_name" then
              let name ← textOf source tag
              let rules ← rulesOf source block
              if (draft.rules.lookup name).isSome then
                failAt (.duplicateBlock name) n.label.startPoint
              else return { draft with rules := Ordered.put name (.nest rules) draft.rules }
            else
              skip source n (.notIdentifier selector)
              return draft
        | _ =>
            skip source n (.notIdentifier selector)
            return draft
  | _, _ =>
      skip source n .badRule
      return draft

def topItem (source : List UInt8) (draft : Draft) (n : Node) : Walk Draft := do
  if n.kind = "at_rule" then aboutRule source draft n
  else if n.kind = "rule_set" then ruleSet source draft n
  else
    skip source n (.unexpected n.kind)
    return draft

def topItems (source : List UInt8) : Draft → List Node → Walk Draft
  | draft, [] => pure draft
  | draft, n :: rest => do
      let next ← topItem source draft n
      topItems source next rest

def isTopItem (n : Node) : Bool := n.label.named && !n.isComment && !n.isError

def ofTree (source : List UInt8) (root : Node) : Walk Theme := do
  let draft ← topItems source {} (root.children.filter isTopItem)
  match draft.about with
  | some about => return { about, colors := draft.colors.getD [], rules := draft.rules }
  | none => failAt .noAbout root.label.stopPoint

end Palette.Theme
