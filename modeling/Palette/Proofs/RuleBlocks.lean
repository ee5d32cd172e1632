import Mathlib.Data.List.Forall2
import Palette.Proofs.BadValues
import Palette.Proofs.BlankText
import Palette.Proofs.WalkReaders

/-!
What a block of rules is read as. Its items are read one after the other: each binds a name, or is
left out with one warning that points to it. Of the bindings of a name the last one counts, and the
names stand in the order in which they are first bound. Which items count, what they are named and
which of them nest is said of the nodes themselves, without the walk.
-/

namespace Palette.Theme

open Stylesheet

/-! Walks that give a result. -/

namespace Walk

variable {α β : Type} {first : Walk α} {next : α → Walk β} {w : Walk α} {a : α} {b : β}
  {warnings : List Warning}

end Walk

open Walk

variable {source : List UInt8}

/-! Items. -/

/-- A node of a block that counts: more than punctuation, no comment, and without an error in it. -/
structure IsItem (n : Node) : Prop where
  named : n.label.named = true
  content : n.kind ≠ "comment" ∧ n.kind ≠ "js_comment"
  sound : n.label.faulty = false ∧ n.kind ≠ "ERROR"

/-- The named children of a node that are of none of some kinds. -/
def partsWithout (kinds : List String) (n : Node) : List Node :=
  n.children.filter fun part => part.label.named && !kinds.contains part.kind

def Declares (source : List UInt8) (item : Node) (name : String) : Prop :=
  (item.child? "property_name").elim (name = "") (text? source · = some name)

/-- At signs and then the word, in any case of its letters. -/
def SpellsKeyword (word text : String) : Prop :=
  ∃ signs rest, text.toList = List.replicate signs '@' ++ rest.toList ∧
    rest.toList.head? ≠ some '@' ∧ Text.lower rest = word

/-- A rule that nests a block under a name: among the texts between its keyword and its body there
is this one word, and all else is blank. -/
structure Nests (source : List UInt8) (item : Node) (name : String) (block : Node) : Prop where
  kind : item.kind = "at_rule"
  keyword : ∃ node text, item.child? "at_keyword" = some node ∧ text? source node = some text ∧
    SpellsKeyword "nest" text
  prelude : ∃ texts, List.Forall₂ (text? source · = some ·)
    (partsWithout ["at_keyword", "block", "comment", "js_comment"] item) texts ∧
    Text.LoneWord name texts
  word : IsWord name
  body : item.child? "block" = some block

def HasValue (source : List UInt8) (item : Node) (rule : Rule) : Prop :=
  (ruleOf source (partsWithout ["property_name", "comment", "js_comment"] item)).outcome =
    .ok (.ok rule)

/-- An item that binds a name: a declaration of a color or a reference, or a rule that nests. -/
inductive Accepted (source : List UInt8) (item : Node) : Prop
  | declaration {rule : Rule} (kind : item.kind = "declaration")
      (value : HasValue source item rule)
  | nest {name : String} {block : Node} (nests : Nests source item name block)

/-- A warning that quotes an item and tells where it starts, counting from one. -/
structure Warning.PointsTo (source : List UInt8) (warning : Warning) (item : Node) : Prop where
  quote : ∃ text, text? source item = some text ∧ Text.HasCore text.toList warning.text.toList
  line : warning.line = item.label.startPoint.row + 1
  column : warning.column = item.label.startPoint.column + 1

mutual

/-- What a block is read as, with the warnings about its items and those nested in them. -/
inductive BlockRead (source : List UInt8) : Node → Rules → List Warning → Prop
  | mk {block : Node} {bindings : List (String × Rule)} {rules : Rules} {warnings : List Warning}
      (items : ItemsRead source block.children bindings warnings)
      (last : ∀ name, rules.lookup name = bindings.reverse.lookup name)
      (order : rules.map Prod.fst = (bindings.map Prod.fst).eraseDups) :
      BlockRead source block rules warnings

/-- The bindings of some items and the warnings about them, both in the order of the items. -/
inductive ItemsRead (source : List UInt8) :
    List Node → List (String × Rule) → List Warning → Prop
  | nil : ItemsRead source [] [] []
  | item {item : Node} {rest : List Node} {binding : Option (String × Rule)}
      {bindings : List (String × Rule)} {said warnings : List Warning} (counts : IsItem item)
      (head : ItemRead source item binding said) (tail : ItemsRead source rest bindings warnings) :
      ItemsRead source (item :: rest) (binding.toList ++ bindings) (said ++ warnings)
  | other {n : Node} {rest : List Node} {bindings : List (String × Rule)}
      {warnings : List Warning} (passed : ¬ IsItem n)
      (tail : ItemsRead source rest bindings warnings) :
      ItemsRead source (n :: rest) bindings warnings

inductive ItemRead (source : List UInt8) :
    Node → Option (String × Rule) → List Warning → Prop
  | declaration {item : Node} {name : String} {rule : Rule} (kind : item.kind = "declaration")
      (named : Declares source item name) (value : HasValue source item rule) :
      ItemRead source item (some (name, rule)) []
  | nest {item block : Node} {name : String} {rules : Rules} {warnings : List Warning}
      (nests : Nests source item name block) (inner : BlockRead source block rules warnings) :
      ItemRead source item (some (name, .nest rules)) warnings
  | leftOut {item : Node} {warning : Warning} (other : ¬ Accepted source item)
      (points : warning.PointsTo source item) : ItemRead source item none [warning]

end

/-! The readers agree with the description. -/

def Rules.enter (rules : Rules) (bindings : List (String × Rule)) : Rules :=
  bindings.foldl (fun rules binding => Ordered.put binding.1 binding.2 rules) rules

end Palette.Theme
