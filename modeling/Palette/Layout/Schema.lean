import Palette.Decimal.Shortest
import Palette.Layout.Source
import Palette.Ordered
import Palette.Text.Utf8
import Palette.Yaml.Data

/-!
Which YAML documents are layout sources. All violations are collected, depth first: of a mapping
first the members it should have, then those it should not.

`fields` is either a mapping or a sequence; a set counts as the latter. What is neither violates
both, and the location of a violation says which of the two was tried. Bytes count as the text that
they encode.
-/

namespace Palette.Layout

open Yaml

inductive Step where
  | name (text : String)
  | index (value : Int)
  deriving DecidableEq, Repr

inductive Rule where
  /-- A struct, or the whole document, is no mapping. -/
  | structIsMapping
  | isMapping
  | isSequence
  | isText
  /-- Bytes encode no text. -/
  | isEncodedText
  | isPresent
  | isKnown
  | keyIsText
  /-- A struct contains itself. -/
  | isFinite
  deriving DecidableEq, Repr

def Rule.message : Rule → String
  | .structIsMapping | .isMapping => "should be a mapping"
  | .isSequence => "should be a sequence"
  | .isText => "should be text"
  | .isEncodedText => "should be encoded text"
  | .isPresent => "is missing"
  | .isKnown => "is unknown"
  | .keyIsText => "has a key that is no text"
  | .isFinite => "contains itself"

structure Violation where
  location : List Step
  rule : Rule
  deriving DecidableEq, Repr

def Step.text : Step → String
  | .name text => text
  | .index value => toString value

def Violation.message (v : Violation) : String :=
  ".".intercalate (v.location.map Step.text) ++ " " ++ v.rule.message

abbrev Checked (α : Type) := Except (List Violation) α

def violates {α : Type} (rule : Rule) : Checked α := .error [⟨[], rule⟩]

def under {α : Type} (steps : List Step) : Checked α → Checked α
  | .ok value => .ok value
  | .error violations => .error (violations.map fun v => { v with location := steps ++ v.location })

def both {α β : Type} (first : Checked α) (second : Checked β) : Checked (α × β) :=
  match first, second with
  | .ok a, .ok b => .ok (a, b)
  | .ok _, .error w => .error w
  | .error v, .ok _ => .error v
  | .error v, .error w => .error (v ++ w)

def all {α : Type} : List (Checked α) → Checked (List α)
  | [] => .ok []
  | first :: rest => (both first (all rest)).map fun pair => pair.1 :: pair.2

def either {α : Type} (first second : Checked α) : Checked α :=
  match first, second with
  | .ok a, _ => .ok a
  | .error _, .ok b => .ok b
  | .error v, .error w => .error (v ++ w)

/-- An integer as a name; one that is too long to be written has none. -/
def integerName (i : Int) : String :=
  if (toString i.natAbs).length > mostDigits then "<unprintable int object>" else toString i

/-- The step that a key makes. Truth values count as numbers. -/
def keyStep : Scalar → Step
  | .text s => .name s
  | .null => .name "None"
  | .bool b => .index (if b then 1 else 0)
  | .integer i =>
      if -0x8000000000000000 ≤ i ∧ i < 0x8000000000000000 then .index i else .name (integerName i)
  | .real x => .name (Decimal.text x)
  | .date day => .name day.text
  | .moment moment => .name moment.text
  | .bytes bytes => .name (Text.quotedBytes bytes)

def scalarText : Scalar → Checked String
  | .text s => .ok s
  | .bytes bytes =>
      match Text.decode? bytes with
      | some s => .ok s
      | none => violates .isEncodedText
  | _ => violates .isText

def textOf : Value → Checked String
  | .scalar value => scalarText value
  | _ => violates .isText

def keyText (key : Scalar) : Checked String := under [keyStep key, .name "[key]"] (scalarText key)

def textsOf (items : List Value) : Checked (List String) :=
  all (items.zipIdx.map fun item => under [.index item.2] (textOf item.1))

def member? (name : String) : List (Scalar × NodeId) → Option NodeId
  | [] => none
  | (.text s, id) :: rest => if s = name then some id else member? name rest
  | _ :: rest => member? name rest

def strangers (known : List String) (entries : List (Scalar × NodeId)) : Checked Unit :=
  (all (entries.map fun entry =>
    match entry.1 with
    | .text s => if known.contains s then .ok () else under [.name s] (violates .isKnown)
    | key => under [keyStep key] (violates .keyIsText))).map fun _ => ()

def membersOf : List (String × Option Struct) → Members
  | [] => .nil
  | (name, content) :: rest => .cons name content (membersOf rest)

def mappingOf {α : Type} (entries : List (Scalar × NodeId)) (content : NodeId → Checked α) :
    Checked (List (String × α)) :=
  (all (entries.map fun entry =>
    both (keyText entry.1) (under [keyStep entry.1] (content entry.2)))).map Ordered.ofList

def contentAt (d : Data) (struct : NodeId → Checked Struct) (id : NodeId) :
    Checked (Option Struct) :=
  match d.value id with
  | .scalar .null => .ok none
  | _ => (struct id).map some

def membersAt (d : Data) (struct : NodeId → Checked Struct) : Value → Checked Fields
  | .mapping entries =>
      (mappingOf entries (contentAt d struct)).map fun members => .members (membersOf members)
  | _ => violates .isMapping

def namesAt (d : Data) : Value → Checked Fields
  | .sequence items => (textsOf (items.map d.value)).map .names
  | .set members => (textsOf (members.map .scalar)).map .names
  | .pairs count => (textsOf (List.replicate count (.sequence []))).map .names
  | _ => violates .isSequence

def fieldsAt (d : Data) (struct : NodeId → Checked Struct) (id : NodeId) : Checked Fields :=
  match d.value id with
  | .scalar .null => .ok .absent
  | value =>
      either (under [.name "<dict>"] (membersAt d struct value))
        (under [.name "<list>"] (namesAt d value))

def refAt (d : Data) (id : NodeId) : Checked (Option String) :=
  match d.value id with
  | .scalar .null => .ok none
  | value => (textOf value).map some

def partAt {α : Type} (entries : List (Scalar × NodeId)) (name : String) (missing : Checked α)
    (content : NodeId → Checked α) : Checked α :=
  match member? name entries with
  | some id => under [.name name] (content id)
  | none => missing

/-- A struct; `enclosing` holds the structs around it. -/
def structAt (d : Data) : Nat → List NodeId → NodeId → Checked Struct
  | 0, _, _ => violates .isFinite
  | depth + 1, enclosing, id =>
      if enclosing.contains id then violates .isFinite
      else
        match d.value id with
        | .mapping entries =>
            let fields :=
              partAt entries "fields" (.ok .absent) (fieldsAt d (structAt d depth (id :: enclosing)))
            let ref := partAt entries "ref" (.ok none) (refAt d)
            (both fields (both ref (strangers ["fields", "ref"] entries))).map fun parts =>
              .mk parts.1 parts.2.1
        | _ => violates .structIsMapping

def structsAt (d : Data) (id : NodeId) : Checked (List (String × Struct)) :=
  match d.value id with
  | .mapping entries => mappingOf entries (structAt d (d.values.size + 1) [])
  | _ => violates .isMapping

def sourceOf (d : Data) (entries : List (Scalar × NodeId)) : Checked Source :=
  let definitions := partAt entries "definitions" (.ok []) (structsAt d)
  let layout := partAt entries "layout" (under [.name "layout"] (violates .isPresent)) (structsAt d)
  (both definitions (both layout (strangers ["definitions", "layout"] entries))).map fun parts =>
    ⟨parts.1, parts.2.1⟩

/-- The source that a document holds. An empty document is an empty mapping. -/
def Source.ofData : Option Data → Checked Source
  | none => sourceOf ⟨#[], 0⟩ []
  | some d =>
      match d.value d.root with
      | .scalar .null => sourceOf d []
      | .mapping entries => sourceOf d entries
      | _ => violates .structIsMapping

end Palette.Layout
