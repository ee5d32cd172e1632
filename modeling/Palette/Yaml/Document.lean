import Palette.Yaml.Token

/-!
A YAML document as a graph of nodes. An alias is the number of the node it stands for, so a node may
be reached in several ways and even from inside itself.

Of several errors the one that is met first counts. What stops the tokens is met only when the token
behind the last is wanted, so the readers ask for no token before they need it.
-/

namespace Palette.Yaml

abbrev NodeId := Nat

inductive Node where
  /-- A scalar; `plain` says whether its text decides what it denotes. -/
  | scalar (tag : Option String) (plain : Bool) (text : String)
  | sequence (tag : Option String) (items : List NodeId)
  | mapping (tag : Option String) (entries : List (NodeId × NodeId))

def Node.emptyScalar : Node := .scalar none true ""

structure Document where
  nodes : Array Node
  root : NodeId

def Document.node (d : Document) (id : NodeId) : Node := d.nodes.getD id .emptyScalar

structure Reading where
  tokens : List Token
  /-- What stands in the way of the tokens behind these. -/
  obstacle : Option Error := none
  nodes : Array Node := #[]
  anchors : List (String × NodeId) := []
  handles : List (String × String) := []

namespace Reading

def fail {α : Type} : Except Error α := .error (.unreadable .document)

def peek (r : Reading) : Except Error Token :=
  match r.tokens, r.obstacle with
  | token :: _, _ => .ok token
  | [], some error => .error error
  | [], none => .ok .streamEnd

def tail (r : Reading) : Reading := { r with tokens := r.tokens.drop 1 }

def add (r : Reading) (node : Node) : NodeId × Reading :=
  (r.nodes.size, { r with nodes := r.nodes.push node })

def set (r : Reading) (id : NodeId) (node : Node) : Reading :=
  { r with nodes := r.nodes.setIfInBounds id node }

structure Properties where
  anchor : Option String := none
  tag : Option (Option String × String) := none

def properties (r : Reading) : Except Error (Properties × Reading) := do
  match ← r.peek with
  | .anchor name =>
      match ← r.tail.peek with
      | .tag handle suffix => return (⟨some name, some (handle, suffix)⟩, r.tail.tail)
      | _ => return (⟨some name, none⟩, r.tail)
  | .tag handle suffix =>
      match ← r.tail.peek with
      | .anchor name => return (⟨some name, some (handle, suffix)⟩, r.tail.tail)
      | _ => return (⟨none, some (handle, suffix)⟩, r.tail)
  | _ => return (⟨none, none⟩, r)

def defaultHandles : List (String × String) := [("!", "!"), ("!!", "tag:yaml.org,2002:")]

def expandTag (r : Reading) : Option String × String → Except Error String
  | (none, suffix) => .ok suffix
  | (some handle, suffix) =>
      match (r.handles ++ defaultHandles).lookup handle with
      | some expansion => .ok (expansion ++ suffix)
      | none => fail

def addNamed (r : Reading) (anchor : Option String) (node : Node) :
    Except Error (NodeId × Reading) :=
  let (id, added) := r.add node
  match anchor with
  | none => .ok (id, added)
  | some name =>
      if (r.anchors.lookup name).isSome then .error (.unreadable .reference)
      else .ok (id, { added with anchors := (name, id) :: r.anchors })

/-- Where a node stands, which decides what it may be. -/
inductive Place where
  | flow
  | block
  /-- In a block mapping, where a sequence needs no indentation of its own. -/
  | member

def isOneOf (r : Reading) (choices : List Token) : Except Error Bool :=
  choices.contains <$> r.peek

def addEmpty (r : Reading) : NodeId × Reading := r.add .emptyScalar

/-- The token that decides what comes next in a flow collection: behind the first member a comma is
taken off, unless the collection ends there. -/
def flowNext (r : Reading) (first : Bool) (stop : Token) : Except Error (Token × Reading) := do
  let token ← r.peek
  if first || token = stop then return (token, r)
  else if token = .flowEntry then return (← r.tail.peek, r.tail)
  else fail

mutual

/-- One node with its content. Every round takes a token, or ends the collection it is in. -/
def node : Nat → Place → Reading → Except Error (NodeId × Reading)
  | 0, _, _ => fail
  | fuel + 1, place, r => do
      match ← r.peek with
      | .alias name =>
          match r.anchors.lookup name with
          | some id => return (id, r.tail)
          | none => .error (.unreadable .reference)
      | _ =>
          let (given, r) ← r.properties
          let named ← given.tag.mapM r.expandTag
          let tag := if named = some "!" then none else named
          match ← r.peek, place with
          | .blockEntry, .member => do
              let (id, r) ← r.addNamed given.anchor (.sequence tag [])
              let (items, r) ← indentless fuel r
              return (id, r.set id (.sequence tag items))
          | .scalar text plain, _ =>
              let implicit := named = some "!" || (plain && named.isNone)
              r.tail.addNamed given.anchor (.scalar tag implicit text)
          | .flowSequenceStart, _ => do
              let (id, r) ← r.tail.addNamed given.anchor (.sequence tag [])
              let (items, r) ← flowItems fuel true r
              return (id, r.set id (.sequence tag items))
          | .flowMappingStart, _ => do
              let (id, r) ← r.tail.addNamed given.anchor (.mapping tag [])
              let (entries, r) ← flowEntries fuel true r
              return (id, r.set id (.mapping tag entries))
          | .blockSequenceStart, .block | .blockSequenceStart, .member => do
              let (id, r) ← r.tail.addNamed given.anchor (.sequence tag [])
              let (items, r) ← blockItems fuel r
              return (id, r.set id (.sequence tag items))
          | .blockMappingStart, .block | .blockMappingStart, .member => do
              let (id, r) ← r.tail.addNamed given.anchor (.mapping tag [])
              let (entries, r) ← blockEntries fuel r
              return (id, r.set id (.mapping tag entries))
          | _, _ =>
              if given.anchor.isSome || named.isSome then
                r.addNamed given.anchor (.scalar tag tag.isNone "")
              else fail

def nodeUnless : Nat → Place → List Token → Reading → Except Error (NodeId × Reading)
  | 0, _, _, _ => fail
  | fuel + 1, place, ends, r => do
      if ← r.isOneOf ends then return r.addEmpty else node fuel place r

def blockItems : Nat → Reading → Except Error (List NodeId × Reading)
  | 0, _ => fail
  | fuel + 1, r => do
      match ← r.peek with
      | .blockEntry =>
          let (item, r) ← nodeUnless fuel .block [.blockEntry, .blockEnd] r.tail
          let (items, r) ← blockItems fuel r
          return (item :: items, r)
      | .blockEnd => return ([], r.tail)
      | _ => fail

def indentless : Nat → Reading → Except Error (List NodeId × Reading)
  | 0, _ => fail
  | fuel + 1, r => do
      match ← r.peek with
      | .blockEntry =>
          let (item, r) ← nodeUnless fuel .block [.blockEntry, .key, .value, .blockEnd] r.tail
          let (items, r) ← indentless fuel r
          return (item :: items, r)
      | _ => return ([], r)

def valueUnless : Nat → Place → List Token → Reading → Except Error (NodeId × Reading)
  | 0, _, _, _ => fail
  | fuel + 1, place, ends, r => do
      match ← r.peek with
      | .value => nodeUnless fuel place ends r.tail
      | _ => return r.addEmpty

def blockEntries : Nat → Reading → Except Error (List (NodeId × NodeId) × Reading)
  | 0, _ => fail
  | fuel + 1, r => do
      match ← r.peek with
      | .key =>
          let (key, r) ← nodeUnless fuel .member [.key, .value, .blockEnd] r.tail
          let (value, r) ← valueUnless fuel .member [.key, .value, .blockEnd] r
          let (entries, r) ← blockEntries fuel r
          return ((key, value) :: entries, r)
      | .blockEnd => return ([], r.tail)
      | _ => fail

/-- The items of a flow sequence. An item that is a key with a value is a mapping of its own. -/
def flowItems : Nat → (first : Bool) → Reading → Except Error (List NodeId × Reading)
  | 0, _, _ => fail
  | fuel + 1, first, r => do
      match ← r.flowNext first .flowSequenceEnd with
      | (.flowSequenceEnd, r) => return ([], r.tail)
      | (.key, r) =>
          let (id, r) := r.add (.mapping none [])
          let (key, r) ← nodeUnless fuel .flow [.value, .flowEntry, .flowSequenceEnd] r.tail
          let (value, r) ← valueUnless fuel .flow [.flowEntry, .flowSequenceEnd] r
          let (items, r) ← flowItems fuel false (r.set id (.mapping none [(key, value)]))
          return (id :: items, r)
      | (_, r) =>
          let (item, r) ← node fuel .flow r
          let (items, r) ← flowItems fuel false r
          return (item :: items, r)

/-- The entries of a flow mapping. An entry without a key mark is a key alone. -/
def flowEntries : Nat → (first : Bool) → Reading → Except Error (List (NodeId × NodeId) × Reading)
  | 0, _, _ => fail
  | fuel + 1, first, r => do
      match ← r.flowNext first .flowMappingEnd with
      | (.flowMappingEnd, r) => return ([], r.tail)
      | (.key, r) =>
          let (key, r) ← nodeUnless fuel .flow [.value, .flowEntry, .flowMappingEnd] r.tail
          let (value, r) ← valueUnless fuel .flow [.flowEntry, .flowMappingEnd] r
          let (entries, r) ← flowEntries fuel false r
          return ((key, value) :: entries, r)
      | (_, r) =>
          let (key, r) ← node fuel .flow r
          let (value, r) := r.addEmpty
          let (entries, r) ← flowEntries fuel false r
          return ((key, value) :: entries, r)

end

/-- The directives in front of a document: one version at most, and each tag handle once. -/
def directives : Nat → (versioned : Bool) → Reading → Except Error Reading
  | 0, _, _ => fail
  | fuel + 1, versioned, r => do
      match ← r.peek with
      | .version major =>
          if versioned || major ≠ 1 then fail else directives fuel true r.tail
      | .tagHandle handle expansion =>
          if (r.handles.lookup handle).isSome then fail
          else
            directives fuel versioned { r.tail with handles := (handle, expansion) :: r.handles }
      | .otherDirective => directives fuel versioned r.tail
      | _ => return r

def isDirective : Token → Bool
  | .version _ | .tagHandle _ _ | .otherDirective => true
  | _ => false

def documentStart (fuel : Nat) (r : Reading) : Except Error Reading := do
  let r ← directives fuel false r
  if ← r.isOneOf [.documentStart] then return r.tail else fail

def content (fuel : Nat) (r : Reading) : Except Error (NodeId × Reading) := do
  let token ← r.peek
  if isDirective token || [.documentStart, .documentEnd, .streamEnd].contains token then
    return r.addEmpty
  else node fuel .block r

def streamEnd : Nat → Reading → Except Error Unit
  | 0, _ => fail
  | fuel + 1, r => do
      match ← r.peek with
      | .documentEnd => streamEnd fuel r.tail
      | .streamEnd => return ()
      | _ =>
          let _ ← documentStart fuel { r with handles := [] }
          fail

def document (r : Reading) : Except Error (Option Document) := do
  let fuel := 4 * r.tokens.length + 4
  let token ← r.peek
  if token = .streamEnd then return none
  else
    let (root, r) ←
      if isDirective token || token = .documentStart then
        documentStart fuel r >>= content fuel
      else node fuel .block r
    streamEnd fuel r
    return some ⟨r.nodes, root⟩

end Reading

def Document.ofText (text : String) : Except Error (Option Document) :=
  let (tokens, obstacle) := tokens text
  Reading.document { tokens, obstacle }

end Palette.Yaml
