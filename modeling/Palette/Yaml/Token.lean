import Palette.Decimal.Read
import Palette.Text.Utf8
import Palette.Yaml.ScalarText

/-!
Tokens of a YAML text. Indentation shows in the tokens: a block collection starts with a token of
its own and ends with `blockEnd`.

A key may be recognised only at its colon. Every place at which one may start is therefore kept, one
for each level of flow brackets, with the number of the token found there; the key token is inserted
in front of that token once the colon comes. A key stays on one line and within 1024 characters.
-/

namespace Palette.Yaml

inductive Token where
  | version (major : Nat)
  | tagHandle (handle expansion : String)
  | otherDirective
  | documentStart
  | documentEnd
  | streamEnd
  | blockSequenceStart
  | blockMappingStart
  | blockEnd
  | flowSequenceStart
  | flowSequenceEnd
  | flowMappingStart
  | flowMappingEnd
  | blockEntry
  | flowEntry
  | key
  | value
  | alias (name : String)
  | anchor (name : String)
  | tag (handle : Option String) (suffix : String)
  | scalar (text : String) (plain : Bool)
  deriving DecidableEq, Repr

structure KeyStart where
  token : Nat
  /-- Whether nothing but a key may stand there. -/
  required : Bool
  index : Nat
  line : Nat
  column : Nat

/-- A scan under way. Tokens are kept latest first. -/
structure Scan where
  cursor : Cursor
  flow : Nat := 0
  indent : Int := -1
  outer : List Int := []
  keyAllowed : Bool := true
  keys : List (Nat × KeyStart) := []
  tokens : List Token := []
  count : Nat := 0

namespace Scan

def fail {α : Type} : Except Error α := .error (.unreadable .token)

def push (s : Scan) (token : Token) : Scan :=
  { s with tokens := token :: s.tokens, count := s.count + 1 }

def insertAt (s : Scan) (place : Nat) (token : Token) : Scan :=
  let later := s.count - place
  { s with tokens := s.tokens.take later ++ token :: s.tokens.drop later, count := s.count + 1 }

def goTo (s : Scan) (cursor : Cursor) : Scan := { s with cursor }

/-! Keys. -/

def KeyStart.isStale (s : Scan) (key : KeyStart) : Bool :=
  key.line ≠ s.cursor.line || s.cursor.index - key.index > 1024

def dropStaleKeys (s : Scan) : Except Error Scan :=
  if s.keys.any fun entry => KeyStart.isStale s entry.2 && entry.2.required then fail
  else .ok { s with keys := s.keys.filter fun entry => !KeyStart.isStale s entry.2 }

def dropKey (s : Scan) : Except Error Scan :=
  match s.keys.lookup s.flow with
  | none => .ok s
  | some key =>
      if key.required then fail
      else .ok { s with keys := s.keys.filter fun entry => entry.1 ≠ s.flow }

def noteKey (s : Scan) : Except Error Scan :=
  if s.keyAllowed then do
    let s ← s.dropKey
    let required := s.flow = 0 && s.indent = s.cursor.column
    let key : KeyStart := ⟨s.count, required, s.cursor.index, s.cursor.line, s.cursor.column⟩
    return { s with keys := (s.flow, key) :: s.keys }
  else .ok s

/-! Indentation. -/

def unwound (column : Int) : Int → List Int → Nat × Int × List Int
  | indent, [] => (0, indent, [])
  | indent, next :: outer =>
      if indent > column then
        let (n, remaining) := unwound column next outer
        (n + 1, remaining)
      else (0, indent, next :: outer)

def unwind (s : Scan) (column : Int) : Scan :=
  if s.flow > 0 then s
  else
    let (n, indent, outer) := unwound column s.indent s.outer
    (List.replicate n Token.blockEnd).foldl push { s with indent, outer }

def opens (s : Scan) (column : Nat) : Option Scan :=
  if s.indent < column then some { s with indent := column, outer := s.indent :: s.outer } else none

def openHere (s : Scan) (start : Token) : Scan :=
  match s.opens s.cursor.column with
  | some opened => opened.push start
  | none => s

/-! One token. -/

/-- Blanks, comments and line ends between tokens. Behind a line end a key may start, in block
style. -/
def skipBetween : Nat → Scan → Scan
  | 0, s => s
  | fuel + 1, s =>
      let here := s.cursor.skipSpaces.skipComment
      let (lineBreak, next) := here.lineBreak
      if lineBreak.isEmpty then s.goTo here
      else skipBetween fuel { s with cursor := next, keyAllowed := s.keyAllowed || s.flow = 0 }

def isNameChar (c : Char) : Bool := c.isAlphanum || c = '-' || c = '_'

def isUriChar (c : Char) : Bool :=
  c.isAlphanum || "-;/?:@&=+$,_.!~*'()[]".toList.contains c

def nonempty (c : Cursor) (p : Char → Bool) : Except Error (String × Cursor) :=
  let (taken, behind) := c.span p
  if taken.isEmpty then fail else .ok (String.ofList taken, behind)

def uriBytes : Nat → Cursor → Except Error (List UInt8 × Cursor)
  | 0, c => .ok ([], c)
  | fuel + 1, c =>
      if c.peek ≠ '%' then .ok ([], c)
      else
        match hexNumber? 2 c.forward.rest 0 with
        | none => fail
        | some byte => do
            let (bytes, behind) ← uriBytes fuel (c.advance 3)
            return (UInt8.ofNat byte :: bytes, behind)

def uriFrom : Nat → Cursor → Except Error (String × Cursor)
  | 0, c => .ok ("", c)
  | fuel + 1, c => do
      let (taken, behind) := c.span isUriChar
      let text := String.ofList taken
      if behind.peek ≠ '%' then return (text, behind)
      else
        let (bytes, stop) ← uriBytes behind.rest.length behind
        match Text.decode? bytes with
        | none => fail
        | some decoded =>
            let (rest, stop) ← uriFrom fuel stop
            return (text ++ decoded ++ rest, stop)

def uri (c : Cursor) : Except Error (String × Cursor) :=
  if isUriChar c.peek || c.peek = '%' then uriFrom (c.rest.length + 1) c else fail

def tagHandle (c : Cursor) : Except Error (String × Cursor) :=
  if c.peek ≠ '!' then fail
  else if c.peekAt 1 = ' ' then .ok ("!", c.forward)
  else
    let (name, behind) := c.forward.span isNameChar
    if behind.peek = '!' then .ok (String.ofList ('!' :: name ++ ['!']), behind.forward) else fail

def digits (c : Cursor) : Except Error (Nat × Cursor) := do
  let (taken, behind) ← nonempty c Char.isDigit
  if taken.length > mostDigits then .error (.tooManyDigits taken.length)
  else return (Decimal.digitsValue taken.toList, behind)

def versionDirective (c : Cursor) : Except Error (Token × Cursor) := do
  let (major, dot) ← digits c.skipSpaces
  if dot.peek ≠ '.' then fail
  else
    let (_, behind) ← digits dot.forward
    if endsPart behind.peek then return (.version major, behind) else fail

def tagDirective (c : Cursor) : Except Error (Token × Cursor) := do
  let (handle, gap) ← tagHandle c.skipSpaces
  if gap.peek ≠ ' ' then fail
  else
    let (expansion, behind) ← uri gap.skipSpaces
    if endsPart behind.peek then return (.tagHandle handle expansion, behind) else fail

def directive (c : Cursor) : Except Error (Token × Cursor) := do
  let (name, behind) ← nonempty c.forward isNameChar
  if !endsPart behind.peek then fail
  else
    let (token, stop) ←
      if name = "YAML" then versionDirective behind
      else if name = "TAG" then tagDirective behind
      else pure (.otherDirective, behind.skip fun ch => !endsLine ch)
    return (token, ← ignoredLine stop)

def reference (c : Cursor) : Except Error (String × Cursor) := do
  let (name, behind) ← nonempty c.forward isNameChar
  if endsWord behind.peek || "?:,]\x7d%@\x60".toList.contains behind.peek then return (name, behind)
  else fail

def tag (c : Cursor) : Except Error (Token × Cursor) := do
  let next := c.peekAt 1
  let (token, behind) ←
    if next = '<' then do
      let (suffix, stop) ← uri (c.advance 2)
      if stop.peek = '>' then pure (Token.tag none suffix, stop.forward) else fail
    else if endsWord next then pure (Token.tag none "!", c.forward)
    else if (c.forward.span fun ch => !endsPart ch).1.contains '!' then do
      let (handle, start) ← tagHandle c
      let (suffix, stop) ← uri start
      pure (Token.tag (some handle) suffix, stop)
    else do
      let (suffix, stop) ← uri c.forward
      pure (Token.tag (some "!") suffix, stop)
  if endsPart behind.peek then return (token, behind) else fail

/-- A token behind which no key may start, though one may start at it. -/
def keyLike (s : Scan) (read : Cursor → Except Error (Token × Cursor)) : Except Error Scan := do
  let s ← s.noteKey
  let (token, behind) ← read s.cursor
  return ({ s with keyAllowed := false }.goTo behind).push token

def atMargin (s : Scan) (token : Token) (behind : Cursor) : Except Error Scan := do
  let s ← (s.unwind (-1)).dropKey
  return ({ s with keyAllowed := false }.goTo behind).push token

def openFlow (s : Scan) (token : Token) : Except Error Scan := do
  let s ← s.noteKey
  return ({ s with flow := s.flow + 1, keyAllowed := true }.goTo s.cursor.forward).push token

def closeFlow (s : Scan) (token : Token) : Except Error Scan := do
  let s ← s.dropKey
  return ({ s with flow := s.flow - 1, keyAllowed := false }.goTo s.cursor.forward).push token

def blockIndicator (s : Scan) (start token : Token) (keyAfter : Bool) : Except Error Scan :=
  if s.flow = 0 && !s.keyAllowed then fail
  else do
    let s := if s.flow = 0 then s.openHere start else s
    let s ← { s with keyAllowed := keyAfter }.dropKey
    return (s.goTo s.cursor.forward).push token

/-- The colon of a value: it settles that a key started where one might have. -/
def valueIndicator (s : Scan) : Except Error Scan :=
  match s.keys.lookup s.flow with
  | some key =>
      let s := { s with keys := s.keys.filter fun entry => entry.1 ≠ s.flow }
      let s := s.insertAt key.token .key
      let s :=
        match if s.flow = 0 then s.opens key.column else none with
        | some opened => opened.insertAt key.token .blockMappingStart
        | none => s
      .ok (({ s with keyAllowed := false }.goTo s.cursor.forward).push .value)
  | none => s.blockIndicator .blockMappingStart .value (s.flow = 0)

def plain (s : Scan) : Except Error Scan := do
  let s ← s.noteKey
  let (text, behind, atLineStart) := plainScalar (s.flow > 0) (s.indent + 1) s.cursor
  return ({ s with keyAllowed := atLineStart }.goTo behind).push (.scalar (String.ofList text) true)

def block (s : Scan) : Except Error Scan := do
  let s ← { s with keyAllowed := true }.dropKey
  let (text, behind) ← blockScalar s.indent s.cursor
  return (s.goTo behind).push (.scalar (String.ofList text) false)

def startsPlain (s : Scan) : Bool :=
  let ch := s.cursor.peek
  let next := s.cursor.peekAt 1
  !(endsWord ch || "-?:,[]\x7b\x7d#&*!|>'\"%@\x60".toList.contains ch)
    || (!endsWord next && (ch = '-' || (s.flow = 0 && (ch = '?' || ch = ':'))))

def next (s : Scan) : Except Error Scan :=
  let c := s.cursor
  let ch := c.peek
  let inBlock := s.flow = 0
  let wordEnds := endsWord (c.peekAt 1)
  if ch = '%' && c.column = 0 then do
    let s ← (s.unwind (-1)).dropKey
    let (token, behind) ← directive c
    return ({ s with keyAllowed := false }.goTo behind).push token
  else if c.column = 0 && c.atMarker '-' then s.atMargin .documentStart (c.advance 3)
  else if c.column = 0 && c.atMarker '.' then s.atMargin .documentEnd (c.advance 3)
  else if ch = '[' then s.openFlow .flowSequenceStart
  else if ch = '{' then s.openFlow .flowMappingStart
  else if ch = ']' then s.closeFlow .flowSequenceEnd
  else if ch = '}' then s.closeFlow .flowMappingEnd
  else if ch = ',' then do
    let s ← { s with keyAllowed := true }.dropKey
    return (s.goTo c.forward).push .flowEntry
  else if ch = '-' && wordEnds then s.blockIndicator .blockSequenceStart .blockEntry true
  else if ch = '?' && (!inBlock || wordEnds) then s.blockIndicator .blockMappingStart .key inBlock
  else if ch = ':' && (!inBlock || wordEnds) then s.valueIndicator
  else if ch = '*' then
    s.keyLike fun c => do
      let (name, behind) ← reference c
      return (.alias name, behind)
  else if ch = '&' then
    s.keyLike fun c => do
      let (name, behind) ← reference c
      return (.anchor name, behind)
  else if ch = '!' then s.keyLike tag
  else if (ch = '|' || ch = '>') && inBlock then s.block
  else if ch = '\'' || ch = '"' then
    s.keyLike fun c => do
      let (text, behind) ← quotedScalar c
      return (.scalar (String.ofList text) false, behind)
  else if s.startsPlain then s.plain
  else fail

def advance (s : Scan) : Except Error (Scan × Bool) := do
  let s := skipBetween (s.cursor.rest.length + 1) s
  let s ← s.dropStaleKeys
  let s := s.unwind s.cursor.column
  if s.cursor.atEnd then
    let s ← (s.unwind (-1)).dropKey
    return ({ s with keys := [] }.push .streamEnd, true)
  else
    let s ← (← s.next).dropStaleKeys
    return (s, false)

/-- How many tokens are settled: in front of the others a key may still be inserted. -/
def settled (s : Scan) : Nat := (s.keys.map (·.2.token)).foldl min s.count

/-- Reads tokens to the end of the text, or up to what is no token. Every round takes a character.
-/
def run : Nat → Scan → List Token × Option Error
  | 0, s => (s.tokens.reverse, none)
  | fuel + 1, s =>
      match s.advance with
      | .error error => (s.tokens.reverse.take s.settled, some error)
      | .ok (s, true) => (s.tokens.reverse, none)
      | .ok (s, false) => run fuel s

end Scan

/-- The tokens of a text, the end of the stream last. If an error cuts them short, it is given, and
the tokens are those which were settled in front of it. A byte order mark at the start of the text
is no part of it. -/
def tokens (text : String) : List Token × Option Error :=
  let chars := text.toList
  if !chars.all isReadable then ([], some (.unreadable .character))
  else
    let start : Cursor := { rest := chars }
    let start := if start.peek.toNat = 0xFEFF then start.forward else start
    Scan.run (chars.length + 2) { cursor := start }

end Palette.Yaml
