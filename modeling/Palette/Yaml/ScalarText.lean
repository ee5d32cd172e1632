import Palette.Yaml.Cursor
import Palette.Yaml.Error

/-!
The texts of scalars: plain, quoted and block ones. Each reader starts at the first character of the
scalar and gives its text with the cursor behind it. Line breaks inside fold: a single one reads as
a blank, of several the first vanishes.

The readers take the number of characters left as fuel, since every round takes one at least.
-/

namespace Palette.Yaml

def folded (first : List Char) (breaks : List Char) : List Char :=
  if first ≠ ['\n'] then first ++ breaks
  else if breaks.isEmpty then [' ']
  else breaks

/-! Plain scalars. -/

/-- The part of a plain scalar up to a blank, a comma or bracket of flow style, or a colon that ends
a key. -/
def plainWord (inFlow : Bool) : List Char → List Char
  | [] => []
  | ch :: rest =>
      let next := rest.headD '\x00'
      if endsWord ch
          || (ch = ':' && (endsWord next || (inFlow && [',', '[', ']', '{', '}'].contains next)))
          || (inFlow && [',', '?', '[', ']', '{', '}'].contains ch)
      then []
      else ch :: plainWord inFlow rest

def plainBreaks : Nat → Cursor → List Char → Option (List Char) × Cursor
  | 0, c, breaks => (some breaks, c)
  | fuel + 1, c, breaks =>
      if c.peek = ' ' then plainBreaks fuel c.forward breaks
      else if isBreak c.peek then
        let (taken, next) := c.lineBreak
        if next.atSeparator then (none, next)
        else plainBreaks fuel next (breaks ++ taken)
      else (some breaks, c)

/-- The blanks behind a word of a plain scalar, and whether a line ended among them. Nothing at all
ends the scalar. -/
def plainSpaces (c : Cursor) : List Char × Cursor × Bool :=
  let (spaces, behind) := c.span (· = ' ')
  if isBreak behind.peek then
    let (first, next) := behind.lineBreak
    if next.atSeparator then ([], next, true)
    else
      match plainBreaks next.rest.length next [] with
      | (none, stop) => ([], stop, true)
      | (some breaks, stop) => (folded first breaks, stop, true)
  else (spaces, behind, false)

/-- Reads words while they go on. The last component says whether the scalar ended at the start of a
line, where a key may stand again. -/
def plainFrom (inFlow : Bool) (indent : Int) :
    Nat → Cursor → (text spaces : List Char) → Bool → List Char × Cursor × Bool
  | 0, c, text, _, atLineStart => (text, c, atLineStart)
  | fuel + 1, c, text, spaces, atLineStart =>
      let word := if c.peek = '#' then [] else plainWord inFlow c.rest
      if word.isEmpty then (text, c, atLineStart)
      else
        let (next, behind, broke) := plainSpaces (c.advance word.length)
        let text := text ++ spaces ++ word
        if next.isEmpty || behind.peek = '#' || (!inFlow && (behind.column : Int) < indent) then
          (text, behind, broke)
        else plainFrom inFlow indent fuel behind text next broke

def plainScalar (inFlow : Bool) (indent : Int) (c : Cursor) : List Char × Cursor × Bool :=
  plainFrom inFlow indent (c.rest.length + 1) c [] [] false

/-! Quoted scalars. -/

def hexValue? (c : Char) : Option Nat :=
  if '0' ≤ c ∧ c ≤ '9' then some (c.toNat - '0'.toNat)
  else if 'a' ≤ c ∧ c ≤ 'f' then some (c.toNat - 'a'.toNat + 10)
  else if 'A' ≤ c ∧ c ≤ 'F' then some (c.toNat - 'A'.toNat + 10)
  else none

def hexNumber? : Nat → List Char → Nat → Option Nat
  | 0, _, value => some value
  | n + 1, c :: rest, value =>
    (hexValue? c).bind fun digit => hexNumber? n rest (value * 16 + digit)
  | _ + 1, [], _ => none

def simpleEscapes : List (Char × Nat) :=
  [('0', 0), ('a', 7), ('b', 8), ('t', 9), ('\t', 9), ('n', 10), ('v', 11), ('f', 12), ('r', 13),
   ('e', 27), (' ', 32), ('"', 34), ('\\', 92), ('/', 47), ('N', 0x85), ('_', 0xA0),
   ('L', 0x2028), ('P', 0x2029)]

def codeEscapes : List (Char × Nat) := [('x', 2), ('u', 4), ('U', 8)]

def quotedBreaks : Nat → Cursor → List Char → Except Error (List Char × Cursor)
  | 0, c, breaks => .ok (breaks, c)
  | fuel + 1, c, breaks =>
      if c.atSeparator then .error (.unreadable .token)
      else
        let behind := c.skip fun ch => ch = ' ' || ch = '\t'
        if isBreak behind.peek then
          let (taken, next) := behind.lineBreak
          quotedBreaks fuel next (breaks ++ taken)
        else .ok (breaks, behind)

def escape (c : Cursor) : Except Error (List Char × Cursor) :=
  match simpleEscapes.lookup c.peek, codeEscapes.lookup c.peek with
  | some code, _ => .ok ([Char.ofNat code], c.forward)
  | none, some digits =>
      match hexNumber? digits c.forward.rest 0 with
      | none => .error (.unreadable .token)
      | some code =>
          if code < 0x110000 then .ok ([Char.ofNat code], c.advance (digits + 1))
          else if code < Nat.pow 2 31 then .error .noSuchCharacter
          else .error .characterTooLarge
  | none, none =>
      if isBreak c.peek then quotedBreaks c.rest.length c.lineBreak.2 []
      else .error (.unreadable .token)

def quotedSpaces (c : Cursor) : Except Error (List Char × Cursor) :=
  let (spaces, behind) := c.span fun ch => ch = ' ' || ch = '\t'
  if isBreak behind.peek then do
    let (first, next) := behind.lineBreak
    let (breaks, stop) ← quotedBreaks (next.rest.length + 1) next []
    return (folded first breaks, stop)
  else .ok (spaces, behind)

def quotedFrom (quote : Char) : Nat → Cursor → List Char → Except Error (List Char × Cursor)
  | 0, _, _ => .error (.unreadable .token)
  | fuel + 1, c, text =>
      let ch := c.peek
      if c.atEnd then .error (.unreadable .token)
      else if ch = quote then
        if quote = '\'' && c.peekAt 1 = '\'' then
          quotedFrom quote fuel (c.advance 2) (text ++ ['\''])
        else .ok (text, c.forward)
      else if quote = '"' && ch = '\\' then do
        let (denoted, next) ← escape c.forward
        quotedFrom quote fuel next (text ++ denoted)
      else if endsWord ch then do
        let (spaces, next) ← quotedSpaces c
        quotedFrom quote fuel next (text ++ spaces)
      else quotedFrom quote fuel c.forward (text ++ [ch])

def quotedScalar (c : Cursor) : Except Error (List Char × Cursor) :=
  quotedFrom c.peek (c.rest.length + 1) c.forward []

/-! Block scalars. -/

inductive Chomping where
  | strip
  | clip
  | keep

def chomping? (c : Char) : Option Chomping :=
  if c = '+' then some .keep else if c = '-' then some .strip else none

def increment? (c : Char) : Except Error (Option Nat) :=
  if c = '0' then .error (.unreadable .token)
  else if '1' ≤ c ∧ c ≤ '9' then .ok (some (c.toNat - '0'.toNat))
  else .ok none

def blockIndicators (c : Cursor) : Except Error (Chomping × Option Nat × Cursor) := do
  match chomping? c.peek with
  | some chomping =>
      match ← increment? c.forward.peek with
      | some n => return (chomping, some n, c.advance 2)
      | none => return (chomping, none, c.forward)
  | none =>
      match ← increment? c.peek with
      | none => return (.clip, none, c)
      | some n =>
          match chomping? c.forward.peek with
          | some chomping => return (chomping, some n, c.advance 2)
          | none => return (.clip, some n, c.forward)

def ignoredLine (c : Cursor) : Except Error Cursor :=
  let behind := c.skipSpaces.skipComment
  if endsLine behind.peek then .ok behind.lineBreak.2 else .error (.unreadable .token)

def blockIndentation : Nat → Cursor → List Char → Nat → List Char × Nat × Cursor
  | 0, c, breaks, widest => (breaks, widest, c)
  | fuel + 1, c, breaks, widest =>
      if c.peek = ' ' then
        let next := c.forward
        blockIndentation fuel next breaks (max widest next.column)
      else if isBreak c.peek then
        let (taken, next) := c.lineBreak
        blockIndentation fuel next (breaks ++ taken) widest
      else (breaks, widest, c)

def skipIndent (indent : Nat) : Nat → Cursor → Cursor
  | 0, c => c
  | fuel + 1, c => if c.column < indent && c.peek = ' ' then skipIndent indent fuel c.forward else c

def blockBreaks (indent : Nat) : Nat → Cursor → List Char → List Char × Cursor
  | 0, c, breaks => (breaks, c)
  | fuel + 1, c, breaks =>
      let c := skipIndent indent indent c
      if isBreak c.peek then
        let (taken, next) := c.lineBreak
        blockBreaks indent fuel next (breaks ++ taken)
      else (breaks, c)

/-- The lines of a block scalar from one at its indentation on, with the break and the empty lines
behind the last. -/
def blockLines (fold : Bool) (indent : Nat) :
    Nat → Cursor → (text breaks : List Char) → List Char × List Char × List Char × Cursor
  | 0, c, text, breaks => (text, [], breaks, c)
  | fuel + 1, c, text, breaks =>
      if c.column ≠ indent || c.atEnd then (text, [], breaks, c)
      else
        let leading := c.peek
        let (line, behind) := c.span fun ch => !endsLine ch
        let (lineBreak, next) := behind.lineBreak
        let (between, stop) := blockBreaks indent (next.rest.length + 1) next []
        let text := text ++ breaks ++ line
        if stop.column ≠ indent || stop.atEnd then (text, lineBreak, between, stop)
        else if fold && lineBreak = ['\n'] && leading ≠ ' ' && leading ≠ '\t'
            && stop.peek ≠ ' ' && stop.peek ≠ '\t' then
          blockLines fold indent fuel stop (if between.isEmpty then text ++ [' '] else text) between
        else blockLines fold indent fuel stop (text ++ lineBreak) between

def blockScalar (parent : Int) (c : Cursor) : Except Error (List Char × Cursor) := do
  let (chomping, increment, header) ← blockIndicators c.forward
  let start ← if endsPart header.peek then ignoredLine header else .error (.unreadable .token)
  let least := (max 1 (parent + 1)).toNat
  let (indent, breaks, first) :=
    match increment with
    | some n =>
        let indent := least + n - 1
        let (breaks, first) := blockBreaks indent (start.rest.length + 1) start []
        (indent, breaks, first)
    | none =>
        let (breaks, widest, first) := blockIndentation start.rest.length start [] 0
        (max least widest, breaks, first)
  let (text, lineBreak, trailing, stop) :=
    blockLines (c.peek = '>') indent (first.rest.length + 1) first [] breaks
  match chomping with
  | .strip => return (text, stop)
  | .clip => return (text ++ lineBreak, stop)
  | .keep => return (text ++ lineBreak ++ trailing, stop)

end Palette.Yaml
