import Palette.Stylesheet.Lexeme

/-!
A place in a style sheet, and what may stand between its words. Blanks and comments may stand
everywhere; comments are nodes of whatever they stand in, except that those behind the last word of
a node are left outside it.
-/

namespace Palette.Stylesheet

structure Cursor where
  rest : List Char
  offset : Nat := 0
  point : Point := ⟨0, 0⟩

namespace Cursor

def peek? (c : Cursor) : Option Char := c.rest.head?

def forward (c : Cursor) : Cursor :=
  match c.rest with
  | [] => c
  | ch :: rest =>
      { rest, offset := c.offset + ch.utf8Size
        point := if ch = '\n' then ⟨c.point.row + 1, 0⟩
          else ⟨c.point.row, c.point.column + ch.utf8Size⟩ }

def advance : Nat → Cursor → Cursor
  | 0, c => c
  | n + 1, c => advance n c.forward

def skipSpace (c : Cursor) : Cursor := c.advance (c.rest.takeWhile isSpace).length

def toEnd (c : Cursor) : Cursor := c.advance c.rest.length

/-- A byte order mark in front of a text is no part of it. -/
def skipMark (c : Cursor) : Cursor :=
  if c.peek? = some (Char.ofNat 0xFEFF) then c.forward else c

end Cursor

def nodeAt (kind : String) (start stop : Cursor) (children : List Node) : Node :=
  .mk { kind, start := start.offset, stop := stop.offset
        startPoint := start.point, stopPoint := stop.point } children

/-! A reading gives what was read and the place behind it. -/

def word (kind : String) (length : Nat) (c : Cursor) : Option (Node × Cursor) :=
  if length = 0 then none
  else
    let stop := c.advance length
    some (nodeAt kind c stop [], stop)

def expect (ch : Char) (c : Cursor) : Option Cursor :=
  if c.peek? = some ch then some c.forward else none

/-- Which words may stand at a place besides punctuation and comments. Of those that do stand there
the longest counts. -/
structure Setting where
  names : Bool := false
  /-- Plain words. -/
  words : Bool := false
  numbers : Bool := false
  operators : Bool := false

def outside : Setting := {}

def beforeValue : Setting := { names := true, words := true, numbers := true }

def behindValue : Setting := { beforeValue with operators := true }

def behindLone : Setting := { operators := true }

def beforeQuery : Setting := { names := true, operators := true }

def Setting.wordLength (setting : Setting) (cs : List Char) : Nat :=
  let name := if setting.names then identifierLength cs else 0
  let plain := if setting.words then plainLength cs else 0
  let number := if setting.numbers then (numberLength cs).2 else 0
  max name (max plain number)

/-- A line comment, unless its slashes open a plain word. Where plain words cannot stand, operators
come before it. -/
def Setting.lineComment (setting : Setting) (cs : List Char) : Nat :=
  let taken := if setting.words then plainWhole cs else setting.operators
  if taken then 0 else lineCommentLength cs

def comment (setting : Setting) (c : Cursor) : Option (Node × Cursor) :=
  (word "comment" (commentLength c.rest) c).orElse fun _ =>
    word "js_comment" (setting.lineComment c.rest) c

def gap (setting : Setting) : Nat → Cursor → List Node × Cursor
  | 0, c => ([], c.skipSpace)
  | fuel + 1, c =>
      let start := c.skipSpace
      match comment setting start with
      | some (node, stop) =>
          let (nodes, behind) := gap setting fuel stop
          (node :: nodes, behind)
      | none => ([], start)

def gapAt (setting : Setting) (c : Cursor) : List Node × Cursor := gap setting c.rest.length c

def skipGap (setting : Setting) (c : Cursor) : Cursor := (gapAt setting c).2

/-- Comments up to a place that no blank stands in front of. -/
def tightGap? (setting : Setting) (c : Cursor) : Option (List Node × Cursor) :=
  let (comments, place) := gapAt setting c
  let stop := (comments.getLast?.map (·.label.stop)).getD c.offset
  if place.offset = stop then some (comments, place) else none

end Palette.Stylesheet
