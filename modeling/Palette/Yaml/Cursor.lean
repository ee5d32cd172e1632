/-!
A place in a YAML text. The end of the text reads as the null character, which no readable text
holds. A line ends at a line feed, a carriage return (with a line feed or without), a next-line
character and the two Unicode separators; the byte order mark takes no column.
-/

namespace Palette.Yaml

def isBreak (c : Char) : Bool :=
  c = '\n' || c = '\r' || c.toNat = 0x85 || c.toNat = 0x2028 || c.toNat = 0x2029

def endsLine (c : Char) : Bool := c.toNat = 0 || isBreak c

/-- What may stand behind an indicator: a blank, a line break or the end of the text. -/
def endsWord (c : Char) : Bool := c = ' ' || c = '\t' || endsLine c

def endsPart (c : Char) : Bool := c = ' ' || endsLine c

def isReadable (c : Char) : Bool :=
  let n := c.toNat
  n = 9 || n = 10 || n = 13 || (0x20 ≤ n && n ≤ 0x7E) || n = 0x85 || (0xA0 ≤ n && n ≤ 0xD7FF) ||
    (0xE000 ≤ n && n ≤ 0xFFFD) || 0x10000 ≤ n

structure Cursor where
  rest : List Char
  index : Nat := 0
  line : Nat := 0
  column : Nat := 0

namespace Cursor

def peek (c : Cursor) : Char := c.rest.headD '\x00'

def peekAt (c : Cursor) (n : Nat) : Char := c.rest.getD n '\x00'

def atEnd (c : Cursor) : Bool := c.rest.isEmpty

def forward (c : Cursor) : Cursor :=
  match c.rest with
  | [] => c
  | ch :: rest =>
      if isBreak ch && !(ch = '\r' && rest.head? = some '\n') then
        { rest, index := c.index + 1, line := c.line + 1, column := 0 }
      else
        { rest, index := c.index + 1, line := c.line
          column := if ch.toNat = 0xFEFF then c.column else c.column + 1 }

def advance : Nat → Cursor → Cursor
  | 0, c => c
  | n + 1, c => advance n c.forward

def span (c : Cursor) (p : Char → Bool) : List Char × Cursor :=
  let taken := c.rest.takeWhile p
  (taken, c.advance taken.length)

def skip (c : Cursor) (p : Char → Bool) : Cursor := (c.span p).2

def skipSpaces (c : Cursor) : Cursor := c.skip (· = ' ')

/-- Takes a line break, which reads as a line feed unless it is a Unicode separator. -/
def lineBreak (c : Cursor) : List Char × Cursor :=
  let ch := c.peek
  if ch = '\r' || ch = '\n' || ch.toNat = 0x85 then
    (['\n'], if ch = '\r' && c.peekAt 1 = '\n' then c.advance 2 else c.forward)
  else if isBreak ch then ([ch], c.forward)
  else ([], c)

def skipComment (c : Cursor) : Cursor :=
  if c.peek = '#' then c.skip fun ch => !endsLine ch else c

def atMarker (c : Cursor) (mark : Char) : Bool :=
  c.rest.take 3 = [mark, mark, mark] && endsWord (c.peekAt 3)

def atSeparator (c : Cursor) : Bool := c.atMarker '-' || c.atMarker '.'

end Cursor

end Palette.Yaml
