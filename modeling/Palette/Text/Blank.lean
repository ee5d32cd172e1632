/-!
Blank characters and the ways text is cut at them: at its ends (`strip`), into words (`words`) and,
at line feeds alone, into lines (`lines`). The class is the one of Unicode white space together with
the four information separators; the zero width space and the byte order mark are not blank.
-/

namespace Palette.Text

def isBlank (c : Char) : Bool :=
  let n := c.toNat
  (9 ≤ n && n ≤ 13) || (28 ≤ n && n ≤ 32) || n == 0x85 || n == 0xA0 || n == 0x1680 ||
    (0x2000 ≤ n && n ≤ 0x200A) || n == 0x2028 || n == 0x2029 || n == 0x202F || n == 0x205F ||
    n == 0x3000

def trimEnd (cs : List Char) : List Char := (cs.reverse.dropWhile isBlank).reverse

def stripChars (cs : List Char) : List Char := trimEnd (cs.dropWhile isBlank)

def strip (s : String) : String := String.ofList (stripChars s.toList)

/-- The words of a list: `current` holds the characters of the word being read. -/
def wordsFrom (current : List Char) : List Char → List (List Char)
  | [] => if current.isEmpty then [] else [current]
  | c :: cs =>
      if isBlank c then
        if current.isEmpty then wordsFrom [] cs else current :: wordsFrom [] cs
      else wordsFrom (current ++ [c]) cs

def words (cs : List Char) : List (List Char) := wordsFrom [] cs

/-- The lines of a text; there is always at least one. -/
def lines : List Char → List (List Char)
  | [] => [[]]
  | c :: cs =>
      if c = '\n' then [] :: lines cs
      else
        match lines cs with
        | first :: rest => (c :: first) :: rest
        | [] => [[c]]

def dropReturn (line : List Char) : List Char :=
  if line.getLast? = some '\r' then line.dropLast else line

end Palette.Text
