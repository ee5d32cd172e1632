import Palette.Stylesheet.Node

/-!
The words of style sheets. Each function gives how many characters of a text belong to the word at
its start, zero if there is none.
-/

namespace Palette.Stylesheet

def isSpace (c : Char) : Bool := (9 ≤ c.toNat && c.toNat ≤ 13) || c = ' '

def isNameStart (c : Char) : Bool :=
  c.isAlpha || c = '_' || (0xA0 ≤ c.toNat && c.toNat ≤ 0xFF)

def isNameChar (c : Char) : Bool := isNameStart c || c.isDigit || c = '-'

def identifierLength : List Char → Nat
  | '-' :: '-' :: rest => 2 + (rest.takeWhile isNameChar).length
  | '-' :: c :: rest => if isNameStart c then 2 + (rest.takeWhile isNameChar).length else 0
  | c :: rest => if isNameStart c then 1 + (rest.takeWhile isNameChar).length else 0
  | [] => 0

def atKeywordLength : List Char → Nat
  | '@' :: rest =>
      match (rest.takeWhile fun c => c.isAlpha || c = '-' || c = '_').length with
      | 0 => 0
      | n => n + 1
  | _ => 0

def endsPlain (c : Char) : Bool :=
  isSpace c || [',', ';', '!', '{', '}', '(', ')', '[', ']'].contains c

/-- Whether a character behind a slash keeps the slash in a plain word. -/
def joinsSlash (c : Char) : Bool := c ≠ '*' && !endsPlain c

def plainLengthFrom : (afterLetter : Bool) → Nat → List Char → Nat
  | afterLetter, n, '/' :: c :: rest =>
      if joinsSlash c then plainLengthFrom afterLetter (n + 2) rest
      else if afterLetter then n else 0
  | afterLetter, n, c :: rest =>
      if c = '/' then if afterLetter then n else 0
      else if afterLetter then if endsPlain c then n else plainLengthFrom true (n + 1) rest
      else if c.isAlpha then plainLengthFrom true (n + 1) rest
      else if c = '-' || c = '_' then plainLengthFrom false (n + 1) rest
      else 0
  | afterLetter, n, [] => if afterLetter then n else 0

/-- A word with a letter in it; only hyphens, underscores and slashes with a character each stand in
front of the first letter. -/
def plainLength (cs : List Char) : Nat := plainLengthFrom false 0 cs

def plainWhole (cs : List Char) : Bool :=
  plainLength cs > 0 && (cs.drop (plainLength cs)).head? ≠ some '/'

def isHexDigit (c : Char) : Bool :=
  c.isDigit || ('a' ≤ c && c ≤ 'f') || ('A' ≤ c && c ≤ 'F')

/-- Three to eight hexadecimal digits. -/
def hexLength (cs : List Char) : Nat :=
  let digits := min 8 (cs.takeWhile isHexDigit).length
  if digits ≥ 3 then digits else 0

def digitsLength (cs : List Char) : Nat := (cs.takeWhile Char.isDigit).length

def fractionLength : List Char → Nat
  | '.' :: rest =>
      match digitsLength rest with
      | 0 => 0
      | n => n + 1
  | _ => 0

def exponentLength : List Char → Nat
  | e :: '-' :: rest =>
      if (e = 'e' || e = 'E') && digitsLength rest > 0 then 2 + digitsLength rest else 0
  | e :: rest => if (e = 'e' || e = 'E') && digitsLength rest > 0 then 1 + digitsLength rest else 0
  | [] => 0

/-- A number without its unit. The first component says whether it is a whole number. An exponent
alone is a number too. -/
def numberLength (cs : List Char) : Bool × Nat :=
  let sign := match cs with
    | '+' :: _ | '-' :: _ => 1
    | _ => 0
  let body := cs.drop sign
  let whole := digitsLength body
  let fraction := fractionLength (body.drop whole)
  let exponent := exponentLength (body.drop (whole + fraction))
  if whole + fraction + exponent = 0 then (true, 0)
  else (fraction + exponent = 0, sign + whole + fraction + exponent)

def unitLength (cs : List Char) : Nat := (cs.takeWhile fun c => c.isAlpha || c = '%').length

def commentLengthFrom : Nat → List Char → Nat
  | n, '*' :: '/' :: _ => n + 2
  | n, _ :: rest => commentLengthFrom (n + 1) rest
  | _, [] => 0

def commentLength : List Char → Nat
  | '/' :: '*' :: rest => commentLengthFrom 2 rest
  | _ => 0

def lineCommentLength : List Char → Nat
  | '/' :: '/' :: rest => 2 + (rest.takeWhile (· ≠ '\n')).length
  | _ => 0

/-- An escaped character: up to six hexadecimal digits and a blank, or any character. -/
def escapeLength : List Char → Nat
  | '\\' :: c :: rest =>
      match min 6 ((c :: rest).takeWhile isHexDigit).length with
      | 0 => 2
      | digits =>
          let blank := ((c :: rest).drop digits).head?.any isSpace
          if blank then digits + 2 else digits + 1
  | _ => 0

def contentLength (quote : Char) (cs : List Char) : Nat :=
  (cs.takeWhile fun c => c ≠ quote && c ≠ '\n' && c ≠ '\\').length

def indentedCommentLength (cs : List Char) : Nat :=
  let blanks := (cs.takeWhile fun c => isSpace c && c ≠ '\n').length
  match commentLength (cs.drop blanks) with
  | 0 => 0
  | length => blanks + length

/-- The rest of a string, its closing quote included. It may go on in the next line. What opens a
comment at the start of a part is one if it goes on behind that part. -/
def stringRest? (quote : Char) : Nat → List Char → Option Nat
  | 0, _ => none
  | fuel + 1, cs =>
      let content := max (contentLength quote cs) (indentedCommentLength cs)
      let part := max content (escapeLength cs)
      if part > 0 then (stringRest? quote fuel (cs.drop part)).map (· + part)
      else
        match cs with
        | [] => none
        | c :: rest => if c = quote then some 1 else (stringRest? quote fuel rest).map (· + 1)

def stringLength : List Char → Nat
  | c :: rest =>
      if c = '"' || c = '\'' then ((stringRest? c rest.length rest).map (· + 1)).getD 0 else 0
  | [] => 0

def importantLength : List Char → Nat
  | '!' :: rest =>
      if "important".toList.isPrefixOf rest then 10
      else
        match identifierLength rest with
        | 0 => 0
        | length => length + 1
  | _ => 0

end Palette.Stylesheet
