import Palette.Stylesheet.Cursor

/-!
Values of declarations. Of the words that may stand at a place the longest counts: `1px/a` is a
number and a plain word, since `px/a` is longer than the unit `px`. What may stand behind a value
depends on where the value stands, so every reading of one is told that setting.
-/

namespace Palette.Stylesheet

/-- An operator between two values. A sign that a name, a plain word or a number begins with is
none. -/
def operatorAt (after : Setting) (c : Cursor) : Bool :=
  match c.peek? with
  | some '*' => true
  | some '+' | some '-' | some '/' => after.wordLength c.rest = 0
  | _ => false

/-- The place behind the unit of a number that ends here. Only comments may stand in front of a
unit, and a longer word is none. -/
def unitEnd (after : Setting) (c : Cursor) : Cursor :=
  match tightGap? after c with
  | some (_, place) =>
      let length := unitLength place.rest
      if length = 0 || after.wordLength place.rest > length then c else place.advance length
  | none => c

def numberValue (after : Setting) (c : Cursor) : Option (Node × Cursor) :=
  let (isWhole, length) := numberLength c.rest
  let stop := unitEnd after (c.advance length)
  if length = 0 then none
  else some (nodeAt (if isWhole then "integer_value" else "float_value") c stop [], stop)

def colorValue (c : Cursor) : Option (Node × Cursor) := do
  let (comments, digits) ← tightGap? outside (← expect '#' c)
  let (_, stop) ← word "digits" (hexLength digits.rest) digits
  return (nodeAt "color_value" c stop comments, stop)

def simpleValue (after : Setting) (c : Cursor) : Option (Node × Cursor) :=
  let name := max (identifierLength c.rest) (plainLength c.rest)
  (colorValue c).orElse fun _ =>
  (word "string_value" (stringLength c.rest) c).orElse fun _ =>
  (if (numberLength c.rest).2 ≥ name then numberValue after c else none).orElse fun _ =>
  (word "plain_value" name c).orElse fun _ =>
  word "important" (importantLength c.rest) c

/-- The identifier where a value may stand, unless another word of a value is longer, or a number as
long. -/
def valueName (cs : List Char) : Nat :=
  let length := identifierLength cs
  if plainLength cs > length || (numberLength cs).2 ≥ length then 0 else length

/-- The end of a name of this length, the comments behind it and the opening parenthesis of a call,
in front of which no blank stands. -/
def callAt? (after : Setting) (length : Nat) (c : Cursor) :
    Option (Cursor × List Node × Cursor) := do
  if length = 0 then none
  let name := c.advance length
  let (comments, place) ← tightGap? after name
  if place.peek? = some '(' then return (name, comments, place) else none

mutual

def operand : Nat → (after : Setting) → Cursor → Option (Node × Cursor)
  | 0, _, _ => none
  | fuel + 1, after, c =>
      match callAt? after (valueName c.rest) c with
      | some (name, comments, place) => do
          let (inner, stop) ← arguments fuel place
          return (nodeAt "call_expression" c stop
            (nodeAt "function_name" c name [] :: comments ++ [nodeAt "arguments" place stop inner]),
            stop)
      | none =>
          match c.peek? with
          | some '(' => do
              let (inner, behind) ← value fuel behindLone (skipGap beforeValue c.forward)
              let stop ← expect ')' (skipGap behindLone behind)
              return (nodeAt "parenthesized_value" c stop [inner], stop)
          | some '[' => do
              let stop ← gridEnd fuel c.forward
              return (nodeAt "grid_value" c stop [], stop)
          | _ => simpleValue after c

def gridEnd : Nat → Cursor → Option Cursor
  | 0, _ => none
  | fuel + 1, c => do
      let (_, behind) ← value fuel behindLone (skipGap beforeValue c)
      let place := skipGap behindLone behind
      match place.peek? with
      | some ']' => return place.forward
      | some ',' => gridEnd fuel place.forward
      | _ => none

def value : Nat → (after : Setting) → Cursor → Option (Node × Cursor)
  | 0, _, _ => none
  | fuel + 1, after, c => do
      let (first, behind) ← operand fuel after c
      operation fuel after c first behind

def operation : Nat → (after : Setting) → (start : Cursor) → (first : Node) → Cursor →
    Option (Node × Cursor)
  | 0, _, _, _, _ => none
  | fuel + 1, after, start, first, c =>
      let (before, place) := gapAt after c
      if operatorAt after place then do
        let (behind, next) := gapAt beforeValue place.forward
        let (second, stop) ← operand fuel after next
        operation fuel after start
          (nodeAt "binary_expression" start stop (first :: before ++ behind ++ [second])) stop
      else some (first, c)

/-- The arguments of a call, with the comments among them; the cursor stands at the opening
parenthesis. Commas and semicolons divide them. -/
def arguments : Nat → Cursor → Option (List Node × Cursor)
  | 0, _ => none
  | fuel + 1, c => argumentsFrom fuel c.forward

def argumentsFrom : Nat → Cursor → Option (List Node × Cursor)
  | 0, _ => none
  | fuel + 1, c =>
      let (comments, place) := gapAt behindValue c
      match place.peek? with
      | none => none
      | some ')' => some (comments, place.forward)
      | some ch =>
          if ch = ',' || ch = ';' then do
            let (rest, stop) ← argumentsFrom fuel place.forward
            return (comments ++ rest, stop)
          else do
            let (first, behind) ← value fuel behindValue place
            let (rest, stop) ← argumentsFrom fuel behind
            return (comments ++ first :: rest, stop)

end

def fuelFor (c : Cursor) : Nat := 4 * c.rest.length + 4

inductive Ending where
  /-- At a semicolon. -/
  | semicolon
  /-- At a semicolon, or in front of the brace that closes the block. -/
  | semicolonOrBrace
  deriving DecidableEq, Repr

/-- The values of a declaration up to its end, and the place behind the last word of it. `settled`
tells that a value came last. -/
def declarationValues (ending : Ending) :
    Nat → (settled : Bool) → Cursor → Option (List Node × Cursor)
  | 0, _, _ => none
  | fuel + 1, settled, c =>
      let (comments, place) := gapAt behindValue c
      match settled, place.peek? with
      | _, none => none
      | true, some ';' => some (comments, place.forward)
      | true, some '}' => if ending = .semicolonOrBrace then some ([], c) else none
      | true, some ',' => do
          let (rest, stop) ← declarationValues ending fuel false place.forward
          return (comments ++ rest, stop)
      | _, some _ => do
          let (first, behind) ← value (fuelFor place) behindValue place
          let (rest, stop) ← declarationValues ending fuel true behind
          return (comments ++ first :: rest, stop)

def declaration (ending : Ending) (c : Cursor) : Option (Node × Cursor) := do
  let length := identifierLength c.rest
  let name := c.advance length
  let (before, place) := gapAt outside name
  let start ← if length = 0 then none else expect ':' place
  let (values, stop) ← declarationValues ending (start.rest.length + 1) false start
  return (nodeAt "declaration" c stop (nodeAt "property_name" c name [] :: before ++ values), stop)

def plainValues : Nat → Cursor → Option (List Node × Cursor)
  | 0, _ => none
  | fuel + 1, c =>
      let (comments, place) := gapAt behindValue c
      match place.peek? with
      | none => none
      | some ';' => some (comments, place.forward)
      | some _ => do
          let (first, behind) ← value (fuelFor place) behindValue place
          let (rest, stop) ← plainValues fuel behind
          return (comments ++ first :: rest, stop)

end Palette.Stylesheet
