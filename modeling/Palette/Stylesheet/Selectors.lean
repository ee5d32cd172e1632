import Palette.Stylesheet.Values

/-!
Selectors in front of a block. Only two things matter about them: where they end, and whether they
are a single tag name. Braces inside of strings, brackets and parentheses do not end them.
-/

namespace Palette.Stylesheet

inductive ArgumentForm where
  | selectors
  /-- A step and an offset in a count of children. -/
  | counting
  | values
  /-- Selectors or values. -/
  | either
  deriving DecidableEq, Repr

def selectorClasses : List String := ["has", "not", "is", "where", "host", "host-context"]

def countingClasses : List String := ["nth-child", "nth-last-child"]

def argumentForm (element : Bool) (name : String) : ArgumentForm :=
  if element then .either
  else if selectorClasses.contains name then .selectors
  else if countingClasses.contains name then .counting
  else .values

def attributeEnd : Nat → Cursor → Option Cursor
  | 0, _ => none
  | fuel + 1, c =>
      let place := skipGap outside c
      match place.peek? with
      | none => none
      | some ']' => some place.forward
      | some '=' => do
          let start := skipGap beforeValue place.forward
          let (_, behind) ← value (fuelFor start) behindLone start
          attributeEnd fuel (skipGap behindLone behind)
      | some _ =>
          let length := max (stringLength place.rest) (identifierLength place.rest)
          attributeEnd fuel (place.advance (max 1 length))

/-- The part of selectors at a place: how long it is, and its last word if that is a name. -/
def selectorWord (cs : List Char) : Nat × String :=
  let name := identifierLength cs
  let other := max (stringLength cs) (escapeLength cs)
  (max 1 (max name other), String.ofList (cs.take name))

mutual

def groupEnd : Nat → ArgumentForm → Cursor → Option Cursor
  | 0, _, _ => none
  | fuel + 1, .selectors, c | fuel + 1, .counting, c => selectorGroupEnd fuel false "" c
  | _ + 1, .values, c => (argumentsFrom (fuelFor c) c).map (·.2)
  | fuel + 1, .either, c =>
      ((argumentsFrom (fuelFor c) c).map (·.2)).orElse fun _ => selectorGroupEnd fuel false "" c

/-- The place behind selectors and the parenthesis that closes them. `name` is the identifier right
in front of this place, and `element` tells whether it names an element. -/
def selectorGroupEnd : Nat → (element : Bool) → (name : String) → Cursor → Option Cursor
  | 0, _, _, _ => none
  | fuel + 1, element, name, c =>
      let place := skipGap outside c
      match place.rest with
      | [] => none
      | ')' :: _ => some place.forward
      | '(' :: _ => do
          let stop ← groupEnd fuel (argumentForm element name) place.forward
          selectorGroupEnd fuel false "" stop
      | '[' :: _ => do selectorGroupEnd fuel false "" (← attributeEnd (fuelFor place) place.forward)
      | ':' :: ':' :: _ => selectorGroupEnd fuel true "" (place.advance 2)
      | ':' :: _ => selectorGroupEnd fuel false "" place.forward
      | cs => selectorGroupEnd fuel element (selectorWord cs).2 (place.advance (selectorWord cs).1)

end

def selectorsEnd :
    Nat → (element : Bool) → (name : String) → (last : Cursor) → Cursor → Option Cursor
  | 0, _, _, _, _ => none
  | fuel + 1, element, name, last, c =>
      let place := skipGap outside c
      match place.rest with
      | [] | ';' :: _ | '}' :: _ => none
      | '{' :: _ => some last
      | '[' :: _ => do
          let stop ← attributeEnd (fuelFor place) place.forward
          selectorsEnd fuel false "" stop stop
      | '(' :: _ => do
          let stop ← groupEnd (fuelFor place) (argumentForm element name) place.forward
          selectorsEnd fuel false "" stop stop
      | ':' :: ':' :: _ => selectorsEnd fuel true "" (place.advance 2) (place.advance 2)
      | ':' :: _ => selectorsEnd fuel false "" place.forward place.forward
      | cs =>
          let stop := place.advance (selectorWord cs).1
          selectorsEnd fuel element (selectorWord cs).2 stop stop

/-- The selectors of a rule. A single identifier is a tag name. -/
def selectors (c : Cursor) : Option (Node × Cursor) := do
  let stop ← selectorsEnd (c.rest.length + 1) false "" c c
  let name := c.advance (identifierLength c.rest)
  let inner := if name.offset = stop.offset then "tag_name" else "selector"
  if stop.offset = c.offset then none
  else return (nodeAt "selectors" c stop [nodeAt inner c stop []], stop)

end Palette.Stylesheet
