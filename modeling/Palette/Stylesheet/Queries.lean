import Palette.Stylesheet.Selectors

/-!
Queries between the keyword of a rule and its body. In a block the keyword may also be followed by
values; as long as that is open, the longest word counts, be it part of a query or of a value, and a
query is only what no value could go on from.
-/

namespace Palette.Stylesheet

inductive Reading where
  | queries
  /-- Queries, or a single value. -/
  | queriesOrValue
  | queriesOrValues
  deriving DecidableEq, Repr

def Reading.inner : Reading → Reading
  | .queries => .queries
  | .queriesOrValue | .queriesOrValues => .queriesOrValue

def Reading.setting : Reading → Setting
  | .queries => outside
  | .queriesOrValue | .queriesOrValues => beforeValue

def Reading.settingBehind : Reading → Setting
  | .queries => outside
  | .queriesOrValue => behindLone
  | .queriesOrValues => behindValue

def queryName (reading : Reading) (c : Cursor) : Nat :=
  if reading = .queries then identifierLength c.rest else valueName c.rest

/-- The length of an `and` or `or` here. Where nothing but it may stand, a name may follow at
once. -/
def jointLength (reading : Reading) (cs : List Char) : Nat :=
  let rival := reading.settingBehind.wordLength cs
  let joint (text : String) : Bool := text.toList.isPrefixOf cs && rival ≤ text.length
  if joint "and" then 3 else if joint "or" then 2 else 0

/-- Anything else in parentheses, such as a comparison. A value may not stand there. -/
def otherQuery (reading : Reading) (c : Cursor) : Option (Node × Cursor) := do
  let start ← if reading = .queries then expect '(' c else none
  let stop ← groupEnd (fuelFor start) .selectors start
  return (nodeAt "feature_query" c stop [], stop)

mutual

def queryOperand : Nat → Reading → Cursor → Option (Node × Cursor)
  | 0, _, _ => none
  | fuel + 1, reading, c =>
      let length := queryName reading c
      let name := String.ofList (c.rest.take length)
      let behind := c.advance length
      if c.peek? = some '(' then
        (featureQuery fuel reading.inner c).orElse fun _ =>
        (innerQuery fuel reading.inner c).orElse fun _ =>
        otherQuery reading c
      else if name = "not" || name = "only" then do
        let (_, stop) ← queryOperand fuel .queries (skipGap outside behind)
        return (nodeAt "unary_query" c stop [], stop)
      else if name = "selector" then do
        let start ← expect '(' (skipGap outside behind)
        let stop ← groupEnd (fuelFor start) .selectors start
        return (nodeAt "selector_query" c stop [], stop)
      else if reading ≠ .queries && (callAt? reading.settingBehind length c).isSome then none
      else word "keyword_query" length c

def innerQuery : Nat → Reading → Cursor → Option (Node × Cursor)
  | 0, _, _ => none
  | fuel + 1, reading, c => do
      let (_, next, inner) ← query fuel reading (skipGap reading.setting c.forward)
      let stop ← expect ')' (skipGap next.settingBehind inner)
      return (nodeAt "parenthesized_query" c stop [], stop)

def featureQuery : Nat → Reading → Cursor → Option (Node × Cursor)
  | 0, _, _ => none
  | _ + 1, reading, c => do
      let start := skipGap reading.setting c.forward
      let length := queryName reading start
      let colon := skipGap reading.settingBehind (start.advance length)
      let values ← if length = 0 then none else expect ':' colon
      let (_, stop) ← argumentsFrom (fuelFor values) values
      return (nodeAt "feature_query" c stop [], stop)

def query : Nat → Reading → Cursor → Option (Node × Reading × Cursor)
  | 0, _, _ => none
  | fuel + 1, reading, c => do
      let (first, behind) ← queryOperand fuel reading c
      let reading := if first.kind = "keyword_query" then reading else .queries
      queryRest fuel reading c first behind

def queryRest : Nat → Reading → (start : Cursor) → (first : Node) → Cursor →
    Option (Node × Reading × Cursor)
  | 0, _, _, _, _ => none
  | fuel + 1, reading, start, first, c =>
      let place := skipGap reading.settingBehind c
      match jointLength reading place.rest with
      | 0 => some (first, reading, c)
      | length => do
          let next := skipGap outside (place.advance length)
          let (_, stop) ← queryOperand fuel .queries next
          queryRest fuel .queries start (nodeAt "binary_query" start stop []) stop

end

/-- Queries divided by commas, with the comments among them, up to a semicolon or a brace. None at
all may stand there. The second place is that of the semicolon or brace. -/
def queriesFrom : Nat → Reading → Cursor → Option (List Node × Cursor)
  | 0, _, _ => none
  | fuel + 1, reading, c => do
      let (comments, place) := gapAt reading.setting c
      let (first, after, behind) ← query (fuelFor place) reading place
      let (more, next) := gapAt after.settingBehind behind
      match next.peek? with
      | some ',' => do
          let (rest, stop) ← queriesFrom fuel .queries next.forward
          return (comments ++ first :: more ++ rest, stop)
      | some ';' | some '{' => return (comments ++ first :: more, next)
      | _ => none

def queries (reading : Reading) (c : Cursor) : Option (List Node × Cursor) :=
  let (comments, place) := gapAt reading.setting c
  match place.peek? with
  | some ';' | some '{' => some (comments, place)
  | _ => queriesFrom (c.rest.length + 1) reading c

end Palette.Stylesheet
