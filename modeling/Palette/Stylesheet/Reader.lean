import Palette.Stylesheet.Queries

/-!
Reading a style sheet into its tree: rules, declarations and statements, at the top level and in
blocks. What follows no rule is one error node, up to the end of the source.
-/

namespace Palette.Stylesheet

inductive Level where
  | top
  | block
  deriving DecidableEq, Repr

/-- A declaration needs its semicolon, except at the end of a block. -/
def Level.ending : Level → Ending
  | .top => .semicolon
  | .block => .semicolonOrBrace

def Level.reading : Level → Reading
  | .top => .queries
  | .block => .queriesOrValues

inductive Statement where
  | media
  | supports
  | scope
  | charset
  | namespacing
  | importing
  | keyframes

def Statement.kind : Statement → String
  | .media => "media_statement"
  | .supports => "supports_statement"
  | .scope => "scope_statement"
  | .charset => "charset_statement"
  | .namespacing => "namespace_statement"
  | .importing => "import_statement"
  | .keyframes => "keyframes_statement"

def statements : List (String × Statement) :=
  [("@media", .media), ("@supports", .supports), ("@scope", .scope), ("@charset", .charset),
   ("@namespace", .namespacing), ("@import", .importing), ("@keyframes", .keyframes)]

/-- Whether a rule is one of key frames under a vendor's name. -/
def isVendorKeyframes (name : String) : Bool :=
  name.endsWith "keyframes" && name.length > 10 &&
    (name.toList.drop 1).all fun c => c = '-' || c.isLower

def statement? (name : String) : Option Statement :=
  if isVendorKeyframes name then some .keyframes else statements.lookup name

def valueEnd (c : Cursor) : Option Cursor := do
  let start := skipGap beforeValue c
  let (_, behind) ← value (fuelFor start) behindLone start
  expect ';' (skipGap behindLone behind)

def importEnd (c : Cursor) : Option Cursor := do
  let start := skipGap beforeValue c
  let (_, behind) ← value (fuelFor start) beforeQuery start
  let place := skipGap beforeQuery behind
  if place.peek? = some ';' then return place.forward
  else
    let (_, stop) ← queries .queries place
    expect ';' stop

def addressEnd (c : Cursor) : Option Cursor :=
  match word "string_value" (stringLength c.rest) c with
  | some (_, stop) => some stop
  | none => do
      let (_, _, place) ← callAt? outside (identifierLength c.rest) c
      let (_, stop) ← arguments (fuelFor place) place
      return stop

def namespaceEnd (c : Cursor) : Option Cursor := do
  let place := skipGap outside c
  let behind := skipGap outside (place.advance (identifierLength place.rest))
  let stop ← (addressEnd place).orElse fun _ => addressEnd behind
  expect ';' (skipGap outside stop)

def scopeLimit (c : Cursor) : Option Cursor :=
  let place := skipGap outside c
  match place.peek? with
  | some '(' => groupEnd (fuelFor place) .selectors place.forward
  | _ => some c

def scopeHead (c : Cursor) : Option Cursor := do
  let lower ← scopeLimit c
  let place := skipGap outside lower
  if String.ofList (place.rest.take (identifierLength place.rest)) = "to" then
    scopeLimit (place.advance 2)
  else return lower

def frameStep (c : Cursor) : Option Cursor :=
  let name := String.ofList (c.rest.take (identifierLength c.rest))
  if name = "from" || name = "to" then some (c.advance name.length)
  else (numberValue outside c).map (·.2)

def frameSteps : Nat → Cursor → Option Cursor
  | 0, _ => none
  | fuel + 1, c => do
      let place := skipGap outside (← frameStep (skipGap outside c))
      if place.peek? = some ',' then frameSteps fuel place.forward else return place

mutual

/-- The items of a block or of a whole style sheet, as far as they can be read. -/
def items : Nat → Level → Cursor → List Node × Cursor
  | 0, _, c => ([], c)
  | fuel + 1, level, c =>
      let (comments, place) := gapAt outside c
      match item fuel level place with
      | some (node, behind) =>
          let (rest, stop) := items fuel level behind
          (comments ++ node :: rest, stop)
      | none => (comments, place)

def block : Nat → Cursor → Option (Node × Cursor)
  | 0, _ => none
  | fuel + 1, c => do
      let inner ← expect '{' c
      let (nodes, behind) := items fuel .block inner
      let stop ← expect '}' behind
      return (nodeAt "block" c stop nodes, stop)

def frames : Nat → Cursor → Option Cursor
  | 0, _ => none
  | fuel + 1, c => do
      let place := skipGap outside c
      if place.peek? = some '}' then return place.forward
      else
        let behind ← frameSteps (place.rest.length + 1) place
        let (_, stop) ← block fuel behind
        frames fuel stop

def statementEnd : Nat → Statement → Cursor → Option Cursor
  | 0, _, _ => none
  | _ + 1, .charset, c => valueEnd c
  | _ + 1, .namespacing, c => namespaceEnd c
  | _ + 1, .importing, c => importEnd c
  | fuel + 1, .media, c | fuel + 1, .supports, c => do
      let (_, place) ← queries .queries c
      let (_, stop) ← block fuel place
      return stop
  | fuel + 1, .scope, c => do
      let (_, stop) ← block fuel (skipGap outside (← scopeHead c))
      return stop
  | fuel + 1, .keyframes, c => do
      let place := skipGap outside c
      let name ← word "keyframes_name" (identifierLength place.rest) place
      let start ← expect '{' (skipGap outside name.2)
      frames fuel start

def atRule : Nat → Level → (start keyword : Cursor) → Option (Node × Cursor)
  | 0, _, _, _ => none
  | fuel + 1, level, start, keyword => do
      let (front, place) ← queries level.reading keyword
      let front := nodeAt "at_keyword" start keyword [] :: front
      match expect ';' place with
      | some stop => return (nodeAt "at_rule" start stop front, stop)
      | none =>
          let (body, stop) ← block fuel place
          return (nodeAt "at_rule" start stop (front ++ [body]), stop)

def ruleSet : Nat → Cursor → Option (Node × Cursor)
  | 0, _ => none
  | fuel + 1, c => do
      let (front, behind) ← selectors c
      let (comments, place) := gapAt outside behind
      let (body, stop) ← block fuel place
      return (nodeAt "rule_set" c stop (front :: comments ++ [body]), stop)

def item : Nat → Level → Cursor → Option (Node × Cursor)
  | 0, _, _ => none
  | fuel + 1, level, c =>
      match c.peek? with
      | none | some '}' => none
      | some '@' =>
          let length := atKeywordLength c.rest
          let keyword := c.advance length
          match statement? (String.ofList (c.rest.take length)) with
          | some statement => do
              let stop ← statementEnd fuel statement keyword
              return (nodeAt statement.kind c stop [], stop)
          | none =>
              if length = 0 then none
              else
                (atRule fuel level c keyword).orElse fun _ => do
                  if level = .top then none
                  let (values, stop) ← plainValues (c.rest.length + 1) keyword
                  return (nodeAt "postcss_statement" c stop
                    (nodeAt "at_keyword" c keyword [] :: values), stop)
      | some _ => (declaration level.ending c).orElse fun _ => ruleSet fuel c

end

def Node.ofText (text : String) : Node :=
  let start : Cursor := { rest := text.toList }
  let (nodes, place) := items (4 * text.length + 4) .top start.skipMark
  let stop := place.toEnd
  if place.rest.isEmpty then nodeAt "stylesheet" start stop nodes
  else
    let error := nodeAt "ERROR" place stop []
    let faulty (n : Node) : Node := .mk { n.label with faulty := true } n.children
    faulty (nodeAt "stylesheet" start stop (nodes ++ [faulty error]))

end Palette.Stylesheet
