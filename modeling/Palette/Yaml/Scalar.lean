import Palette.Text.Base64
import Palette.Yaml.Number
import Palette.Yaml.Timestamp

/-!
Scalars and what a text denotes. A plain text that is no null, truth value, number or date is a
string; so are `1e3`, `09` and `y`.
-/

namespace Palette.Yaml

inductive Scalar where
  | null
  | bool (value : Bool)
  | integer (value : Int)
  /-- A number with a point. -/
  | real (value : Float)
  | date (value : Day)
  | moment (value : Moment)
  | bytes (value : List UInt8)
  | text (value : String)

inductive Kind where
  | null
  | bool
  | integer
  | real
  | timestamp
  | bytes
  | text
  | sequence
  | mapping
  | set
  /-- A list of pairs of a key and a value. -/
  | pairs
  /-- The mark of a mapping to merge. -/
  | merge
  /-- The mark of the entry that stands for a whole mapping where a scalar is wanted. -/
  | standIn
  /-- What denotes nothing. -/
  | other
  deriving DecidableEq, Repr

def Kind.isCollection : Kind → Bool
  | .sequence | .mapping | .set | .pairs => true
  | _ => false

def standardKinds : List (String × Kind) :=
  [("null", .null), ("bool", .bool), ("int", .integer), ("float", .real), ("timestamp", .timestamp),
   ("binary", .bytes), ("str", .text), ("seq", .sequence), ("map", .mapping), ("set", .set),
   ("omap", .pairs), ("pairs", .pairs), ("merge", .merge), ("value", .standIn)]

def Kind.ofTag (tag : String) : Kind :=
  ((standardKinds.find? fun entry => "tag:yaml.org,2002:" ++ entry.1 = tag).map (·.2)).getD .other

def truths : List String := ["yes", "Yes", "YES", "true", "True", "TRUE", "on", "On", "ON"]

def falsehoods : List String := ["no", "No", "NO", "false", "False", "FALSE", "off", "Off", "OFF"]

def nulls : List String := ["~", "null", "Null", "NULL"]

/-- What a text is that has no tag. A line feed at its end does not count. -/
def Kind.ofPlain (text : String) : Kind :=
  let cs := text.toList
  let body := if cs.getLast? = some '\n' then cs.dropLast else cs
  let word := String.ofList body
  if cs.isEmpty || nulls.contains word then .null
  else if truths.contains word || falsehoods.contains word then .bool
  else if word = "<<" then .merge
  else if word = "=" then .standIn
  else if ["!", "&", "*"].contains word then .other
  else if isReal body then .real
  else if isInteger body then .integer
  else if Timestamp.isPlain body then .timestamp
  else .text

def truthValue (text : String) : Except Error Bool :=
  let word := Text.lower text
  if truths.contains word then .ok true
  else if falsehoods.contains word then .ok false
  else .error (.noTruthValue word)

def timestamp (text : String) : Except Error Scalar :=
  let cs := text.toList
  let body := if cs.getLast? = some '\n' then cs.dropLast else cs
  match Timestamp.ofChars? body with
  | none => .error .noMoment
  | some written => do
      match ← written.value with
      | .inl day => return .date day
      | .inr moment => return .moment moment

def Scalar.ofText (kind : Kind) (text : String) : Except Error Scalar :=
  match kind with
  | .null => .ok .null
  | .bool => .bool <$> truthValue text
  | .integer => .integer <$> Yaml.integer text
  | .real => .real <$> Yaml.real text
  | .timestamp => timestamp text
  | .text => .ok (.text text)
  | .bytes =>
      match if text.toList.all (·.toNat < 128) then Text.Base64.decode? text else none with
      | some decoded => .ok (.bytes decoded)
      | none => .error (.unreadable .value)
  | _ => .error (.unreadable .value)

def isExactly (n : Int) (x : Float) : Bool :=
  match Decimal.Binary.ofFloat x with
  | .finite negative mantissa exponent =>
      n.natAbs * Nat.pow 2 (-exponent).toNat = mantissa * Nat.pow 2 exponent.toNat &&
        (n = 0 || (n < 0) = negative)
  | _ => false

/-- Whether two scalars are the same key of a mapping: truth values count as numbers. -/
def Scalar.sameKey : Scalar → Scalar → Bool
  | .null, .null => true
  | .text a, .text b => a = b
  | .bytes a, .bytes b => a = b
  | .date a, .date b => a = b
  | .moment a, .moment b => a.same b
  | .bool a, .bool b => a = b
  | .integer a, .integer b => a = b
  | .bool a, .integer b | .integer b, .bool a => (if a then 1 else 0) = b
  | .real a, .real b => a == b || (a.isNaN && b.isNaN)
  | .integer a, .real b | .real b, .integer a => isExactly a b
  | .bool a, .real b | .real b, .bool a => (if a then 1.0 else 0.0) == b
  | _, _ => false

end Palette.Yaml
