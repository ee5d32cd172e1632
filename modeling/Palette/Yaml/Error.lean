import Palette.Text.Quoted
import Palette.Yaml.Moment

/-!
What can be wrong with a YAML text. Nearly everything makes it unreadable; a few scalars are well
formed and still denote nothing.
-/

namespace Palette.Yaml

inductive Problem where
  /-- A character that no text may hold. -/
  | character
  /-- Characters that form no token, or a token at a place where it may not stand. -/
  | token
  /-- Tokens that form no document, or more than one. -/
  | document
  /-- An alias without an anchor, or an anchor given twice. -/
  | reference
  /-- A node whose tag or keys give no value. -/
  | value
  deriving DecidableEq, Repr

inductive Error where
  | unreadable (problem : Problem)
  | noTruthValue (text : String)
  /-- A number without any character, a sign apart. -/
  | emptyNumber
  | noInteger (base : Nat) (text : String)
  | tooManyDigits (count : Nat)
  | noReal (text : String)
  /-- A place of a number that no double can weigh. -/
  | placeTooHigh
  | noMoment
  | noSuchYear (year : Nat)
  | noSuchMonth
  | noSuchDay
  | noSuchHour
  | noSuchMinute
  | noSuchSecond
  /-- A zone a day or more away from universal time. -/
  | noSuchZone (minutes : Int)
  /-- An escaped code point beyond the last one. -/
  | noSuchCharacter
  /-- An escaped code point of more than 31 bits. -/
  | characterTooLarge
  deriving DecidableEq, Repr

def Problem.message : Problem → String
  | .character => "a character that no text may hold"
  | .token => "characters that form no token"
  | .document => "tokens that form no document"
  | .reference => "an alias without an anchor"
  | .value => "a node without a value"

def mostDigits : Nat := 4300

/-- The text between quotes, of which a message shows 200 characters at most. -/
def shown (text : String) : String := String.ofList ((Text.quoted text).toList.take 200)

def Error.message : Error → String
  | .unreadable problem => problem.message
  | .noTruthValue text => Text.quoted text
  | .emptyNumber => "string index out of range"
  | .noInteger base text => s!"invalid literal for int() with base {base}: " ++ shown text
  | .tooManyDigits count =>
      s!"Exceeds the limit ({mostDigits} digits) for integer string conversion: " ++
        s!"value has {count} digits; use sys.set_int_max_str_digits() to increase the limit"
  | .noReal text => "could not convert string to float: " ++ Text.quoted text
  | .placeTooHigh => "int too large to convert to float"
  | .noMoment => "'NoneType' object has no attribute 'groupdict'"
  | .noSuchYear year => s!"year {year} is out of range"
  | .noSuchMonth => "month must be in 1..12"
  | .noSuchDay => "day is out of range for month"
  | .noSuchHour => "hour must be in 0..23"
  | .noSuchMinute => "minute must be in 0..59"
  | .noSuchSecond => "second must be in 0..59"
  | .noSuchZone minutes =>
      "offset must be a timedelta strictly between -timedelta(hours=24) and timedelta(hours=24)," ++
        " not " ++ spanText minutes ++ "."
  | .noSuchCharacter => "chr() arg not in range(0x110000)"
  | .characterTooLarge => "Python int too large to convert to C int"

end Palette.Yaml
