import Palette.Decimal.Read
import Palette.Yaml.Error

/-!
Dates and moments in text: a date, and behind a blank or the letter T a time of day. The seconds may
have a fraction, of which microseconds count, and a zone may follow.
-/

namespace Palette.Yaml

/-- A date and a time of day as they are written, whether they exist or not. -/
structure Timestamp where
  year : List Char
  month : List Char
  day : List Char
  clock : Option Clock

namespace Timestamp

def digitRun? (least most : Nat) (cs : List Char) : Option (List Char × List Char) :=
  let run := (cs.take most).takeWhile Char.isDigit
  if run.length < least then none else some (run, cs.drop run.length)

def isGap (c : Char) : Bool := c = ' ' || c = '\t'

def zoneMinutes? : List Char → Option Nat
  | [] => some 0
  | ':' :: rest => do
      let (minutes, []) ← digitRun? 2 2 rest | none
      return Decimal.digitsValue minutes
  | _ => none

def zone? : List Char → Option Int
  | ['Z'] => some 0
  | sign :: rest => do
      guard (sign = '-' || sign = '+')
      let (hours, behind) ← digitRun? 1 2 rest
      let minutes ← zoneMinutes? behind
      let total := Decimal.digitsValue hours * 60 + minutes
      return if sign = '-' then -(total : Int) else total
  | [] => none

def microseconds (fraction : List Char) : Nat :=
  Decimal.digitsValue ((fraction ++ List.replicate 6 '0').take 6)

def clock? (cs : List Char) : Option Clock := do
  let (hour, ':' :: cs) ← digitRun? 1 2 cs | none
  let (minute, ':' :: cs) ← digitRun? 2 2 cs | none
  let (second, cs) ← digitRun? 2 2 cs
  let (fraction, cs) := match cs with
    | '.' :: rest => rest.span Char.isDigit
    | _ => ([], cs)
  let zone ← if cs.isEmpty then some none else (zone? (cs.dropWhile isGap)).map some
  return ⟨Decimal.digitsValue hour, Decimal.digitsValue minute, Decimal.digitsValue second,
    microseconds fraction, zone⟩

def behindGap? : List Char → Option (List Char)
  | c :: rest =>
      if c = 'T' || c = 't' then some rest
      else if isGap c then some (rest.dropWhile isGap)
      else none
  | [] => none

def ofChars? (cs : List Char) : Option Timestamp := do
  let (year, '-' :: cs) ← digitRun? 4 4 cs | none
  let (month, '-' :: cs) ← digitRun? 1 2 cs | none
  let (day, cs) ← digitRun? 1 2 cs
  let clock ← if cs.isEmpty then some none else ((behindGap? cs).bind clock?).map some
  return ⟨year, month, day, clock⟩

/-- Whether a plain text is a date or a moment. A date alone has two digits for the month and for
the day. -/
def isPlain (cs : List Char) : Bool :=
  (ofChars? cs).any fun t => t.clock.isSome || (t.month.length = 2 && t.day.length = 2)

end Timestamp

def Day.ofNumbers (year month day : Nat) : Except Error Day :=
  if year = 0 then .error (.noSuchYear year)
  else if month = 0 || month > 12 then .error .noSuchMonth
  else if day = 0 || day > daysIn year month then .error .noSuchDay
  else .ok ⟨year, month, day⟩

def Clock.checkZone (c : Clock) : Except Error Unit :=
  match c.zone with
  | some minutes => if minutes.natAbs < 1440 then .ok () else .error (.noSuchZone minutes)
  | none => .ok ()

def Clock.check (c : Clock) : Except Error Unit :=
  if c.hour > 23 then .error .noSuchHour
  else if c.minute > 59 then .error .noSuchMinute
  else if c.second > 59 then .error .noSuchSecond
  else .ok ()

def Timestamp.value (t : Timestamp) : Except Error (Day ⊕ Moment) := do
  t.clock.forM Clock.checkZone
  let day ← Day.ofNumbers (Decimal.digitsValue t.year) (Decimal.digitsValue t.month)
    (Decimal.digitsValue t.day)
  match t.clock with
  | none => return .inl day
  | some clock =>
      clock.check
      return .inr ⟨day, clock⟩

end Palette.Yaml
