/-!
Days of the calendar and moments of a day, and how they are shown in the location of a violation.
-/

namespace Palette.Yaml

def isLeap (year : Nat) : Bool := year % 4 = 0 && (year % 100 ≠ 0 || year % 400 = 0)

def daysIn (year month : Nat) : Nat :=
  if month = 2 then (if isLeap year then 29 else 28)
  else if [4, 6, 9, 11].contains month then 30
  else 31

structure Day where
  year : Nat
  month : Nat
  day : Nat
  deriving DecidableEq, Repr

structure Clock where
  hour : Nat
  minute : Nat
  second : Nat
  microsecond : Nat
  /-- How many minutes the clock is ahead of universal time, if that is known. -/
  zone : Option Int
  deriving DecidableEq, Repr

structure Moment where
  day : Day
  clock : Clock
  deriving DecidableEq, Repr

def Day.number (d : Day) : Nat :=
  let before := d.year - 1
  let months := (List.range (d.month - 1)).map fun m => daysIn d.year (m + 1)
  before * 365 + before / 4 - before / 100 + before / 400 +
    months.foldr (· + ·) 0 + d.day

def Moment.instant (m : Moment) (zone : Int) : Int :=
  let minutes : Int := (m.day.number * 24 + m.clock.hour) * 60 + m.clock.minute
  ((minutes - zone) * 60 + m.clock.second) * 1000000 + m.clock.microsecond

/-- Whether two moments are the same. One whose zone is known differs from one whose zone is not. -/
def Moment.same (a b : Moment) : Bool :=
  match a.clock.zone, b.clock.zone with
  | none, none => a = b
  | some z, some w => a.instant z = b.instant w
  | _, _ => false

def Day.parts (d : Day) : List String := [toString d.year, toString d.month, toString d.day]

def Day.text (d : Day) : String := "datetime.date(" ++ ", ".intercalate d.parts ++ ")"

def spanText (minutes : Int) : String :=
  let days := Int.fdiv minutes 1440
  let seconds := Int.fmod minutes 1440 * 60
  let parts := (if days = 0 then [] else [s!"days={days}"]) ++
    (if seconds = 0 then [] else [s!"seconds={seconds}"])
  "datetime.timedelta(" ++ (if parts.isEmpty then "0" else ", ".intercalate parts) ++ ")"

def zoneText (minutes : Int) : String :=
  if minutes = 0 then "datetime.timezone.utc" else "datetime.timezone(" ++ spanText minutes ++ ")"

/-- Seconds are left out if there are none, and so are microseconds. -/
def Moment.text (m : Moment) : String :=
  let c := m.clock
  let fine :=
    if c.microsecond ≠ 0 then [toString c.second, toString c.microsecond]
    else if c.second ≠ 0 then [toString c.second]
    else []
  let zone := match c.zone with
    | some minutes => ["tzinfo=" ++ zoneText minutes]
    | none => []
  "datetime.datetime(" ++
    ", ".intercalate (m.day.parts ++ [toString c.hour, toString c.minute] ++ fine ++ zone) ++ ")"

end Palette.Yaml
