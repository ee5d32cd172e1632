import Palette.Decimal.Binary
import Palette.Files.Path

/-!
What a run made, in numbers.
-/

namespace Palette.Pipeline

inductive Seconds where
  | whole (value : Int)
  | measured (value : Float)

inductive TimeError where
  | tooLong
  deriving DecidableEq, Repr

def TimeError.message : TimeError → String
  | .tooLong => "int too large to convert to float"

/-- A whole number of seconds; a double has to hold its milliseconds. -/
def Seconds.ofInteger (value : Int) : Except TimeError Seconds :=
  if (Decimal.ofInteger (value * 1000)).isInf then .error .tooLong else .ok (.whole value)

structure Report where
  colorCount : Int := 0
  keyCount : Int := 0
  nodeCount : Int := 0
  shortestKey : Int := 0
  /-- Time of the run. -/
  seconds : Seconds := .measured 0.0
  written : List Files.Path := []

/-- A time in milliseconds with one decimal place, rounded once if it is whole. -/
def Seconds.milliseconds : Seconds → String
  | .whole value => Decimal.onePlace (Decimal.ofInteger (value * 1000)) ++ "ms"
  | .measured value => Decimal.onePlace (value * 1000) ++ "ms"

def Report.lines (r : Report) : List String :=
  ["═══ Generation Statistics ═══",
    s!"  Colors        : {r.colorCount}",
    s!"  Matcher keys  : {r.keyCount}",
    s!"  Trie nodes    : {r.nodeCount}",
    s!"  Shortest key  : {r.shortestKey}",
    s!"  Total time    : {r.seconds.milliseconds}"] ++
  r.written.map fun path => s!"  Wrote {path}"

def Report.text (r : Report) : String := "\n".intercalate r.lines

end Palette.Pipeline
