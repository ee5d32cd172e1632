/-!
An indentation-aware printer. What is to be printed is a value: a program of steps, which may fail
at one of them. A block prints its closing line also when its body failed, so its body's depth never
leaks out.
-/

namespace Palette

structure Printer where
  /-- Text of one level of indentation. -/
  unit : String
  depth : Nat := 0
  text : String := ""
  /-- Whether the written text can be read back. -/
  readable : Bool := true

namespace Printer

/-- Why a step failed: on its own account, or by an error `ε` of what is being printed. -/
inductive Fault (ε : Type) where
  | dedentAtZero
  | notReadable
  | raised (error : ε)

def Fault.message {ε : Type} (describe : ε → String) : Fault ε → String
  | .dedentAtZero => "Cannot dedent - indent was 0"
  | .notReadable => "getvalue() needs an in-memory printer"
  | .raised error => describe error

inductive Step (ε : Type) where
  | indent
  | dedent
  /-- The indentation of a line, alone. -/
  | beginLine
  | write (text : String)
  | line (text : String)
  | lines (texts : List String)
  /-- Reads back all that was written. -/
  | contents
  /-- A failure behind what was written before it; a write that the writer refuses is one. -/
  | fail (error : ε)
  | block (opening closing : String) (body : List (Step ε))

abbrev Program (ε : Type) := List (Step ε)

def indentation (p : Printer) : String := String.join (List.replicate p.depth p.unit)

def write (p : Printer) (text : String) : Printer := { p with text := p.text ++ text }

/-- A line at the current depth. An empty line has no indentation. -/
def line (p : Printer) (text : String) : Printer :=
  if text.isEmpty then p.write "\n" else p.write (p.indentation ++ text ++ "\n")

def indent (p : Printer) : Printer := { p with depth := p.depth + 1 }

def dedent? (p : Printer) : Option Printer :=
  match p.depth with
  | 0 => none
  | depth + 1 => some { p with depth := depth }

/-- Ends a block: one level less, then the closing line if there is one. -/
def closeBlock (p : Printer) (closing : String) : Option Printer :=
  p.dedent?.map fun outer => if closing.isEmpty then outer else outer.line closing

variable {ε δ : Type}

mutual

/-- Runs one step. Only `contents` gives a value. -/
def Step.run : Step ε → Printer → Printer × Except (Fault ε) (Option String)
  | .indent, p => (p.indent, .ok none)
  | .dedent, p =>
      match p.dedent? with
      | some outer => (outer, .ok none)
      | none => (p, .error .dedentAtZero)
  | .beginLine, p => (p.write p.indentation, .ok none)
  | .write text, p => (p.write text, .ok none)
  | .line text, p => (p.line text, .ok none)
  | .lines texts, p => (texts.foldl line p, .ok none)
  | .contents, p => if p.readable then (p, .ok (some p.text)) else (p, .error .notReadable)
  | .fail error, p => (p, .error (.raised error))
  | .block opening closing body, p =>
      match runAll body (p.line opening).indent with
      | (inner, outcome) =>
          match inner.closeBlock closing, outcome with
          | none, _ => (inner, .error .dedentAtZero)
          | some outer, .ok _ => (outer, .ok none)
          | some outer, .error fault => (outer, .error fault)

def runAll : List (Step ε) → Printer → Printer × Except (Fault ε) Unit
  | [], p => (p, .ok ())
  | step :: rest, p =>
      match step.run p with
      | (next, .ok _) => runAll rest next
      | (next, .error fault) => (next, .error fault)

end

structure Report (ε : Type) where
  depth : Nat
  written : String
  outcome : Except (Fault ε) (Option String)

/-- Runs every step, also after one that failed, and reports each. -/
def session : Printer → List (Step ε) → List (Report ε)
  | _, [] => []
  | p, step :: rest =>
      let (next, outcome) := step.run p
      ⟨next.depth, (next.text.drop p.text.length).toString, outcome⟩ :: next.session rest

mutual

def Step.mapError (f : ε → δ) : Step ε → Step δ
  | .indent => .indent
  | .dedent => .dedent
  | .beginLine => .beginLine
  | .write text => .write text
  | .line text => .line text
  | .lines texts => .lines texts
  | .contents => .contents
  | .fail error => .fail (f error)
  | .block opening closing body => .block opening closing (mapErrors f body)

def mapErrors (f : ε → δ) : List (Step ε) → List (Step δ)
  | [] => []
  | step :: rest => step.mapError f :: mapErrors f rest

end

def render (unit : String) (program : Program ε) : String × Except (Fault ε) Unit :=
  match runAll program { unit } with
  | (p, outcome) => (p.text, outcome)

end Printer

end Palette
