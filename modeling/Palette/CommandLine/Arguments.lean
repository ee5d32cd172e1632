import Palette.Text.Digit

/-!
Reading command line arguments. An option is written `--name` or shortened to any beginning that
fits no other option, its value behind it or after an equals sign; short options may be joined.
Operands stand together in one place. Behind `--` everything is an operand.
-/

namespace Palette.CommandLine

structure OptionForm (κ : Type) where
  key : κ
  long : String
  short : Option Char := none
  takesValue : Bool := false

inductive Operands where
  | none
  | one
  | many
  deriving DecidableEq, Repr

structure Form (κ : Type) where
  options : List (OptionForm κ)
  operands : Operands

variable {κ : Type}

inductive Attached where
  | nothing
  /-- Behind an equals sign. -/
  | value (text : List Char)
  /-- Behind a short option, without a sign between them. -/
  | joined (text : List Char)

inductive Word (κ : Type) where
  | option (form : OptionForm κ) (attached : Attached)
  /-- It looks like an option and is none. -/
  | stranger
  | divider
  | plain (text : String)

inductive Misuse where
  | misuse
  deriving DecidableEq, Repr

def Form.named (form : Form κ) (name : List Char) : List (OptionForm κ) :=
  form.options.filter fun o => name.isPrefixOf ('-' :: '-' :: o.long.toList)

def Form.exact? (form : Form κ) (name : List Char) : Option (OptionForm κ) :=
  match name with
  | ['-', c] => form.options.find? fun o => o.short = some c
  | _ => form.options.find? fun o => '-' :: '-' :: o.long.toList = name

def dropFinalFeed (cs : List Char) : List Char :=
  if cs.getLast? = some '\n' then cs.dropLast else cs

/-- A negative decimal number is no option; a line feed may follow it. -/
def isNegativeNumber : List Char → Bool
  | '-' :: rest =>
      let digits (cs : List Char) := !cs.isEmpty && cs.all fun c => (Text.digitValue? c).isSome
      let (whole, tail) := (dropFinalFeed rest).span (· ≠ '.')
      match tail with
      | [] => digits whole
      | _ :: fraction => (whole.isEmpty || digits whole) && digits fraction
  | _ => false

def splitAtEquals (cs : List Char) : List Char × Attached :=
  match cs.span (· ≠ '=') with
  | (name, _ :: value) => (name, .value value)
  | (name, []) => (name, .nothing)

/-- What is attached to a short option by an equals sign. Options may be joined to one that takes no
value even then. -/
def Attached.behindShort (option : OptionForm κ) : Attached → Attached
  | .value (c :: text) => if option.takesValue then .value (c :: text) else .joined (c :: text)
  | attached => attached

def unmatched (argument : String) : Word κ :=
  if isNegativeNumber argument.toList || argument.contains ' ' then .plain argument else .stranger

def Form.word (form : Form κ) (argument : String) : Except Misuse (Word κ) :=
  let cs := argument.toList
  match cs with
  | '-' :: second :: rest =>
      let (name, attached) := splitAtEquals cs
      match form.exact? cs, form.exact? name with
      | some option, _ => .ok (.option option .nothing)
      | none, some option =>
          .ok (.option option (if second = '-' then attached else attached.behindShort option))
      | none, none =>
          if second = '-' then
            match form.named name with
            | [option] => .ok (.option option attached)
            | [] => .ok (unmatched argument)
            | _ => .error .misuse
          else
            match form.exact? ['-', second] with
            | some option => .ok (.option option (.joined rest))
            | none => .ok (unmatched argument)
  | _ => .ok (.plain argument)

def Form.words (form : Form κ) : List String → Except Misuse (List (Word κ))
  | [] => .ok []
  | argument :: rest =>
      if argument = "--" then .ok (.divider :: rest.map .plain)
      else do return (← form.word argument) :: (← form.words rest)

/-- Options with their values, in order; a plain one has the empty value. -/
abbrev Chosen (κ : Type) := List (κ × String)

inductive Phase where
  | waiting
  | reading
  | closed

structure Reading (κ : Type) where
  options : Chosen κ := []
  operands : List String := []
  phase : Phase := .waiting

def Reading.choose (r : Reading κ) (key : κ) (value : String) : Reading κ :=
  { r with options := r.options ++ [(key, value)] }

def Reading.close (r : Reading κ) : Reading κ :=
  match r.phase with
  | .waiting => r
  | _ => { r with phase := .closed }

/-- Joined short options. The last of them may lack its value, which is then still to come. -/
def joinedOptions (form : Form κ) :
    OptionForm κ → List Char → Reading κ → Except Misuse (Reading κ × Option κ)
  | option, [], r =>
      if option.takesValue then .ok (r, some option.key) else .ok (r.choose option.key "", none)
  | option, c :: rest, r =>
      if option.takesValue then .ok (r.choose option.key (String.ofList (c :: rest)), none)
      else
        match form.exact? ['-', c] with
        | some next => joinedOptions form next rest (r.choose option.key "")
        | none => .error .misuse

def takeOption (form : Form κ) (r : Reading κ) (option : OptionForm κ) :
    Attached → Except Misuse (Reading κ × Option κ)
  | .nothing =>
      if option.takesValue then .ok (r, some option.key) else .ok (r.choose option.key "", none)
  | .value text =>
      if option.takesValue then .ok (r.choose option.key (String.ofList text), none)
      else .error .misuse
  | .joined text => joinedOptions form option text r

def takePlain (operands : Operands) (r : Reading κ) (text : String) :
    Except Misuse (Reading κ) :=
  match operands, r.phase with
  | .one, .waiting | .many, .waiting | .many, .reading =>
      .ok { r with operands := r.operands ++ [text], phase := .reading }
  | _, _ => .error .misuse

def takeDivider (operands : Operands) (r : Reading κ) : Except Misuse (Reading κ) :=
  match operands, r.phase with
  | .none, _ | _, .closed => .error .misuse
  | _, _ => .ok r

/-- Reads words; `pending` is an option that waits for its value. -/
def Form.take (form : Form κ) : Option κ → Reading κ → List (Word κ) → Except Misuse (Reading κ)
  | some key, r, .plain text :: rest => form.take none (r.choose key text) rest
  | some _, _, _ => .error .misuse
  | none, r, [] => .ok r
  | none, r, .option option attached :: rest => do
      let (next, pending) ← takeOption form r.close option attached
      form.take pending next rest
  | none, _, .stranger :: _ => .error .misuse
  | none, r, .divider :: rest => do form.take none (← takeDivider form.operands r) rest
  | none, r, .plain text :: rest => do form.take none (← takePlain form.operands r text) rest

def Form.read (form : Form κ) (arguments : List String) :
    Except Misuse (Chosen κ × List String) := do
  let r ← form.take none {} (← form.words arguments)
  if form.operands ≠ .none ∧ r.operands.isEmpty then .error .misuse
  else return (r.options, r.operands)

end Palette.CommandLine
