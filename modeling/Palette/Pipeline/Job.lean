import Palette.Files.Tree
import Palette.Layout.Resolve
import Palette.Log
import Palette.Output.ClassSource
import Palette.Pipeline.Report
import Palette.Theme.Parse

/-!
Jobs: runs that read and write files, report along the way and may fail. What was written and
reported before a failure stays.
-/

namespace Palette.Pipeline

inductive Failure where
  | file (error : Files.Error)
  /-- A file that should hold text does not. -/
  | undecodable
  | layout (failure : Layout.Failure)
  | theme (failure : Theme.Failure)
  | undefinedColor (error : Theme.UndefinedColor)
  /-- A layout refers to a definition that it does not have. -/
  | undefinedStruct (name : String)
  | output (fault : Printer.Fault Output.Error)
  | matcher (fault : Printer.Fault Matcher.Fault)
  | unknownLanguage (name : String)
  /-- A path without a name takes no suffix. -/
  | emptyName (path : Files.Path)

def Failure.message : Failure → String
  | .file error => error.message
  | .undecodable | .theme .undecodable => "the bytes are no text"
  | .layout failure => failure.message
  | .theme (.defect defect _ _) => defect.message
  | .theme .infinite => Rgba.ArgumentError.infinite.message
  | .theme (.outOfRange _) => "a channel is no byte"
  | .undefinedColor error => error.message
  | .undefinedStruct name => Text.quoted name
  | .output fault => fault.message Output.Error.message
  | .matcher fault => fault.message Matcher.Fault.message
  | .unknownLanguage name => Matcher.Dialect.unsupported name
  | .emptyName path => s!"PosixPath({Text.quoted path.toString}) has an empty name"

/-- Whether a failure is the fault of the input and can be explained as such. -/
def Failure.isExpected : Failure → Bool
  | .file error => error.cause ≠ .nullCharacter
  | .layout (.yaml (.unreadable _)) | .layout (.schema _) | .layout (.layout _)
  | .theme (.defect _ _ _) | .undefinedColor _ | .output (.raised (.missingRule _)) => true
  | _ => false

structure Workspace where
  files : Files.Tree := []
  log : List Log.Entry := []
  /-- Time that a run is said to take. -/
  seconds : Seconds := .measured 0.0

abbrev Job (α : Type) := ExceptT Failure (StateM Workspace) α

def report (level : Log.Level) (channel : Log.Channel) (message : String) : Job Unit :=
  modify fun w => { w with log := w.log ++ [⟨level, channel, message⟩] }

def info (message : String) : Job Unit := report .info .pipeline message

def lift {ε α : Type} (failure : ε → Failure) : Except ε α → Job α
  | .ok value => pure value
  | .error e => throw (failure e)

/-- Changes the files. What was changed before a refusal stays. -/
def change (edit : Files.Edit Unit) : Job Unit := do
  let (result, files) := edit.run.run (← get).files
  modify fun w => { w with files }
  lift .file result

def normalLineEnds : List Char → List Char
  | '\r' :: '\n' :: rest => '\n' :: normalLineEnds rest
  | '\r' :: rest => '\n' :: normalLineEnds rest
  | c :: rest => c :: normalLineEnds rest
  | [] => []

def readText (path : Files.Path) : Job String := do
  let content ← lift .file ((← get).files.read path)
  match Text.decode? content with
  | some text => return String.ofList (normalLineEnds text.toList)
  | none => throw .undecodable

/-- Prints a program into a file. What was printed before a fault is written too. -/
def writeProgram {ε : Type} (failure : Printer.Fault ε → Failure) (path : Files.Path)
    (program : Printer.Program ε) : Job Unit := do
  let (text, outcome) := Printer.render "\t" program
  change (.write path (Text.encode text))
  lift failure outcome

def withSuffix (path : Files.Path) (suffix : String) : Job Files.Path :=
  match path.withSuffix? suffix with
  | some named => pure named
  | none => throw (.emptyName path)

end Palette.Pipeline
