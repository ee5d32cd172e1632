import Palette.CommandLine.Command
import Palette.Excerpt
import Palette.Pipeline.Generate

/-!
Running a command on a tree of files: what it prints, how it ends, and the files it leaves.
-/

namespace Palette.CommandLine

open Pipeline

inductive Ending where
  | exit (code : Nat)
  /-- The arguments do not make a command. -/
  | misuse
  /-- A failure that the command does not explain. -/
  | failed (failure : Failure)

structure Outcome where
  ending : Ending
  stdout : String := ""
  stderr : String := ""
  files : Files.Tree

def usage : String :=
  "usage: stylegen [--verbose] code [--layout FILE] [--output-dir DIR] [--timestamp] STYLE\n" ++
  "       stylegen [--verbose] theme [--output-dir DIR] [--timestamp] STYLE\n" ++
  "       stylegen [--verbose] matcher [--language NAME] KEY...\n"

def numbered (keys : List String) : List (KeyTrie.Key × Int) :=
  keys.zipIdx.map fun entry => (Text.encode entry.1, (entry.2 : Int))

def Invocation.job (invocation : Invocation) : Job String := do
  let summary (r : Report) := if invocation.verbose then r.text ++ "\n" else ""
  match invocation.command with
  | .code style layout settings => return summary (← generateCode layout style settings)
  | .theme style settings => return summary (← generateTheme style settings)
  | .matcher keys language => lookupFunction (numbered keys) language "\t"
  | .help => return usage

def Invocation.logText (invocation : Invocation) (log : List Log.Entry) : String :=
  if invocation.verbose then Log.text .info Log.Entry.line log
  else Log.text .warning Log.Entry.message log

def Command.style? : Command → Option String
  | .code style _ _ => some style
  | .theme style _ => some style
  | _ => none

def defectText (style : String) (files : Files.Tree) (defect : Theme.Defect) (line column : Nat) :
    String :=
  match (readText (.ofString style)).run.run { files } with
  | (.ok source, _) => Excerpt.render style source defect.message line column ++ "\n"
  | (.error _, _) => Excerpt.bare style defect.message line column ++ "\n"

def Command.explain (command : Command) (files : Files.Tree) : Failure → Option String
  | .theme (.defect defect line column) =>
      some (defectText (command.style?.getD "") files defect line column)
  | failure => if failure.isExpected then some s!"error: {failure.message}\n" else none

def Invocation.run (invocation : Invocation) (files : Files.Tree) (seconds : Seconds) : Outcome :=
  let (result, w) := invocation.job.run.run { files, seconds }
  let log := invocation.logText w.log
  match result with
  | .ok text => { ending := .exit 0, stdout := text, stderr := log, files := w.files }
  | .error failure =>
      match invocation.command.explain w.files failure with
      | some text => { ending := .exit 1, stderr := log ++ text, files := w.files }
      | none => { ending := .failed failure, stderr := log, files := w.files }

def run (arguments : List String) (files : Files.Tree) (seconds : Seconds) : Outcome :=
  match Invocation.ofArguments arguments with
  | .ok invocation => invocation.run files seconds
  | .error _ => { ending := .misuse, files }

end Palette.CommandLine
