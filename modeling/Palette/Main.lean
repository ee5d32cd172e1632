import Palette.CommandLine.Run

/-!
The command line program. It looks at the paths that a command names, runs the command on what it
found, and carries the changes over to the file system. The time that it reports is the time it took
to look.
-/

namespace Palette.CommandLine

open Files

def lookAt (path : String) : IO (Option Entry) := do
  try
    return some (.file (← IO.FS.readBinFile path).toList)
  catch
    | .inappropriateType .. => return some .directory
    | _ => return none

def lookAlong (path : Path) : IO Tree := do
  let mut files : Tree := []
  let mut here : Path := { root := path.root }
  let mut passed : Path := { root := path.root }
  for part in path.parts do
    passed := { passed with parts := passed.parts ++ [part] }
    if part = ".." then
      here := here.above
    else
      here := { here with parts := here.parts ++ [part] }
      let found ← lookAt passed.toString
      if let some entry := found then
        files := Ordered.put here entry files
      if found ≠ some .directory then
        return files
  return files

def snapshot (paths : List Path) : IO Tree := do
  let mut files : Tree := []
  for path in paths do
    for (place, entry) in ← lookAlong path do
      files := Ordered.put place entry files
  return files

def store (before after : Tree) : IO Unit := do
  for (place, entry) in after do
    unless before.lookup place = some entry do
      match entry with
      | .file content => IO.FS.writeBinFile place.toString ⟨content.toArray⟩
      | .directory => IO.FS.createDirAll place.toString

def conclude (outcome : Outcome) : IO UInt32 := do
  IO.print outcome.stdout
  IO.eprint outcome.stderr
  match outcome.ending with
  | .exit code => return code.toUInt32
  | .misuse =>
      IO.eprint usage
      return 2
  | .failed failure =>
      IO.eprintln failure.message
      return 1

end Palette.CommandLine

open Palette CommandLine in
def main (arguments : List String) : IO UInt32 := do
  let paths := match Invocation.ofArguments arguments with
    | .ok invocation => invocation.command.paths
    | .error _ => []
  let start ← IO.monoNanosNow
  let files ← snapshot paths
  let stop ← IO.monoNanosNow
  let seconds := Float.ofNat (stop - start) / 1000000000
  let outcome := CommandLine.run arguments files (.measured seconds)
  store files outcome.files
  conclude outcome
