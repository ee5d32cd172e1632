import Palette.Files.Path
import Palette.Ordered

/-!
A tree of files and directories, kept flat: each place, which is a path without dots, has an entry.
Where paths start is always a directory.

Trees change by edits. An edit may be refused half way, and then what it did before stays.
-/

namespace Palette.Files

inductive Entry where
  | file (content : List UInt8)
  | directory
  deriving DecidableEq, Repr

abbrev Tree := List (Path × Entry)

inductive Cause where
  | missing
  | exists
  | notDirectory
  | isDirectory
  /-- A path, or one part of it, is too long. -/
  | tooLong
  /-- A path has a null character in it. -/
  | nullCharacter
  deriving DecidableEq, Repr

structure Error where
  cause : Cause
  path : Path
  deriving DecidableEq, Repr

def Cause.message : Cause → String
  | .missing => "[Errno 2] No such file or directory"
  | .exists => "[Errno 17] File exists"
  | .notDirectory => "[Errno 20] Not a directory"
  | .isDirectory => "[Errno 21] Is a directory"
  | .tooLong => "[Errno 36] File name too long"
  | .nullCharacter => "embedded null byte"

def Error.message (e : Error) : String :=
  if e.cause = .nullCharacter then e.cause.message
  else e.cause.message ++ ": " ++ Text.quoted e.path.toString

def longestName : Nat := 255

def longestPath : Nat := 4095

namespace Tree

def at? (files : Tree) (place : Path) : Option Entry :=
  if place.isUpward then some .directory else files.lookup place

/-- The place that the parts of a path lead to from a directory. All but the last must be there. -/
def locate (files : Tree) : Path → List String → Except Cause Path
  | here, [] => .ok here
  | here, part :: rest =>
      if part.utf8ByteSize > longestName then .error .tooLong
      else if part = ".." then files.locate here.above rest
      else
        let place := { here with parts := here.parts ++ [part] }
        match rest, files.at? place with
        | [], _ => .ok place
        | _, some .directory => files.locate place rest
        | _, some (.file _) => .error .notDirectory
        | _, none => .error .missing

def placeOf (files : Tree) (path : Path) : Except Error Path :=
  if path.toString.toList.contains (Char.ofNat 0) then .error ⟨.nullCharacter, path⟩
  else if path.toString.utf8ByteSize > longestPath then .error ⟨.tooLong, path⟩
  else (files.locate { root := path.root } path.parts).mapError fun cause => ⟨cause, path⟩

def read (files : Tree) (path : Path) : Except Error (List UInt8) := do
  match files.at? (← files.placeOf path) with
  | some (.file content) => return content
  | some .directory => throw ⟨.isDirectory, path⟩
  | none => throw ⟨.missing, path⟩

def isDirectory (files : Tree) (path : Path) : Bool :=
  match files.placeOf path with
  | .ok place => files.at? place = some .directory
  | .error _ => false

end Tree

/-- A change to a tree. What was done before it is refused stays. -/
abbrev Edit (α : Type) := ExceptT Error (StateM Tree) α

namespace Edit

def find (path : Path) : Edit (Path × Option Entry) := do
  let files ← get
  let place ← ExceptT.mk (pure (files.placeOf path))
  return (place, files.at? place)

def put (place : Path) (entry : Entry) : Edit Unit := modify (Ordered.put place entry)

def write (path : Path) (content : List UInt8) : Edit Unit := do
  match ← find path with
  | (_, some .directory) => throw ⟨.isDirectory, path⟩
  | (place, _) => put place (.file content)

def touch (path : Path) : Edit Unit := do
  match ← find path with
  | (_, some _) => return
  | (place, none) => put place (.file [])

def makeDirectory (path : Path) : Edit Unit := do
  match ← find path with
  | (_, some _) => throw ⟨.exists, path⟩
  | (place, none) => put place .directory

def ensureDirectory (path : Path) : Edit Unit :=
  tryCatch (makeDirectory path) fun e => do
    if e.cause = .missing ∨ !(← get).isDirectory path then throw e

/-- A directory and those above it, given the parts of its path from the last to the first. -/
def ensureParts (root : String) : List String → Edit Unit
  | [] => ensureDirectory { root }
  | part :: above =>
      let path : Path := { root, parts := (part :: above).reverse }
      tryCatch (ensureDirectory path) fun e => do
        if e.cause = .missing then
          ensureParts root above
          ensureDirectory path
        else throw e

def ensureDirectories (path : Path) : Edit Unit := ensureParts path.root path.parts.reverse

end Edit

end Palette.Files
