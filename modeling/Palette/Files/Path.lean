import Palette.Text.Quoted

/-!
Paths of files. A path is the slashes it starts with and its parts; empty parts and single dots say
nothing and are left out.
-/

namespace Palette.Files

structure Path where
  /-- Empty for a path from the working directory. -/
  root : String := ""
  parts : List String := []
  deriving DecidableEq, Repr

namespace Path

def pieces : List Char → List (List Char)
  | [] => [[]]
  | c :: cs =>
      if c = '/' then [] :: pieces cs
      else
        match pieces cs with
        | first :: rest => (c :: first) :: rest
        | [] => [[c]]

/-- One slash and three or more are the same; two are a root of their own. -/
def rootOf (slashes : Nat) : String :=
  if slashes = 0 then "" else if slashes = 2 then "//" else "/"

def ofString (s : String) : Path where
  root := rootOf (s.toList.takeWhile (· = '/')).length
  parts := ((pieces s.toList).filter fun piece => piece ≠ [] ∧ piece ≠ ['.']).map String.ofList

def toString (p : Path) : String :=
  if p.root.isEmpty ∧ p.parts.isEmpty then "." else p.root ++ "/".intercalate p.parts

instance : ToString Path := ⟨Path.toString⟩

/-- A path below another; one with a root stands for itself. -/
def join (p q : Path) : Path :=
  if q.root.isEmpty then { p with parts := p.parts ++ q.parts } else q

/-- The directory above a place. Above the working directory only double dots lead on. -/
def above (p : Path) : Path :=
  match p.parts.getLast? with
  | none => if p.root.isEmpty then { p with parts := [".."] } else p
  | some last => { p with parts := if last = ".." then p.parts ++ [".."] else p.parts.dropLast }

def isUpward (p : Path) : Bool := p.parts.all (· = "..")

def name (p : Path) : String := p.parts.getLast?.getD ""

/-- Cuts a name at its last dot, unless that is its first or last character. -/
def splitName (name : String) : String × String :=
  let behind := name.toList.reverse.takeWhile (· ≠ '.')
  let front := name.length - behind.length
  if behind.isEmpty ∨ front ≤ 1 then (name, "")
  else
    (String.ofList (name.toList.take (front - 1)), String.ofList (name.toList.drop (front - 1)))

def stem (p : Path) : String := (splitName p.name).1

/-- The path with another suffix, in place of the one it has; there is none for an empty name. -/
def withSuffix? (p : Path) (suffix : String) : Option Path :=
  if p.name.isEmpty then none
  else some { p with parts := p.parts.dropLast ++ [p.stem ++ suffix] }

end Path

end Palette.Files
