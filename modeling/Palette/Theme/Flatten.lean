import Palette.Printer
import Palette.Theme.Basic

/-!
Flat themes: every color of the rule tree under its dotted path, references resolved. Names are
compared without hyphens, underscores and the case of Latin letters, so a path is made of names in
that form. Where two leaves have one path, the later one counts and the earlier one gives the place.

A theme file holds what the theme says about itself, then one line `path=#aarrggbb` for each color,
ordered by path.
-/

namespace Palette

namespace Theme

def isFiller (c : Char) : Bool := c = '-' || c = '_'

/-- A name as it stands in a path. Letters beyond ASCII keep their case. -/
def normalName (name : String) : String :=
  String.ofList ((name.toList.filter fun c => !isFiller c).map Char.toLower)

/-- The path of a name below another path; the empty path is the top. -/
def below (outer name : String) : String :=
  if outer.isEmpty then normalName name else outer ++ "." ++ normalName name

structure UndefinedColor where
  name : String
  deriving DecidableEq, Repr

def UndefinedColor.message (e : UndefinedColor) : String :=
  s!"'{e.name}' was used but never defined anywhere"

mutual

def Rule.flattenInto (colors : Colors) (path : String) (out : Colors) :
    Rule → Except UndefinedColor Colors
  | .color value => .ok (Ordered.put path value out)
  | .ref name =>
      match colors.lookup name with
      | some value => .ok (Ordered.put path value out)
      | none => .error ⟨name⟩
  | .nest rules => flattenAllInto colors path out rules

def flattenAllInto (colors : Colors) (outer : String) (out : Colors) :
    List (String × Rule) → Except UndefinedColor Colors
  | [] => .ok out
  | (name, rule) :: rest =>
      match rule.flattenInto colors (below outer name) out with
      | .ok next => flattenAllInto colors outer next rest
      | .error e => .error e

end

structure Flat where
  about : About
  rules : Colors := []
  deriving DecidableEq, Repr

end Theme

def Theme.flatten (theme : Theme) : Except Theme.UndefinedColor Theme.Flat :=
  (Theme.flattenAllInto theme.colors "" [] theme.rules).map fun rules => ⟨theme.about, rules⟩

namespace Output

open Printer Theme

def sortedByPath (colors : Colors) : Colors := colors.mergeSort fun a b => a.1 ≤ b.1

def colorLine (entry : String × Rgba) : String := entry.1 ++ "=" ++ entry.2.toArgbHex

def themeFileLines (theme : Flat) : List String :=
  ["@meta", "author=" ++ theme.about.author, "iconset=" ++ theme.about.iconSet, "@colors"] ++
    (sortedByPath theme.rules).map colorLine

def themeFile {ε : Type} (theme : Flat) : Program ε := (themeFileLines theme).map .line

end Output

end Palette
