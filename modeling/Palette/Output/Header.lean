import Palette.Layout.Item
import Palette.Printer

/-!
The header of the theme class. Its structs follow the layout: a definition is a named struct, an
item a struct member, and a color a member of type `QColor`.
-/

namespace Palette.Output

open Printer Layout

/-- Names in the generated sources. -/
structure Names where
  className : String := "GeneratedTheme"
  /-- The namespace around the class. -/
  scope : String := "chatterino::theme"
  /-- The name of the generated files, without their suffix. -/
  baseName : String := "GeneratedTheme"

variable {ε : Type}

def structMember (name : String) (body : Program ε) : Program ε :=
  [.line "", .block "struct \x7b" s!"\x7d {name};" body]

mutual

def member : Item → Program ε
  | .field name => [.line s!"QColor {name};"]
  | .ref name referenced _ => [.line s!"{referenced} {name};"]
  | .struct name fields _ => structMember name (members fields)

def members : List Item → Program ε
  | [] => []
  | item :: rest => member item ++ members rest

end

def definitionStruct (entry : String × Definition) : Step ε :=
  .block s!"struct {entry.1} \x7b" "\x7d;" (members entry.2.fields)

/-- A section of the class, one level deeper than its label. -/
def underLabel (label : String) (body : Program ε) : Program ε :=
  [.line label, .indent] ++ body ++ [.dedent]

def headerStart (layout : Layout) (names : Names) : Program ε :=
  [.lines ["#pragma once", "", "#include <QColor>", "#include <QString>", ""],
    .line s!"namespace {names.scope} \x7b",
    .line s!"class {names.className} \x7b"] ++
  underLabel "public:"
    (layout.definitions.map definitionStruct ++
      (layout.items.flatMap fun item => structMember item.1 (members item.2)) ++
      [.line s!"{names.className}();"]) ++
  [.line ""] ++
  underLabel "protected:"
    [.line "bool setColor(const QLatin1String &name, QColor color);",
      .line "void reset();",
      .line "void applyChanges();"] ++
  [.line ""]

def header (layout : Layout) (names : Names) : Program ε :=
  headerStart layout names ++
  underLabel "private:" [.line s!"QColor colors_[{layout.count}];"] ++
  [.line "\x7d;", .line s!"\x7d  // namespace {names.scope}"]

end Palette.Output
