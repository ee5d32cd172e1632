import Palette.KeyTrie.Insert
import Palette.Layout.Flatten
import Palette.Matcher.Languages
import Palette.Output.Header
import Palette.Text.Utf8
import Palette.Theme.Flatten

/-!
The source of the theme class: the default colors, the wiring of its structs to the color array, and
the function that finds a color by its path.
-/

namespace Palette.Layout

open Theme

mutual

def FlatItem.leaves (outer : String) : FlatItem → List (String × Nat)
  | .field name id => [(below outer name, id)]
  | .struct name fields => leavesOf (below outer name) fields

def leavesOf (outer : String) : List FlatItem → List (String × Nat)
  | [] => []
  | item :: rest => item.leaves outer ++ leavesOf outer rest

end

def leaves (flat : List FlatStruct) : List (String × Nat) :=
  flat.flatMap fun s => leavesOf (below "" s.name) s.fields

end Palette.Layout

namespace Palette.Output

open Printer Layout KeyTrie

inductive Error where
  /-- The theme has no color for a path of the layout. -/
  | missingRule (path : String)
  | matcher (fault : Matcher.Fault)
  deriving DecidableEq, Repr

def Error.message : Error → String
  | .missingRule path => s!"no rule for: {path}"
  | .matcher fault => fault.message

mutual

def initializer : FlatItem → Program Error
  | .field _ id => [.line s!"d({id}),"]
  | .struct _ fields => [.block "\x7b" "\x7d," (initializers fields)]

def initializers : List FlatItem → Program Error
  | [] => []
  | item :: rest => initializer item ++ initializers rest

end

def assignStruct (s : FlatStruct) : Step Error :=
  .block s!"this->{s.name} = \x7b" "\x7d;" (initializers s.fields)

def assignment (id : Nat) (c : Rgba) : String :=
  s!"this->colors_[{id}] = \x7b" ++
    s!"{c.red.toNat}, {c.green.toNat}, {c.blue.toNat}, {c.alpha.toNat}" ++ "\x7d;"

def resetColor (colors : Theme.Colors) (leaf : String × Nat) : Step Error :=
  match colors.lookup leaf.1 with
  | some c => .line (assignment leaf.2 c)
  | none => .fail (.missingRule leaf.1)

def pathTree (leaves : List (String × Nat)) : Node Int :=
  Node.ofList (leaves.map fun leaf => (Text.encode leaf.1, (leaf.2 : Int)))

def applyFunction (flat : List FlatStruct) (names : Names) : Step Error :=
  .block s!"void {names.className}::applyChanges() \x7b" "\x7d"
    ([.line ("const auto d = [this](size_t i) -> const QColor& " ++
        "\x7b return this->colors_[i]; \x7d;")] ++
      flat.map assignStruct ++ [.line "this->reset();"])

def resetFunction (flat : List FlatStruct) (theme : Theme.Flat) (names : Names) : Step Error :=
  .block s!"void {names.className}::reset() \x7b" "\x7d"
    ((leaves flat).map (resetColor theme.rules))

def setFunction (names : Names) : Step Error :=
  .block s!"bool {names.className}::setColor(const QLatin1String &name, QColor color) \x7b" "\x7d"
    [.line s!"auto idx = {Matcher.Dialect.cppFunction}(name);",
      .line "if (idx < 0) return false;",
      .line "this->colors_[idx] = color;",
      .line "return true;"]

def sourceStart (flat : List FlatStruct) (names : Names) : Program Error :=
  let name := names.className
  [.lines [s!"#include \"{names.baseName}.hpp\"", "#include <QColor>", "#include <QString>",
      "#include <cstring>", ""],
    .block "namespace \x7b" "\x7d //  namespace" [.line (Matcher.Dialect.cppSignature ++ ";")],
    .line s!"namespace {names.scope} \x7b",
    .block s!"{name}::{name}() \x7b" "\x7d" [.line "this->reset();", .line "this->applyChanges();"],
    applyFunction flat names]

def sourceEnd (flat : List FlatStruct) (names : Names) : Program Error :=
  [setFunction names, .line s!"\x7d //  namespace {names.scope}", .line "namespace \x7b"] ++
    mapErrors .matcher (Matcher.Dialect.cpp.function (pathTree (leaves flat))) ++
    [.line "\x7d //  namespace"]

def classSource (flat : List FlatStruct) (theme : Theme.Flat) (names : Names) : Program Error :=
  sourceStart flat names ++ [resetFunction flat theme names] ++ sourceEnd flat names

end Palette.Output
