import Palette.Text.Blank
import Palette.Text.Digit

/-!
Error messages under the line of the source that they are about, with the line before it and a
marker below the column.
-/

namespace Palette.Excerpt

def numbered (number : Int) (line : List Char) : String :=
  Text.padLeft ' ' 5 (toString number) ++ "│ " ++ String.ofList (Text.dropReturn line)

def marker (column : Int) (message : String) : String :=
  String.ofList (List.replicate (5 + 2 + column - 1).toNat ' ') ++ "╰─► " ++ message

def bare (name message : String) (line column : Int) : String :=
  s!"[{name} @ line {line}, column {column}] {message}"

/-- A message for a place in a source. The first line has none before it, so it is not shown. -/
def render (name source message : String) (line column : Int) : String :=
  let all := Text.lines source.toList
  if line < 2 ∨ line > all.length ∨ column < 1 then bare name message line column
  else
    let previous := all.getD (line - 2).toNat []
    let current := all.getD (line - 1).toNat []
    "\n".intercalate
      [name ++ ":", numbered (line - 1) previous, numbered line current, marker column message]

end Palette.Excerpt
