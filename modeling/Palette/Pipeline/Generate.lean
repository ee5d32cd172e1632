import Palette.Output.Header
import Palette.Pipeline.Job
import Palette.Pipeline.Report

/-!
The pipelines: a layout and a style sheet give the sources of a theme class, a style sheet alone
gives a theme file, and keys with their values give a lookup function.
-/

namespace Palette.Pipeline

open KeyTrie

structure Settings extends Output.Names where
  directory : Files.Path := {}
  /-- Whether an empty file marks the time of the run. -/
  timestamp : Bool := false

def Settings.base (settings : Settings) (name : String) : Files.Path :=
  settings.directory.join (.ofString name)

def loadLayout (path : String) : Job Layout := do
  info s!"Loading layout from {path}"
  lift .layout (Layout.parse (← readText (.ofString path)))

def parseTheme (text : String) : Job Theme := do
  let source := Text.encode text
  let tree := Stylesheet.Node.ofText text
  for issue in tree.issues source do
    report .warning .stylesheet issue.message
  let walk := Theme.ofTree source tree
  for warning in walk.warnings do
    report .warning .theme warning.message
  lift .theme walk.outcome

def loadTheme (path : String) : Job Theme.Flat := do
  info s!"Loading theme from {path}"
  let theme ← parseTheme (← readText (.ofString path))
  let flat ← lift .undefinedColor theme.flatten
  info s!"Theme by {flat.about.author} defines {flat.rules.length} colors"
  return flat

def markTime (settings : Settings) (base : Files.Path) : Job (List Files.Path) := do
  if settings.timestamp then
    let path ← withSuffix base ".timestamp"
    change (.touch path)
    return [path]
  else return []

def generateCode (layoutPath stylePath : String) (settings : Settings) : Job Report := do
  let layout ← loadLayout layoutPath
  let theme ← loadTheme stylePath
  change (.ensureDirectories settings.directory)
  let base := settings.base settings.baseName
  let sourcePath ← withSuffix base ".cpp"
  change (.write sourcePath [])
  let flat ← lift .undefinedStruct layout.flatten
  writeProgram .output sourcePath (Output.classSource flat theme settings.toNames)
  let leaves := Layout.leaves flat
  let headerPath ← withSuffix base ".hpp"
  writeProgram .output headerPath (Output.header layout settings.toNames)
  let marks ← markTime settings base
  let tree := Output.pathTree leaves
  let seconds := (← get).seconds
  info s!"Generated {settings.baseName} with {layout.count} colors in {seconds.milliseconds}"
  return {
    colorCount := layout.count, keyCount := tree.entries.length, nodeCount := tree.count
    shortestKey := tree.minSize, seconds, written := [sourcePath, headerPath] ++ marks }

def defaultThemeName : String := "ChatterinoTheme"

def themeName (stylePath : String) : String :=
  let stem := (Files.Path.ofString stylePath).stem
  if stem.isEmpty then defaultThemeName else stem

def generateTheme (stylePath : String) (settings : Settings) : Job Report := do
  let theme ← loadTheme stylePath
  change (.ensureDirectories settings.directory)
  let base := settings.base (themeName stylePath)
  let path ← withSuffix base ".c2theme"
  writeProgram .output path (Output.themeFile theme)
  let marks ← markTime settings base
  info s!"Wrote {path}"
  return {
    colorCount := theme.rules.length, seconds := (← get).seconds, written := path :: marks }

def buildTree (pairs : List (Key × Int)) : Job (Node Int) := do
  if let some first := pairs.head? then
    report .debug .keyTrie ("First key inserted: " ++ Text.quotedBytes first.1)
  let tree : Node Int := Node.ofList pairs
  info (s!"Built key trie: {tree.entries.length} keys, " ++
    s!"{tree.count} nodes, shortest key {tree.minSize}")
  return tree

/-- The text of a lookup function; of equal keys the last counts. -/
def lookupFunction (pairs : List (Key × Int)) (language unit : String) : Job String := do
  match Matcher.Dialect.ofName? language with
  | none => throw (.unknownLanguage language)
  | some dialect =>
      let tree ← buildTree pairs
      let (text, outcome) := Printer.render unit (dialect.function tree)
      report .debug .matcher
        s!"Lowering key trie ({tree.count} nodes, min size {tree.minSize}) with {dialect.title}"
      lift .matcher outcome
      return text

end Palette.Pipeline
