import Palette.CommandLine.Arguments
import Palette.Matcher.Languages
import Palette.Pipeline.Generate

/-!
The commands and their options.
-/

namespace Palette.CommandLine

inductive Key where
  | verbose
  | help
  | layout
  | directory
  | timestamp
  | language
  deriving DecidableEq, Repr

inductive Command where
  | code (style layout : String) (settings : Pipeline.Settings)
  | theme (style : String) (settings : Pipeline.Settings)
  | matcher (keys : List String) (language : String)
  | help

def outputPaths (settings : Pipeline.Settings) (name : String) (suffixes : List String) :
    List Files.Path :=
  settings.directory :: suffixes.filterMap (settings.base name).withSuffix?

def Command.paths : Command → List Files.Path
  | .code style layout settings =>
      [.ofString layout, .ofString style] ++
        outputPaths settings settings.baseName [".cpp", ".hpp", ".timestamp"]
  | .theme style settings =>
      .ofString style ::
        outputPaths settings (Pipeline.themeName style) [".c2theme", ".timestamp"]
  | .matcher _ _ | .help => []

structure Invocation where
  verbose : Bool
  command : Command

def helpOption : OptionForm Key := { key := .help, long := "help", short := some 'h' }

def verboseOption : OptionForm Key := { key := .verbose, long := "verbose", short := some 'v' }

def outputOptions : List (OptionForm Key) :=
  [{ key := .directory, long := "output-dir", short := some 'o', takesValue := true },
    { key := .timestamp, long := "timestamp", short := some 't' }]

def mainForm : Form Key := ⟨[helpOption, verboseOption], .many⟩

def codeForm : Form Key :=
  ⟨[helpOption, { key := .layout, long := "layout", short := some 'l', takesValue := true }] ++
    outputOptions, .one⟩

def themeForm : Form Key := ⟨helpOption :: outputOptions, .one⟩

def matcherForm : Form Key :=
  ⟨[helpOption, { key := .language, long := "language", takesValue := true }], .many⟩

def lastValue? (options : Chosen Key) (key : Key) : Option String := options.reverse.lookup key

def isChosen (options : Chosen Key) (key : Key) : Bool := (options.lookup key).isSome

def settingsOf (options : Chosen Key) : Pipeline.Settings where
  directory := .ofString ((lastValue? options .directory).getD ".")
  timestamp := isChosen options .timestamp

def defaultLayout : String := "layout.yml"

def defaultLanguage : String := "cpp"

def languagesExist (options : Chosen Key) : Bool :=
  options.all fun o => o.1 ≠ .language || (Matcher.Dialect.ofName? o.2).isSome

def commandOf (name : String) (arguments : List String) : Except Misuse Command := do
  match name with
  | "code" =>
      let (options, operands) ← codeForm.read arguments
      if isChosen options .help then return .help
      let layout := (lastValue? options .layout).getD defaultLayout
      return .code (operands.headD "") layout (settingsOf options)
  | "theme" =>
      let (options, operands) ← themeForm.read arguments
      if isChosen options .help then return .help
      return .theme (operands.headD "") (settingsOf options)
  | "matcher" =>
      let (options, operands) ← matcherForm.read arguments
      if isChosen options .help then return .help
      if !languagesExist options then throw .misuse
      return .matcher operands ((lastValue? options .language).getD defaultLanguage)
  | _ => throw .misuse

/-- The options in front of the first operand, and all arguments from there on. -/
def frontOptions (form : Form Key) :
    Reading Key → List (Word Key) → List String → Except Misuse (Chosen Key × List String)
  | r, .option option attached :: words, _ :: arguments => do
      match ← takeOption form r option attached with
      | (next, none) => frontOptions form next words arguments
      | (_, some _) => throw .misuse
  | _, .stranger :: _, _ => throw .misuse
  | r, _, arguments => return (r.options, arguments)

def Invocation.ofArguments (arguments : List String) : Except Misuse Invocation := do
  let (options, rest) ← frontOptions mainForm {} (← mainForm.words arguments) arguments
  let verbose := isChosen options .verbose
  if isChosen options .help then return ⟨verbose, .help⟩
  match rest with
  | name :: inner => return ⟨verbose, ← commandOf name inner⟩
  | [] => throw .misuse

end Palette.CommandLine
