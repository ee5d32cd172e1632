import Palette.CommandLine.Run
import Palette.Matcher.Lookup

/-!
A demonstration on a handful of paths: their lookup tree, and the lookup function in both languages.
-/

namespace Palette.CommandLine.Demo

open Pipeline

def paths : List String :=
  ["messages.backgrounds.regular", "messages.backgrounds.alternate", "messages.disabled",
    "messages.textcolors.regular", "messages.textcolors.link", "tabs.border", "tabs.selected.text",
    "window.text", "window.background"]

def title (text : String) : String :=
  let bar := String.ofList (List.replicate 20 '═')
  s!"\n{bar} {text} {bar}\n"

def keyLine (entry : String × Nat) : String :=
  "  " ++ Text.padLeft ' ' 3 (toString entry.2) ++ " | " ++ entry.1 ++ "\n"

def resolves (pairs : List (KeyTrie.Key × Int)) : Bool :=
  let tree := KeyTrie.Node.ofList pairs
  pairs.all fun pair => Matcher.lookup tree pair.1 = pair.2

def job : Job String := do
  let pairs := numbered paths
  let tree ← buildTree pairs
  let cpp ← lookupFunction pairs "cpp" "    "
  let python ← lookupFunction pairs "python" "    "
  let check := if resolves pairs then s!"  all {pairs.length} keys resolve\n" else ""
  return title "Keys" ++ String.join (paths.zipIdx.map keyLine) ++
    title "Trie" ++ s!"  Nodes        : {tree.count}\n  Shortest key : {tree.minSize}\n" ++
    title "C++" ++ cpp ++ "\n" ++
    title "Python" ++ python ++ "\n" ++ check

def form : Form Key := ⟨[helpOption, verboseOption], .none⟩

def run (arguments : List String) : Outcome :=
  match form.read arguments with
  | .error _ => { ending := .misuse, files := [] }
  | .ok (options, _) =>
      let (result, w) := job.run.run {}
      let log :=
        if isChosen options .verbose then Log.text .debug Log.Entry.line w.log
        else Log.text .warning Log.Entry.message w.log
      match result with
      | .ok text => { ending := .exit 0, stdout := text, stderr := log, files := [] }
      | .error failure => { ending := .failed failure, stderr := log, files := [] }

end Palette.CommandLine.Demo
