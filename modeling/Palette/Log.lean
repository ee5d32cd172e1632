/-!
What a run reports along the way: messages, each with its level and the part of the program that it
comes from.
-/

namespace Palette.Log

inductive Level where
  | debug
  | info
  | warning
  deriving DecidableEq, Repr

inductive Channel where
  | pipeline
  | stylesheet
  | theme
  | keyTrie
  | matcher
  deriving DecidableEq, Repr

def Channel.title : Channel → String
  | .pipeline => "stylegen.api"
  | .stylesheet => "stylegen.parser"
  | .theme => "stylegen.theme_parser"
  | .keyTrie => "stylegen.trie"
  | .matcher => "stylegen.matchers._base"

structure Entry where
  level : Level
  channel : Channel
  message : String
  deriving DecidableEq, Repr

def Level.rank : Level → Nat
  | .debug => 0
  | .info => 1
  | .warning => 2

def Entry.isAtLeast (level : Level) (e : Entry) : Bool := level.rank ≤ e.level.rank

def Entry.line (e : Entry) : String := e.channel.title ++ ": " ++ e.message

def text (level : Level) (line : Entry → String) (entries : List Entry) : String :=
  String.join ((entries.filter (Entry.isAtLeast level)).map fun e => line e ++ "\n")

end Palette.Log
