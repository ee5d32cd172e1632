import Palette.Color.Function
import Palette.Color.Hex
import Palette.Stylesheet.Node

/-!
What a walk over a style sheet gives besides its result. Items that cannot be understood are warned
about and left out; few things end the walk, and the warnings up to there are kept.
-/

namespace Palette.Theme

open Stylesheet

inductive Refusal where
  | notColor
  | currentColor
  | hex (error : Rgba.HexError)
  | argumentCount (function : String)
  | argument (function : String) (error : Rgba.ArgumentError)
  deriving DecidableEq, Repr

def Refusal.message : Refusal → String
  | .notColor => "Expected a color or var(..)"
  | .currentColor => "'currentColor' isn't supported"
  | .hex error => error.message
  | .argumentCount function => s!"Expected 3 or 4 arguments to {function}()"
  | .argument function error => s!"Invalid {function}() argument: {error.message}"

inductive Reason where
  | unexpected (what : String)
  | unknownAtRule (keyword : String)
  | badAtRuleBody
  | badRule
  | notIdentifier (selector : String)
  | notString
  | refused (refusal : Refusal)
  deriving DecidableEq, Repr

def Reason.message : Reason → String
  | .unexpected what => s!"Unexpected {what}"
  | .unknownAtRule keyword => s!"Invalid @-rule ({keyword})"
  | .badAtRuleBody => "@-rule body is invalid"
  | .badRule => "Qualified rule is invalid"
  | .notIdentifier selector => s!"Expected an identifier, found '{selector}'"
  | .notString => "Expected a string"
  | .refused refusal => refusal.message

structure Warning where
  text : String
  line : Nat
  column : Nat
  reason : Reason
  deriving DecidableEq, Repr

def Warning.message (w : Warning) : String :=
  s!"Error parsing '{w.text}' (line {w.line}, column {w.column}): {w.reason.message}"

inductive Defect where
  | noAbout
  | duplicateAbout
  | incompleteAbout (item : String)
  | duplicateRoot
  | duplicateBlock (name : String)
  deriving DecidableEq, Repr

def Defect.message : Defect → String
  | .noAbout => "Expected a @chatterino metadata block"
  | .duplicateAbout => "Found duplicate @chatterino metadata block"
  | .incompleteAbout item => s!"Missing '{item}' in meta"
  | .duplicateRoot => "Found duplicate :root block"
  | .duplicateBlock name => s!"Found duplicate block ('{name}')"

inductive Failure where
  | defect (cause : Defect) (line column : Nat)
  /-- The bytes of a node are no text. -/
  | undecodable
  /-- An argument of a color function is infinite. -/
  | infinite
  /-- A hexadecimal channel is no byte. -/
  | outOfRange (faults : Rgba.Faults)
  deriving DecidableEq, Repr

structure Walk (α : Type) where
  warnings : List Warning
  outcome : Except Failure α

namespace Walk

def bind {α β : Type} (first : Walk α) (next : α → Walk β) : Walk β :=
  match first.outcome with
  | .ok a =>
      let second := next a
      ⟨first.warnings ++ second.warnings, second.outcome⟩
  | .error failure => ⟨first.warnings, .error failure⟩

instance : Monad Walk where
  pure a := ⟨[], .ok a⟩
  bind := Walk.bind

def fail {α : Type} (failure : Failure) : Walk α := ⟨[], .error failure⟩

def warn (warning : Warning) : Walk Unit := ⟨[warning], .ok ()⟩

end Walk

def textOf (source : List UInt8) (n : Node) : Walk String :=
  match Text.decode? (n.bytes source) with
  | some text => pure text
  | none => .fail .undecodable

def skip (source : List UInt8) (n : Node) (reason : Reason) : Walk Unit := do
  let text ← textOf source n
  let place := n.label.startPoint.location
  .warn ⟨Text.strip text, place.line, place.column, reason⟩

def failAt {α : Type} (defect : Defect) (point : Point) : Walk α :=
  .fail (.defect defect point.location.line point.location.column)

end Palette.Theme
