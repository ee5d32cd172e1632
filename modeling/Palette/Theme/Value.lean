import Palette.Color.Named
import Palette.Text.Lower
import Palette.Theme.Basic
import Palette.Theme.Walk

/-!
The values of declarations: colors in all their notations, references to root colors, and strings.
-/

namespace Palette.Theme

open Stylesheet

def unquoteChars : List Char → List Char
  | [] => []
  | [c] => [c]
  | first :: second :: rest =>
      let behind := second :: rest
      if (first = '"' || first = '\'') && behind.getLast? = some first then behind.dropLast
      else first :: behind

def unquote (s : String) : String := String.ofList (unquoteChars s.toList)

abbrev ColorWalk := Walk (Except Refusal Rgba)

def hexColor (text : String) : ColorWalk :=
  match Rgba.ofHex text with
  | .ok color => pure (.ok color)
  | .error (.outOfRange faults) => .fail (.outOfRange faults)
  | .error error => pure (.error (.hex error))

def functionColor (channels : Except Rgba.ArgumentError (UInt8 × UInt8 × UInt8))
    (alpha : Option String) : Except Rgba.ArgumentError Rgba := do
  let (red, green, blue) ← channels
  match alpha with
  | some text => return ⟨red, green, blue, ← Rgba.opacity text⟩
  | none => return ⟨red, green, blue, 255⟩

def functionName (source : List UInt8) (call : Node) : Walk String :=
  match call.child? "function_name" with
  | some node => Text.lower <$> textOf source node
  | none => pure ""

def calledColor (source : List UInt8) (call : Node) (name : String) : ColorWalk :=
  match call.child? "arguments", Rgba.functions.lookup name with
  | some arguments, some function => do
      match Rgba.splitArguments (← textOf source arguments) with
      | ([first, second, third], alpha) =>
          match functionColor (function first second third) alpha with
          | .ok color => pure (.ok color)
          | .error .infinite => .fail .infinite
          | .error error => pure (.error (.argument name error))
      | _ => pure (.error (.argumentCount name))
  | _, _ => pure (.error .notColor)

def callColor (source : List UInt8) (call : Node) : ColorWalk := do
  calledColor source call (← functionName source call)

def colorOf (source : List UInt8) : List Node → ColorWalk
  | [value] => do
      let text := Text.strip (← textOf source value)
      if value.kind = "color_value" then hexColor text
      else if value.kind = "call_expression" then callColor source value
      else if value.kind = "plain_value" then
        if Text.lower text = "currentcolor" then pure (.error .currentColor)
        else
          match Rgba.ofName? (Text.lower text) with
          | some color => pure (.ok color)
          | none => pure (.error .notColor)
      else pure (.error .notColor)
  | _ => pure (.error .notColor)

def isReference (source : List UInt8) (value : Node) : Walk Bool :=
  match decide (value.kind = "call_expression"), value.child? "function_name" with
  | true, some node => do return Text.lower (← textOf source node) = "var"
  | _, _ => pure false

def referenceOf (source : List UInt8) (call : Node) : Walk (Except Refusal Rule) :=
  match (call.child? "arguments").map Node.namedChildren with
  | some (first :: _) => do return .ok (.ref (Text.strip (← textOf source first)))
  | _ => pure (.error .notColor)

def ruleColor (source : List UInt8) (values : List Node) : Walk (Except Refusal Rule) :=
  return (← colorOf source values).map Rule.color

def ruleOf (source : List UInt8) : List Node → Walk (Except Refusal Rule)
  | [value] => do
      if ← isReference source value then referenceOf source value
      else ruleColor source [value]
  | values => ruleColor source values

end Palette.Theme
