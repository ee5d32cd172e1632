import Palette.Matcher.Dialect
import Palette.Text.Quoted

/-!
The dialects in which lookup functions are written: C++, Python, and the bare wording that the two
share parts of, which has neither a function frame nor cases.

In C++ literals everything but printable ASCII is escaped; octal escapes end after three digits, so
no digit that follows one is drawn into it.
-/

namespace Palette.Matcher

open KeyTrie Printer

def cppEscape (quote : Char) (b : UInt8) : String :=
  let c := Char.ofNat b.toNat
  if c = '\\' then "\\\\"
  else if c = '\n' then "\\n"
  else if c = '\t' then "\\t"
  else if c = '\r' then "\\r"
  else if c = quote then String.ofList ['\\', quote]
  else if 0x20 ≤ b && b < 0x7F then c.toString
  else "\\" ++ Text.octal 3 b.toNat

def cppString (bytes : List UInt8) : String :=
  "\"" ++ String.join (bytes.map (cppEscape '"')) ++ "\""

def cppChar (b : UInt8) : String := "'" ++ cppEscape '\'' b ++ "'"

namespace Dialect

/-- The wording without cases and without a function frame. -/
def bare : Dialect where
  title := "BaseMatcher"
  sizeAtLeast least := s!"if (size >= {least}) \x7b"
  sizeIs length := s!"size == {length}"
  byteIs position byte := s!"data[{position}] == {byte.toNat}"
  rangeIs position bytes :=
    s!"data[{position}:{position + bytes.length}] == " ++ Text.quotedBytes bytes
  conjunction := " && "
  conditional condition := s!"if ({condition}) \x7b"
  closing := some "\x7d"
  answerWhen condition value := [.line s!"if ({condition}) return {value};"]
  answer value := s!"return {value};"
  switchOpening _ := []
  caseOpening := none
  caseClosing := []
  switchClosing := []
  signature := none
  prologue := []
  epilogue := []

def cppFunction : String := "getDataIndex"

def cppSignature : String := s!"int {cppFunction}(const QLatin1String &name)"

def cpp : Dialect :=
  { bare with
    title := "CppMatcher"
    byteIs := fun position byte => s!"data[{position}] == " ++ cppChar byte
    rangeIs := fun position bytes =>
      s!"std::memcmp(data + {position}, " ++ cppString bytes ++ s!", {bytes.length}) == 0"
    switchOpening := fun position => [s!"switch (data[{position}]) \x7b"]
    caseOpening := some fun _ byte _ => "case " ++ cppChar byte ++ ": \x7b"
    caseClosing := ["\x7d", "break;"]
    switchClosing := ["\x7d"]
    signature := some (cppSignature ++ " \x7b")
    prologue := ["auto size = name.size();", "auto data = name.data();"]
    epilogue := ["\x7d"] }

def python : Dialect where
  title := "PythonMatcher"
  sizeAtLeast least := s!"if size >= {least}:"
  sizeIs := bare.sizeIs
  byteIs position byte := s!"data[{position}] == 0x" ++ Text.hex 2 byte.toNat
  rangeIs := bare.rangeIs
  conjunction := " and "
  conditional condition := s!"if {condition}:"
  closing := none
  answerWhen condition value :=
    [.line s!"if {condition}:", .indent, .line s!"return {value}", .dedent]
  answer value := s!"return {value}"
  switchOpening _ := []
  caseOpening := some fun position byte index =>
    (if index = 0 then "if " else "elif ") ++
      s!"data[{position}] == 0x" ++ Text.hex 2 byte.toNat ++ ":"
  caseClosing := []
  switchClosing := []
  signature := some "def get_data_index(data: bytes, size: int) -> int:"
  prologue := []
  epilogue := []

def languages : List (String × Dialect) := [("cpp", cpp), ("python", python)]

def unsupported (name : String) : String := s!"Unsupported matcher language: {name}"

def ofName? (name : String) : Option Dialect := languages.lookup name

end Dialect

end Palette.Matcher
