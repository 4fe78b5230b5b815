import PortShare.Json.Writer
import PortShare.Text.Quoted
import PortShare.Text.Utf8

/-!
Why bytes are refused as JSON, or as the kind of value that is read, and where. A place is
kept as the number of bytes not yet read, and shown as line and column once the whole text
is known. -/

namespace PortShare.Json

/-- What stands where another kind of value is expected. -/
inductive Found where
  | scalar (s : Scalar)
  | list
  | object

def Found.describe : Found → String
  | .scalar .null => "null"
  | .scalar (.bool b) => "boolean `" ++ (if b then "true" else "false") ++ "`"
  | .scalar (.number n) =>
    let kind := match n with
      | .float .. => "floating point `"
      | _ => "integer `"
    kind ++ String.ofList n.chars ++ "`"
  | .scalar (.text s) => "string " ++ quote s
  | .list => "sequence"
  | .object => "map"

/-- The ways to refuse bytes. -/
inductive Cause where
  | endInValue | endInList | endInObject | endInText
  | expectedColon | expectedListEnd | expectedObjectEnd | expectedWord | expectedValue
  | expectedKey | invalidEscape | invalidNumber | numberOutOfRange | invalidText
  | controlCharacter | loneSurrogate | endOfHexEscape | trailingComma | trailingBytes | tooDeep
  | wrongKind (found : Found) (expected : String)
  | wrongNumber (n : Number) (expected : String)
  | wrongLength (n : Nat) (expected : String)
  | missing (key : String)
  | repeated (key : String)
  /-- The value has the right kind, and is refused for a reason of its own. -/
  | refused (reason : String)

/-- Bytes that end too early, that are no JSON, or that are JSON of another shape. -/
inductive Cause.Class where
  | eof | grammar | shape
  deriving DecidableEq, Repr

namespace Cause

def kind : Cause → Class
  | .endInValue | .endInList | .endInObject | .endInText => .eof
  | .wrongKind .. | .wrongNumber .. | .wrongLength .. | .missing _ | .repeated _
  | .refused _ => .shape
  | _ => .grammar

def describe : Cause → String
  | .endInValue => "EOF while parsing a value"
  | .endInList => "EOF while parsing a list"
  | .endInObject => "EOF while parsing an object"
  | .endInText => "EOF while parsing a string"
  | .expectedColon => "expected `:`"
  | .expectedListEnd => "expected `,` or `]`"
  | .expectedObjectEnd => "expected `,` or `\x7d`"
  | .expectedWord => "expected ident"
  | .expectedValue => "expected value"
  | .expectedKey => "key must be a string"
  | .invalidEscape => "invalid escape"
  | .invalidNumber => "invalid number"
  | .numberOutOfRange => "number out of range"
  | .invalidText => "invalid unicode code point"
  | .controlCharacter => "control character (\\u0000-\\u001F) found while parsing a string"
  | .loneSurrogate => "lone leading surrogate in hex escape"
  | .endOfHexEscape => "unexpected end of hex escape"
  | .trailingComma => "trailing comma"
  | .trailingBytes => "trailing characters"
  | .tooDeep => "recursion limit exceeded"
  | .wrongKind found expected => "invalid type: " ++ found.describe ++ ", expected " ++ expected
  | .wrongNumber n expected =>
    "invalid value: integer `" ++ String.ofList n.chars ++ "`, expected " ++ expected
  | .wrongLength n expected =>
    "invalid length " ++ Numeral.decimal n ++ ", expected " ++ expected
  | .missing key => "missing field `" ++ key ++ "`"
  | .repeated key => "duplicate field `" ++ key ++ "`"
  | .refused reason => reason

end Cause

/-- A cause, with its place or still without one. -/
inductive Fault where
  /-- At the place with `left` bytes to come. -/
  | placed (cause : Cause) (left : Nat)
  /-- A refusal of what was read before `rest`; the value around it gives it a place. -/
  | unplaced (cause : Cause) (rest : Bytes)

/-- A refusal as it is reported, with line and column from 1 and from 0. -/
structure Problem where
  cause : Cause
  place : Option (Nat × Nat)

namespace Problem

def text (p : Problem) : String :=
  match p.place with
  | none => p.cause.describe
  | some (line, column) =>
    p.cause.describe ++ " at line " ++ Numeral.decimal line ++ " column " ++ Numeral.decimal column

/-- Line and column behind the bytes `read`. -/
def placeAfter (read : Bytes) : Nat × Nat :=
  (read.count 10 + 1, (read.reverse.takeWhile (· != 10)).length)

end Problem

/-- The report of a fault that was met in `bs`. -/
def Fault.report (bs : Bytes) : Fault → Problem
  | .placed cause left => ⟨cause, some (Problem.placeAfter (bs.take (bs.length - left)))⟩
  | .unplaced cause _ => ⟨cause, none⟩

end PortShare.Json
