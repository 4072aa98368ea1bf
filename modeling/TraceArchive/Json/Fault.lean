import TraceArchive.Json.Printer
import TraceArchive.Text.Quoted
import TraceArchive.Text.Utf8
/-!
What can be wrong with a JSON text, and where.  While reading, a fault is placed by the number of
bytes still unread; `Fault.locate` turns that into a line and a column of the whole text.
-/

namespace TraceArchive

namespace Json

/-- What a reader met in place of what it wanted. -/
inductive Found where
  | null
  | bool (b : Bool)
  | number (n : Number)
  | string (s : String)
  | sequence
  | map

def Found.describe : Found → String
  | .null => "null"
  | .bool b => "boolean `" ++ (if b then "true" else "false") ++ "`"
  | .number (.integer n h) => "integer `" ++ String.ofList (Number.integer n h).text ++ "`"
  | .number (.double d) => "floating point `" ++ String.ofList d.text ++ "`"
  | .string s => "string " ++ Text.quoted s
  | .sequence => "sequence"
  | .map => "map"

/-- Why a text is refused. -/
inductive Cause where
  | endInList
  | endInObject
  | endInString
  | endInValue
  | expectedColon
  | expectedListCommaOrEnd
  | expectedObjectCommaOrEnd
  | expectedIdent
  | expectedValue
  | invalidEscape
  | invalidNumber
  | numberOutOfRange
  | invalidCodePoint
  | controlCharacter
  | nameNotString
  | loneSurrogate
  | unfinishedSurrogatePair
  | trailingComma
  | trailingCharacters
  | tooDeep
  | missingField (name : String)
  | duplicateField (name : String)
  | invalidType (found : Found) (expected : String)
  | invalidValue (found : Found) (expected : String)
  | invalidLength (length : Nat) (expected : String)
  | exclusiveFields (first second : String)
  | noVariant (title : String)

def Cause.message : Cause → String
  | .endInList => "EOF while parsing a list"
  | .endInObject => "EOF while parsing an object"
  | .endInString => "EOF while parsing a string"
  | .endInValue => "EOF while parsing a value"
  | .expectedColon => "expected `:`"
  | .expectedListCommaOrEnd => "expected `,` or `]`"
  | .expectedObjectCommaOrEnd => "expected `,` or `\x7d`"
  | .expectedIdent => "expected ident"
  | .expectedValue => "expected value"
  | .invalidEscape => "invalid escape"
  | .invalidNumber => "invalid number"
  | .numberOutOfRange => "number out of range"
  | .invalidCodePoint => "invalid unicode code point"
  | .controlCharacter => "control character (\\u0000-\\u001F) found while parsing a string"
  | .nameNotString => "key must be a string"
  | .loneSurrogate => "lone leading surrogate in hex escape"
  | .unfinishedSurrogatePair => "unexpected end of hex escape"
  | .trailingComma => "trailing comma"
  | .trailingCharacters => "trailing characters"
  | .tooDeep => "recursion limit exceeded"
  | .missingField name => "missing field `" ++ name ++ "`"
  | .duplicateField name => "duplicate field `" ++ name ++ "`"
  | .invalidType found expected =>
    "invalid type: " ++ found.describe ++ ", expected " ++ expected
  | .invalidValue found expected =>
    "invalid value: " ++ found.describe ++ ", expected " ++ expected
  | .invalidLength length expected =>
    "invalid length " ++ toString length ++ ", expected " ++ expected
  | .exclusiveFields first second => first ++ " and " ++ second ++ " are mutually exclusive"
  | .noVariant title => "data did not match any variant of untagged enum " ++ title

/-- Where reading stopped: before the last `unread` bytes of the text being read, or at a place of
another text that was named before. -/
inductive Place where
  | unread (count : Nat)
  | known (line column : Nat)

structure Fault where
  cause : Cause
  place : Place

/-- A located fault.  Line zero says that the fault is one of the text as a whole. -/
structure Error where
  cause : Cause
  line : Nat
  column : Nat

/-- How errors are shown. -/
def Error.display (e : Error) : String :=
  "Error(" ++ Text.quoted e.cause.message ++ ", line: " ++ toString e.line ++ ", column: "
    ++ toString e.column ++ ")"

/-- The line on which a text ends, from one, and the number of bytes on that line. -/
def endPosition (text : Bytes) : Nat × Nat :=
  (1 + text.count 0x0A, (text.reverse.takeWhile (· ≠ 0x0A)).length)

/-- A fault as an error of the whole text. -/
def Fault.locate (text : Bytes) (f : Fault) : Error :=
  match f.place with
  | .unread count =>
    let (line, column) := endPosition (text.take (text.length - count))
    ⟨f.cause, line, column⟩
  | .known line column => ⟨f.cause, line, column⟩

/-- A fault seen when `rest` was left. -/
def faultAt (cause : Cause) (rest : Bytes) : Except Fault α :=
  .error ⟨cause, .unread rest.length⟩

/-- A fault of the next byte, which counts as read; at the end of the text, of the end itself. -/
def faultPast (cause : Cause) (rest : Bytes) : Except Fault α :=
  .error ⟨cause, .unread (rest.length - 1)⟩

end Json

end TraceArchive
