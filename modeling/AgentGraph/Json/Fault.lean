import AgentGraph.Json.Printer
import AgentGraph.Text.Quoted

/-! What can be wrong with a JSON text, and where.

A fault is found at a byte offset of the text. Shown to a reader it names the line and the column
there; a value that was not read from a text has no places, and its faults have none either. -/
namespace AgentGraph.Json

set_option autoImplicit false

/-- A value that stands where another kind of value is due. -/
inductive Found where
  | null
  | bool (b : Bool)
  | number (n : Number)
  | string (s : String)
  | sequence
  | map

inductive Cause where
  -- the text ends too early
  | endInList
  | endInObject
  | endInString
  | endInValue
  -- the text is no JSON
  | colonExpected
  | listCommaExpected
  | objectCommaExpected
  | wordExpected
  | valueExpected
  | invalidEscape
  | invalidNumber
  | numberOutOfRange
  | controlCharacter
  | keyExpected
  | loneSurrogate
  | halfSurrogatePair
  | trailingComma
  | trailingCharacters
  | nestedTooDeep
  -- the JSON is not what is asked for
  | wrongType (found : Found) (expected : String)
  | wrongValue (n : Number) (expected : String)
  | wrongLength (length : Nat) (expected : String)
  | missingField (name : String)
  | duplicateField (name : String)
  | noVariant (type : String)

structure Fault where
  cause : Cause
  offset : Option Nat

/-! ## Kinds -/

inductive Cause.Kind where
  | eof
  | syntactic
  | data
deriving DecidableEq, Repr

def Cause.kind : Cause → Cause.Kind
  | .endInList | .endInObject | .endInString | .endInValue => .eof
  | .wrongType _ _ | .wrongValue _ _ | .wrongLength _ _ | .missingField _ | .duplicateField _
  | .noVariant _ => .data
  | _ => .syntactic

/-! ## Texts -/

def Number.show : Number → String
  | .int n => "integer `" ++ toString n ++ "`"
  | .float x => "floating point `" ++ Decimal.jsonText x ++ "`"

def Found.show : Found → String
  | .null => "null"
  | .bool b => "boolean `" ++ toString b ++ "`"
  | .number n => n.show
  | .string s => "string " ++ Text.quoted s
  | .sequence => "sequence"
  | .map => "map"

def Cause.text : Cause → String
  | .endInList => "EOF while parsing a list"
  | .endInObject => "EOF while parsing an object"
  | .endInString => "EOF while parsing a string"
  | .endInValue => "EOF while parsing a value"
  | .colonExpected => "expected `:`"
  | .listCommaExpected => "expected `,` or `]`"
  | .objectCommaExpected => "expected `,` or `\x7d`"
  | .wordExpected => "expected ident"
  | .valueExpected => "expected value"
  | .invalidEscape => "invalid escape"
  | .invalidNumber => "invalid number"
  | .numberOutOfRange => "number out of range"
  | .controlCharacter => "control character (\\u0000-\\u001F) found while parsing a string"
  | .keyExpected => "key must be a string"
  | .loneSurrogate => "lone leading surrogate in hex escape"
  | .halfSurrogatePair => "unexpected end of hex escape"
  | .trailingComma => "trailing comma"
  | .trailingCharacters => "trailing characters"
  | .nestedTooDeep => "recursion limit exceeded"
  | .wrongType found expected => "invalid type: " ++ found.show ++ ", expected " ++ expected
  | .wrongValue n expected => "invalid value: " ++ n.show ++ ", expected " ++ expected
  | .wrongLength length expected =>
    "invalid length " ++ toString length ++ ", expected " ++ expected
  | .missingField name => "missing field `" ++ name ++ "`"
  | .duplicateField name => "duplicate field `" ++ name ++ "`"
  | .noVariant type => "data did not match any variant of untagged enum " ++ type

/-! ## Places -/

structure Position where
  line : Nat
  column : Nat
deriving DecidableEq, Repr

/-- The line and column of a byte offset: a line break begins a line, and the column counts the
bytes since. -/
def Position.ofOffset (offset : Nat) (cs : List Char) : Position :=
  let rec go (passed line lineStart : Nat) : List Char → Position
    | [] => ⟨line, offset - lineStart⟩
    | c :: rest =>
      if offset ≤ passed then ⟨line, offset - lineStart⟩
      else if c = '\n' then go (passed + 1) (line + 1) (passed + 1) rest
      else go (passed + c.utf8Size) line lineStart rest
  go 0 1 0 cs

/-- A fault as it is reported. -/
structure Error where
  cause : Cause
  position : Option Position

def Fault.locate (f : Fault) (text : List Char) : Error :=
  ⟨f.cause, f.offset.map fun offset => Position.ofOffset offset text⟩

def Error.message (e : Error) : String :=
  match e.position with
  | none => e.cause.text
  | some p =>
    e.cause.text ++ " at line " ++ toString p.line ++ " column " ++ toString p.column

end AgentGraph.Json
