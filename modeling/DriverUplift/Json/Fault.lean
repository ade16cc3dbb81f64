import DriverUplift.Json.Basic
import DriverUplift.Number.Decimal
import DriverUplift.Text.Quoted

/-!
# Faults of JSON texts

What can be wrong with a JSON text, where it is wrong, and how that is said.  A
fault remembers the unread part of the text; its position follows from that and
from the whole text.  Columns count bytes.
-/

namespace DriverUplift.Json

/-- The kind of a value, as messages name it; scalars are shown in full. -/
inductive Found where
  | null
  | bool (value : Bool)
  | number (value : Number)
  | text (value : String)
  | list
  | object
  deriving DecidableEq, Repr

def found : Json → Found
  | .null => .null
  | .bool value => .bool value
  | .num value => .number value
  | .str value => .text value
  | .arr _ => .list
  | .obj _ => .object

def Found.words : Found → String
  | null => "null"
  | bool value => "boolean `" ++ toString value ++ "`"
  | number (.integer value) => "integer `" ++ toString value ++ "`"
  | number (.real value) => "floating point `" ++ String.ofList value.text ++ "`"
  | text value => "string " ++ Text.quoted value
  | list => "sequence"
  | object => "map"

inductive Problem where
  | endInValue
  | endInText
  | endInList
  | endInObject
  | expectedValue
  | expectedWord
  | expectedColon
  | expectedListComma
  | expectedObjectComma
  | keyNotText
  | trailingComma
  | trailingCharacters
  | tooDeep
  | invalidNumber
  | numberOutOfRange
  | invalidEscape
  | controlCharacter
  | loneSurrogate
  | unfinishedSurrogate
  | wrongType (found : Found) (expected : String)
  | missingField (name : String)
  | duplicateField (name : String)
  | tooShort (length : Nat) (expected : String)
  deriving DecidableEq, Repr

def Problem.words : Problem → String
  | endInValue => "EOF while parsing a value"
  | endInText => "EOF while parsing a string"
  | endInList => "EOF while parsing a list"
  | endInObject => "EOF while parsing an object"
  | expectedValue => "expected value"
  | expectedWord => "expected ident"
  | expectedColon => "expected `:`"
  | expectedListComma => "expected `,` or `]`"
  | expectedObjectComma => "expected `,` or `\x7d`"
  | keyNotText => "key must be a string"
  | trailingComma => "trailing comma"
  | trailingCharacters => "trailing characters"
  | tooDeep => "recursion limit exceeded"
  | invalidNumber => "invalid number"
  | numberOutOfRange => "number out of range"
  | invalidEscape => "invalid escape"
  | controlCharacter => "control character (\\u0000-\\u001F) found while parsing a string"
  | loneSurrogate => "lone leading surrogate in hex escape"
  | unfinishedSurrogate => "unexpected end of hex escape"
  | wrongType found expected => "invalid type: " ++ found.words ++ ", expected " ++ expected
  | missingField name => "missing field `" ++ name ++ "`"
  | duplicateField name => "duplicate field `" ++ name ++ "`"
  | tooShort length expected => "invalid length " ++ toString length ++ ", expected " ++ expected

/-- A line, counted from one, and a column, counted in bytes. -/
structure Position where
  line : Nat
  column : Nat
  deriving DecidableEq, Repr

def Position.advance : Nat → Position → List Char → Position
  | 0, position, _ => position
  | _, position, [] => position
  | bytes + 1, position, c :: text =>
      if c = '\n' then advance bytes ⟨position.line + 1, 0⟩ text
      else
        let step := min c.utf8Size (bytes + 1)
        advance (bytes + 1 - step) ⟨position.line, position.column + step⟩ text

def byteCount : List Char → Nat
  | [] => 0
  | c :: text => c.utf8Size + byteCount text

/-- A problem, the text that was unread when it was met, and how many of its bytes are blamed. -/
structure Fault where
  problem : Problem
  rest : List Char
  blamed : Nat
  deriving DecidableEq, Repr

namespace Fault

def behind (problem : Problem) (rest : List Char) : Fault :=
  ⟨problem, rest, 0⟩

def onNext (problem : Problem) (rest : List Char) : Fault :=
  ⟨problem, rest, 1⟩

def atEnd (problem : Problem) : Fault :=
  ⟨problem, [], 0⟩

/-- How many bytes of the text lie before the fault or are blamed for it. -/
def offset (text : List Char) (fault : Fault) : Nat :=
  byteCount text - byteCount fault.rest + fault.blamed

def position (text : List Char) (fault : Fault) : Position :=
  Position.advance (fault.offset text) ⟨1, 0⟩ text

end Fault

structure Error where
  problem : Problem
  position : Position
  deriving DecidableEq, Repr

def Error.message (error : Error) : String :=
  error.problem.words ++ " at line " ++ toString error.position.line ++
    " column " ++ toString error.position.column

def Fault.locate (text : List Char) (fault : Fault) : Error :=
  ⟨fault.problem, fault.position text⟩

end DriverUplift.Json
