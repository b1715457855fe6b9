import Accord.Json.Basic
import Accord.Text.Quoted

/-!
# What can be wrong with a document

A document is refused for the first problem met from left to right: the text may break the rules
of JSON, or a value may not be what is expected in its place.  `Problem.message` is the wording.
-/

namespace Accord

/-- A value that is not what was expected, as messages name it. -/
inductive Found where
  | null
  | bool (b : Bool)
  | number (n : Number)
  | text (s : String)
  | sequence
  | map
deriving DecidableEq

/-- The value as a message names it; only texts are quoted. -/
def Found.describe : Found → String
  | .null => "null"
  | .bool b => "boolean `" ++ (if b then "true" else "false") ++ "`"
  | .number (.integer i) => "integer `" ++ toString i ++ "`"
  | .number (.float x) => "floating point `" ++ x.render ++ "`"
  | .text s => "string " ++ Text.quoted s
  | .sequence => "sequence"
  | .map => "map"

/-- Why a document is refused. -/
inductive Problem where
  /-- The text ends where a value is due. -/
  | endInValue
  /-- The text ends inside a list. -/
  | endInList
  /-- The text ends inside an object. -/
  | endInObject
  /-- The text ends inside a string. -/
  | endInString
  /-- No value starts with this character. -/
  | noValue
  /-- A colon is due after the name of a member. -/
  | noColon
  /-- A comma or the end of the list is due. -/
  | noListEnd
  /-- A comma or the end of the object is due. -/
  | noObjectEnd
  /-- The name of a member is due, and that is a string. -/
  | nameNotText
  /-- The comma before the closing bracket is one too many. -/
  | trailingComma
  /-- The value is complete but the text goes on. -/
  | trailingCharacters
  /-- A backslash is followed by a letter without meaning, or by digits that are not. -/
  | badEscape
  /-- The second half of an escaped pair does not follow. -/
  | halfEscape
  /-- The second half of an escaped pair stands alone. -/
  | loneSurrogate
  /-- A control character stands in a string without an escape. -/
  | controlCharacter
  /-- A word other than `true`, `false` and `null`. -/
  | badWord
  /-- A number that breaks the rules for writing one. -/
  | badNumber
  /-- A number beyond the largest floating point number. -/
  | hugeNumber
  /-- Lists and objects are nested too deeply. -/
  | tooDeep
  /-- A value of another type. -/
  | wrongType (found : Found) (expected : String)
  /-- A value of the right type that is not among those allowed. -/
  | wrongValue (found : Found) (expected : String)
  | wrongLength (length : Nat) (expected : String)
  /-- A record without a field that it needs. -/
  | missingField (name : String)
  /-- A record with a field given twice. -/
  | duplicateField (name : String)
  | unknownField (name : String) (known : List String)
  /-- A name that is not among those of an enumeration. -/
  | unknownVariant (name : String) (known : List String)
deriving DecidableEq

/-- A name between backquotes. -/
def backquoted (s : String) : String :=
  "`" ++ s ++ "`"

/-- The names that would have been right. -/
def oneOf : List String → String
  | [a] => backquoted a
  | [a, b] => backquoted a ++ " or " ++ backquoted b
  | names => "one of " ++ String.intercalate ", " (names.map backquoted)

/-- The wording of a problem, without the line and the column where it is met. -/
def Problem.message : Problem → String
  | .endInValue => "EOF while parsing a value"
  | .endInList => "EOF while parsing a list"
  | .endInObject => "EOF while parsing an object"
  | .endInString => "EOF while parsing a string"
  | .noValue => "expected value"
  | .noColon => "expected `:`"
  | .noListEnd => "expected `,` or `]`"
  | .noObjectEnd => "expected `,` or `\x7d`"
  | .nameNotText => "key must be a string"
  | .trailingComma => "trailing comma"
  | .trailingCharacters => "trailing characters"
  | .badEscape => "invalid escape"
  | .halfEscape => "unexpected end of hex escape"
  | .loneSurrogate => "lone leading surrogate in hex escape"
  | .controlCharacter => "control character (\\u0000-\\u001F) found while parsing a string"
  | .badWord => "expected ident"
  | .badNumber => "invalid number"
  | .hugeNumber => "number out of range"
  | .tooDeep => "recursion limit exceeded"
  | .wrongType found expected => "invalid type: " ++ found.describe ++ ", expected " ++ expected
  | .wrongValue found expected => "invalid value: " ++ found.describe ++ ", expected " ++ expected
  | .wrongLength length expected =>
    "invalid length " ++ toString length ++ ", expected " ++ expected
  | .missingField name => "missing field " ++ backquoted name
  | .duplicateField name => "duplicate field " ++ backquoted name
  | .unknownField name known =>
    "unknown field " ++ backquoted name ++ ", expected " ++ oneOf known
  | .unknownVariant name known =>
    "unknown variant " ++ backquoted name ++ ", expected " ++ oneOf known

end Accord
