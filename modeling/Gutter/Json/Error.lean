import Gutter.Decimal.Shortest
import Gutter.Text.Quoted

/-!
# What can be wrong with a JSON text

A text can break the grammar, or it can follow the grammar and not describe what was asked for.
-/

namespace Gutter.Json

/-- A breach of the grammar, or of a limit of the reader. -/
inductive Fault where
  | endInValue
  | endInList
  | endInObject
  | endInString
  | noValue
  | badWord
  | badNumber
  | numberOutOfRange
  | noCommaInList
  | noCommaInObject
  | noColon
  | keyNotString
  | trailingComma
  | trailingText
  | controlCharacter
  | badEscape
  | loneSurrogate
  | unfinishedPair
  | notUtf8
  | tooDeep
  deriving DecidableEq, Repr

namespace Fault

def isEnd : Fault → Bool
  | .endInValue | .endInList | .endInObject | .endInString => true
  | _ => false

/-- The wording of a fault. -/
def message : Fault → String
  | .endInValue => "EOF while parsing a value"
  | .endInList => "EOF while parsing a list"
  | .endInObject => "EOF while parsing an object"
  | .endInString => "EOF while parsing a string"
  | .noValue => "expected value"
  | .badWord => "expected ident"
  | .badNumber => "invalid number"
  | .numberOutOfRange => "number out of range"
  | .noCommaInList => "expected `,` or `]`"
  | .noCommaInObject => "expected `,` or `\x7d`"
  | .noColon => "expected `:`"
  | .keyNotString => "key must be a string"
  | .trailingComma => "trailing comma"
  | .trailingText => "trailing characters"
  | .controlCharacter => "control character (\\u0000-\\u001F) found while parsing a string"
  | .badEscape => "invalid escape"
  | .loneSurrogate => "lone leading surrogate in hex escape"
  | .unfinishedPair => "unexpected end of hex escape"
  | .notUtf8 => "invalid unicode code point"
  | .tooDeep => "recursion limit exceeded"

end Fault

/-- A number: an integer that fits 64 bits, or a number of double precision. -/
inductive Number where
  | integer (n : Int)
  | float (x : Binary64)
  deriving DecidableEq, Repr

/-- What kind of value stands in a text. -/
inductive Kind where
  | null
  | boolean (b : Bool)
  | number (n : Number)
  | string (s : String)
  | list
  | object
  deriving DecidableEq, Repr

namespace Kind

/-- The words for a kind of value. -/
def describe : Kind → String
  | .null => "null"
  | .boolean true => "boolean `true`"
  | .boolean false => "boolean `false`"
  | .number (.integer n) => "integer `" ++ toString n ++ "`"
  | .number (.float x) => "floating point `" ++ Decimal.plain.text x ++ "`"
  | .string s => "string " ++ Text.quote s
  | .list => "sequence"
  | .object => "map"

end Kind

/-- How a value fails to describe what was asked for. -/
inductive Mismatch where
  | kind (found : Kind) (wanted : String)
  | range (found : Int) (wanted : String)
  | missing (field : String)
  | duplicate (field : String)
  | choice (found : String) (choices : List String)
  | length (found : Nat) (wanted : String) (fields : Nat)
  | shape
  deriving DecidableEq, Repr

namespace Mismatch

def listChoices (choices : List String) : String :=
  " or ".intercalate (choices.map fun c => "`" ++ c ++ "`")

/-- The wording of a mismatch. -/
def message : Mismatch → String
  | .kind found wanted => "invalid type: " ++ found.describe ++ ", expected " ++ wanted
  | .range found wanted =>
    "invalid value: integer `" ++ toString found ++ "`, expected " ++ wanted
  | .missing field => "missing field `" ++ field ++ "`"
  | .duplicate field => "duplicate field `" ++ field ++ "`"
  | .choice found choices => "unknown variant `" ++ found ++ "`, expected " ++ listChoices choices
  | .length found wanted fields => "invalid length " ++ toString found ++ ", expected " ++ wanted ++
      " with " ++ toString fields ++ " elements"
  | .shape => "data did not match any variant of untagged enum Report"

end Mismatch

/-- Why a text cannot be read. -/
inductive Error where
  | fault (f : Fault)
  | mismatch (m : Mismatch)
  deriving DecidableEq, Repr

/-- The classes of errors. -/
inductive Error.Category where
  | grammar
  | ending
  | data
  deriving DecidableEq, Repr

namespace Error

def category : Error → Category
  | .fault f => if f.isEnd then .ending else .grammar
  | .mismatch _ => .data

def message : Error → String
  | .fault f => f.message
  | .mismatch m => m.message

end Error

end Gutter.Json
