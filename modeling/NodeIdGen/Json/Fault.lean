import NodeIdGen.Json.Basic
import NodeIdGen.Text.Quoted

/-!
# What is wrong with a JSON text

`SyntaxFault` is about the text alone, `DataFault` about values that do not have the wanted form.
The wording of both is in `Fault.message`.

A fault does not keep its place in the text. So the wording ends before the ` at line 1 column 2`
that a message about a text ends with when it is printed, and the same holds of every message that
is made from it: those of refused documents and those of manifests that cannot be read.
-/

namespace NodeIdGen.Json

/-- A place where the text breaks off or goes wrong. -/
inductive SyntaxFault
  | endInValue
  | endInArray
  | endInObject
  | endInString
  | noValue
  | noWord
  | noColon
  | noCommaOrBracket
  | noCommaOrBrace
  | commaAtEnd
  | surplus
  | keyNoString
  | badNumber
  | numberTooLarge
  | badEscape
  | loneSurrogate
  | endInEscape
  | controlCharacter
  | tooDeep
  | notUnicode
  deriving DecidableEq, Repr

def SyntaxFault.message : SyntaxFault → String
  | .endInValue => "EOF while parsing a value"
  | .endInArray => "EOF while parsing a list"
  | .endInObject => "EOF while parsing an object"
  | .endInString => "EOF while parsing a string"
  | .noValue => "expected value"
  | .noWord => "expected ident"
  | .noColon => "expected `:`"
  | .noCommaOrBracket => "expected `,` or `]`"
  | .noCommaOrBrace => "expected `,` or `\x7d`"
  | .commaAtEnd => "trailing comma"
  | .surplus => "trailing characters"
  | .keyNoString => "key must be a string"
  | .badNumber => "invalid number"
  | .numberTooLarge => "number out of range"
  | .badEscape => "invalid escape"
  | .loneSurrogate => "lone leading surrogate in hex escape"
  | .endInEscape => "unexpected end of hex escape"
  | .controlCharacter => "control character (\\u0000-\\u001F) found while parsing a string"
  | .tooDeep => "recursion limit exceeded"
  | .notUnicode => "invalid unicode code point"

/-- What stands in the place of something else. -/
inductive Found
  | null
  | bool (b : Bool)
  | number (n : Number)
  | string (s : String)
  | array
  | object
  deriving DecidableEq, Repr

/-- A value that does not have the wanted form. -/
inductive DataFault
  | invalidType (found : Found) (expected : String)
  | invalidValue (found : Found) (expected : String)
  | invalidLength (n : Nat) (expected : String)
  | unknownField (name : String) (expected : List String)
  | unknownVariant (name : String) (expected : List String)
  | missingField (name : String)
  | duplicateField (name : String)
  deriving DecidableEq, Repr

inductive Fault
  | text (f : SyntaxFault)
  | data (f : DataFault)
  deriving DecidableEq, Repr

/-- Names in messages. -/
def ticked (s : String) : String :=
  "`" ++ s ++ "`"

/-- Names to choose from. -/
def choice : List String → String
  | [a] => ticked a
  | [a, b] => ticked a ++ " or " ++ ticked b
  | names => "one of " ++ ", ".intercalate (names.map ticked)

def Number.text : Number → String
  | .natural n => "integer " ++ ticked (toString n)
  | .negative n => "integer " ++ ticked ("-" ++ toString n)
  | .double bits => "floating point " ++ ticked (doubleLayout.render bits)

def Found.text : Found → String
  | .null => "null"
  | .bool true => "boolean `true`"
  | .bool false => "boolean `false`"
  | .number n => n.text
  | .string s => "string " ++ NodeIdGen.Text.quoted s
  | .array => "sequence"
  | .object => "map"

def DataFault.message : DataFault → String
  | .invalidType found expected => "invalid type: " ++ found.text ++ ", expected " ++ expected
  | .invalidValue found expected => "invalid value: " ++ found.text ++ ", expected " ++ expected
  | .invalidLength n expected => "invalid length " ++ toString n ++ ", expected " ++ expected
  | .unknownField name expected =>
    "unknown field " ++ ticked name ++ ", expected " ++ choice expected
  | .unknownVariant name expected =>
    "unknown variant " ++ ticked name ++ ", expected " ++ choice expected
  | .missingField name => "missing field " ++ ticked name
  | .duplicateField name => "duplicate field " ++ ticked name

def Fault.message : Fault → String
  | .text f => f.message
  | .data f => f.message

/-- What a value is in the place of something else. -/
def found : Json → Found
  | .null => .null
  | .bool b => .bool b
  | .number n => .number n
  | .string s => .string s
  | .array _ => .array
  | .object _ => .object

end NodeIdGen.Json
