import AssistedInjection.Json.Printer
import AssistedInjection.Text.Quoted

/-!
What can be wrong with a JSON text, and with what it says.
-/

namespace AssistedInjection.Json

/-- A place where the text stops being JSON. -/
inductive Fault where
  | endInValue
  | endInList
  | endInObject
  | endInString
  | noValue
  | misspelled
  | noColon
  | unseparatedItems
  | unseparatedMembers
  | keyNotString
  | danglingComma
  | moreText
  | badNumber
  | hugeNumber
  | badEscape
  | rawControl
  | loneSurrogate
  | halfSurrogatePair
  | tooDeep
deriving DecidableEq, Repr

/-- The wording of a fault. -/
def Fault.message : Fault → String
  | endInValue => "EOF while parsing a value"
  | endInList => "EOF while parsing a list"
  | endInObject => "EOF while parsing an object"
  | endInString => "EOF while parsing a string"
  | noValue => "expected value"
  | misspelled => "expected ident"
  | noColon => "expected `:`"
  | unseparatedItems => "expected `,` or `]`"
  | unseparatedMembers => "expected `,` or `\x7d`"
  | keyNotString => "key must be a string"
  | danglingComma => "trailing comma"
  | moreText => "trailing characters"
  | badNumber => "invalid number"
  | hugeNumber => "number out of range"
  | badEscape => "invalid escape"
  | rawControl => "control character (\\u0000-\\u001F) found while parsing a string"
  | loneSurrogate => "lone leading surrogate in hex escape"
  | halfSurrogatePair => "unexpected end of hex escape"
  | tooDeep => "recursion limit exceeded"

/-- What was found where something else was expected. -/
inductive Found where
  | null
  | boolean (b : Bool)
  | number (n : Number)
  | string (s : String)
  | sequence
  | map
  | bareVariant

/-- How a message names what was found. -/
def Found.text : Found → String
  | null => "null"
  | boolean b => "boolean `" ++ toString b ++ "`"
  | number (.integer n) => "integer `" ++ toString n ++ "`"
  | number (.floating x) => "floating point `" ++ floatText x ++ "`"
  | string s => "string " ++ Text.quoted s
  | sequence => "sequence"
  | map => "map"
  | bareVariant => "unit variant"

/-- Why a document could not be read as what it should be. -/
inductive ReadError where
  | fault (f : Fault)
  | wrongType (found : Found) (expected : String)
  /-- An integer that the expected type cannot hold. -/
  | wrongValue (n : Int) (expected : String)
  | unknownVariant (name : String) (variants : List String)
  | duplicateField (name : String)
  | missingField (name : String)
  /-- A list that ends before the first field without a fallback. -/
  | tooShort (given : Nat) (record : String) (fields : Nat)
  /-- None of the forms that a choice offers fits. -/
  | noForm (choice : String)
  /-- The form fits but the content is refused, for the given reason. -/
  | refused (reason : String)

/-- The wording of an error. -/
def ReadError.message : ReadError → String
  | fault f => f.message
  | wrongType found expected => "invalid type: " ++ found.text ++ ", expected " ++ expected
  | wrongValue n expected =>
    "invalid value: " ++ (Found.number (.integer n)).text ++ ", expected " ++ expected
  | unknownVariant name variants =>
    "unknown variant `" ++ name ++ "`, expected one of " ++
      ", ".intercalate (variants.map fun v => "`" ++ v ++ "`")
  | duplicateField name => "duplicate field `" ++ name ++ "`"
  | missingField name => "missing field `" ++ name ++ "`"
  | tooShort given record fields =>
    "invalid length " ++ toString given ++ ", expected struct " ++ record ++ " with " ++
      toString fields ++ " elements"
  | noForm choice => "data did not match any variant of untagged enum " ++ choice
  | refused reason => reason

end AssistedInjection.Json
