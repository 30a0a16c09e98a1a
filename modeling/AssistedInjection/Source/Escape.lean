/-!
Escapes of Kotlin source: identifiers that are hard keywords, and string literals.
-/

namespace AssistedInjection.Source

/-- Words that cannot stand as identifiers without backticks. -/
def hardKeywords : List String :=
  ["as", "break", "class", "continue", "do", "else", "false", "for", "fun", "if", "in", "interface",
    "is", "null", "object", "package", "return", "super", "this", "throw", "true", "try",
    "typealias", "typeof", "val", "var", "when", "while"]

/-- An identifier, in backticks if it is a hard keyword. -/
def identifier (name : String) : String :=
  if hardKeywords.contains name then "`" ++ name ++ "`" else name

/-- The parts of a text between dots; there is always one more than there are dots. -/
def segments (text : String) : List String := (text.toList.splitOn '.').map .ofList

/-- A dotted name with every segment escaped. -/
def dottedName (name : String) : String := ".".intercalate ((segments name).map identifier)

/-- How one character is written in a string literal. -/
def literalChar : Char → List Char
  | '\\' => ['\\', '\\']
  | '"' => ['\\', '"']
  | '$' => ['\\', '$']
  | '\n' => ['\\', 'n']
  | '\r' => ['\\', 'r']
  | '\t' => ['\\', 't']
  | c => [c]

/-- The inside of the string literal of a text. -/
def literalBody (text : String) : String := .ofList (text.toList.flatMap literalChar)

end AssistedInjection.Source
