import AssistedInjection.Unicode.Unprintable
import AssistedInjection.Text.Hex

/-!
Text in double quotes, for messages. Quotes and backslashes are escaped, four control characters
have short escapes, and every other character that does not show by itself is written as its code
point.
-/

namespace AssistedInjection.Text

open Unicode

/-- How one character is written between quotes. -/
def quotedChar (c : Char) : String :=
  match c with
  | '\x00' => "\\0"
  | '\t' => "\\t"
  | '\n' => "\\n"
  | '\r' => "\\r"
  | '"' => "\\\""
  | '\\' => "\\\\"
  | c => if isUnprintable c then "\\u\x7b" ++ hex c.toNat ++ "\x7d" else c.toString

/-- A text between quotes. -/
def quoted (s : String) : String := "\"" ++ String.join (s.toList.map quotedChar) ++ "\""

end AssistedInjection.Text
