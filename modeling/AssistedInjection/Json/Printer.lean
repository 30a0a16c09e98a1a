import AssistedInjection.Json.Basic
import AssistedInjection.Decimal.Shortest
import AssistedInjection.Text.Hex

/-!
JSON text. One printer serves two styles, which differ in nothing but the blanks between tokens:
compact text has none, spread text puts every item on a line of its own, indented by two spaces a
level.
-/

namespace AssistedInjection.Json

/-- The blanks that a style puts between tokens. -/
structure Style where
  /-- Before an item or a closing bracket at some depth. -/
  lineBreak : Nat → String
  /-- After the colon of a member. -/
  afterColon : String

/-- No blanks at all. -/
def Style.compact : Style := ⟨fun _ => "", ""⟩

/-- A line for every item, two spaces a level, and a space after each colon. -/
def Style.spread : Style := ⟨fun depth => "\n" ++ .ofList (List.replicate (2 * depth) ' '), " "⟩

/-- How one character is written in a string. -/
def escapedChar (c : Char) : String :=
  match c with
  | '"' => "\\\""
  | '\\' => "\\\\"
  | '\x08' => "\\b"
  | '\x0c' => "\\f"
  | '\n' => "\\n"
  | '\r' => "\\r"
  | '\t' => "\\t"
  | c => if c.toNat < 16 then "\\u000" ++ Text.hex c.toNat
    else if c.toNat < 32 then "\\u00" ++ Text.hex c.toNat
    else c.toString

/-- A string between quotes. -/
def stringText (s : String) : String := "\"" ++ String.join (s.toList.map escapedChar) ++ "\""

/-- Digits with a point among or beside them; `point` digits stand before it. -/
def positional (digits : List Char) (point : Int) : List Char :=
  if point ≤ 0 then "0.".toList ++ List.replicate (-point).toNat '0' ++ digits
  else if digits.length ≤ point.toNat then
    digits ++ List.replicate (point.toNat - digits.length) '0' ++ ".0".toList
  else digits.take point.toNat ++ '.' :: digits.drop point.toNat

/-- One digit, a point and the others if there are any, and the exponent with its sign. -/
def scientific (digits : List Char) (exponent : Int) : List Char :=
  digits.take 1 ++ (if digits.length ≤ 1 then [] else '.' :: digits.drop 1) ++
    'e' :: (if exponent < 0 then '-' else '+') :: Nat.toDigits 10 exponent.natAbs

/-- The text of a finite floating point number: the fewest digits that read back, positional from
`1e-5` up to below `1e16`. -/
def floatText (x : Float) : String :=
  let sign := if x.toBits.toNat.testBit 63 then "-" else ""
  if x == 0 then sign ++ "0.0"
  else
    let d := Decimal.shortest x
    let digits := Nat.toDigits 10 d.digits
    let exponent := d.exponent + digits.length - 1
    sign ++ .ofList
      (if -5 ≤ exponent && exponent ≤ 15 then positional digits (exponent + 1)
      else scientific digits exponent)

/-- The text of a number. -/
def Number.text : Number → String
  | .integer n => toString n
  | .floating x => floatText x

mutual

/-- The text of a value that stands at some depth. -/
def write (style : Style) (depth : Nat) : Json → String
  | .null => "null"
  | .boolean true => "true"
  | .boolean false => "false"
  | .number n => n.text
  | .string s => stringText s
  | .list [] => "[]"
  | .list (a :: as) =>
    "[" ++ style.lineBreak (depth + 1) ++ write style (depth + 1) a ++
      writeItems style (depth + 1) as ++ style.lineBreak depth ++ "]"
  | .object [] => "\x7b\x7d"
  | .object (m :: ms) =>
    "\x7b" ++ style.lineBreak (depth + 1) ++ writeMember style (depth + 1) m ++
      writeMembers style (depth + 1) ms ++ style.lineBreak depth ++ "\x7d"

/-- Further items, each after a comma. -/
def writeItems (style : Style) (depth : Nat) : List Json → String
  | [] => ""
  | a :: as => "," ++ style.lineBreak depth ++ write style depth a ++ writeItems style depth as

/-- A key with its value. -/
def writeMember (style : Style) (depth : Nat) : String × Json → String
  | (key, a) => stringText key ++ ":" ++ style.afterColon ++ write style depth a

/-- Further members, each after a comma. -/
def writeMembers (style : Style) (depth : Nat) : List (String × Json) → String
  | [] => ""
  | m :: ms =>
    "," ++ style.lineBreak depth ++ writeMember style depth m ++ writeMembers style depth ms

end

/-- The text without any blanks. -/
def compact (j : Json) : String := j.write .compact 0

/-- The text with one item a line. -/
def spread (j : Json) : String := j.write .spread 0

end AssistedInjection.Json
