import AssistedInjection.Json.Doc
import AssistedInjection.Json.Numeral
import AssistedInjection.Json.Literal

/-!
From text to document. Nothing is refused here: a fault becomes part of the document, and the text
behind a fault that no reader can pass is left out.
-/

namespace AssistedInjection.Json

/-- The blanks that may stand between tokens. -/
def isGap (c : Char) : Bool := c == ' ' || c == '\n' || c == '\t' || c == '\r'

/-- The text behind the blanks at its front. -/
def skipGap (text : List Char) : List Char := text.dropWhile isGap

namespace Doc

/-- The rest of a literal such as `true`. -/
def ofLiteral (d : Doc) : List Char → List Char → Doc × List Char
  | [], text => (d, text)
  | _ :: _, [] => (.garbled .endInValue, [])
  | c :: cs, c' :: text => if c = c' then ofLiteral d cs text else (.garbled .misspelled, [])

/-- A number; text behind a malformed one is left out. -/
def ofNumeral (text : List Char) : Doc × List Char :=
  match Numeral.cut text with
  | .ok (n, rest) => (.number n.value (.ok ()), rest)
  | .error f => (.number (.error f) (.error .badNumber), [])

/-- A string from after its opening quote; text behind a malformed one is left out. -/
def ofLiteralText (text : List Char) : Doc × List Char :=
  let s := (scanString text).map (·.1)
  match skimString text with
  | .ok (_, rest) => (.string s (.ok ()), rest)
  | .error f => (.string s (.error f), [])

mutual

/-- The value at the front of a text, read in at most `n` steps. -/
def ofText : Nat → List Char → Doc × List Char
  | 0, _ => (.broken .endInValue, [])
  | n + 1, text =>
    match skipGap text with
    | [] => (.broken .endInValue, [])
    | 'n' :: rest => ofLiteral .null "ull".toList rest
    | 't' :: rest => ofLiteral (.boolean true) "rue".toList rest
    | 'f' :: rest => ofLiteral (.boolean false) "alse".toList rest
    | '"' :: rest => ofLiteralText rest
    | '[' :: rest =>
      match skipGap rest with
      | [] => (.list [] .ended, [])
      | ']' :: rest => (.list [] .closed, rest)
      | rest =>
        let (items, stop, rest) := itemsOf n rest
        (.list items stop, rest)
    | '\x7b' :: rest =>
      match skipGap rest with
      | [] => (.object [] .ended, [])
      | '\x7d' :: rest => (.object [] .closed, rest)
      | rest =>
        let (members, stop, rest) := membersOf n rest
        (.object members stop, rest)
    | c :: rest => if c.isDigit || c == '-' then ofNumeral (c :: rest) else (.broken .noValue, [])

/-- Items from where one starts, up to the end of the list. -/
def itemsOf : Nat → List Char → List Doc × Stop × List Char
  | 0, _ => ([], .ended, [])
  | n + 1, text =>
    let (d, rest) := ofText n text
    match skipGap rest with
    | [] => ([d], .ended, [])
    | ']' :: rest => ([d], .closed, rest)
    | ',' :: rest =>
      match skipGap rest with
      | [] => ([d], .endedAfterComma, [])
      | ']' :: rest => ([d], .closedAfterComma, rest)
      | rest =>
        let (ds, stop, rest) := itemsOf n rest
        (d :: ds, stop, rest)
    | _ => ([d], .unseparated, [])

/-- Members from where a key starts, up to the end of the object. -/
def membersOf : Nat → List Char → List (Doc × Doc) × Stop × List Char
  | 0, _ => ([], .ended, [])
  | n + 1, text =>
    let (k, rest) := ofText n text
    let (d, rest) :=
      match skipGap rest with
      | [] => (.broken .endInObject, [])
      | ':' :: rest => ofText n rest
      | _ => (.broken .noColon, [])
    match skipGap rest with
    | [] => ([(k, d)], .ended, [])
    | '\x7d' :: rest => ([(k, d)], .closed, rest)
    | ',' :: rest =>
      match skipGap rest with
      | [] => ([(k, d)], .endedAfterComma, [])
      | '\x7d' :: rest => ([(k, d)], .closedAfterComma, rest)
      | rest =>
        let (ms, stop, rest) := membersOf n rest
        ((k, d) :: ms, stop, rest)
    | _ => ([(k, d)], .unseparated, [])

end

end Doc

/-- A document and whether more than blanks follows it. -/
structure Source where
  doc : Doc
  more : Bool

/-- Reads a text. Going into a list or an object takes two steps for its bracket, and no other
character takes more. -/
def Source.ofString (text : String) : Source :=
  let (doc, rest) := Doc.ofText (2 * (text.length + 1)) text.toList
  ⟨doc, !(skipGap rest).isEmpty⟩

end AssistedInjection.Json
