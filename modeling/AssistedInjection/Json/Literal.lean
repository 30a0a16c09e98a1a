import AssistedInjection.Json.Fault

/-!
Strings in JSON text, from after the opening quote.
-/

namespace AssistedInjection.Json

/-- Four digits in base sixteen, after `\u`. What counts is whether four bytes are left. -/
def scanHexFour (text : List Char) : Except Fault (Nat × List Char) :=
  match text with
  | a :: b :: c :: d :: rest =>
    match Text.hexFour? a b c d with
    | some n => .ok (n, rest)
    | none => .error .badEscape
  | short =>
    if 4 ≤ (String.ofList short).utf8ByteSize then .error .badEscape else .error .endInString

/-- The first half of a surrogate pair. -/
def isHighSurrogate (n : Nat) : Bool := 0xD800 ≤ n && n < 0xDC00

/-- The second half of a surrogate pair. -/
def isLowSurrogate (n : Nat) : Bool := 0xDC00 ≤ n && n < 0xE000

/-- The second half of a surrogate pair, `\u` included. -/
def scanLowSurrogate : List Char → Except Fault (Nat × List Char)
  | '\\' :: 'u' :: rest => do
    let (low, rest) ← scanHexFour rest
    if isLowSurrogate low then return (low, rest) else throw .loneSurrogate
  | [] | ['\\'] => .error .endInString
  | _ => .error .halfSurrogatePair

/-- The character after `\u`. -/
def scanUnicodeEscape (text : List Char) : Except Fault (Char × List Char) := do
  let (n, rest) ← scanHexFour text
  if isLowSurrogate n then throw .loneSurrogate
  if isHighSurrogate n then
    let (low, rest) ← scanLowSurrogate rest
    return (.ofNat (0x10000 + (n - 0xD800) * 0x400 + (low - 0xDC00)), rest)
  return (.ofNat n, rest)

/-- The character that an escape of one letter stands for. -/
def simpleEscape? : Char → Option Char
  | '"' => some '"'
  | '\\' => some '\\'
  | '/' => some '/'
  | 'b' => some '\x08'
  | 'f' => some '\x0c'
  | 'n' => some '\n'
  | 'r' => some '\r'
  | 't' => some '\t'
  | _ => none

/-- The character after a backslash. -/
def scanEscape : List Char → Except Fault (Char × List Char)
  | [] => .error .endInString
  | 'u' :: rest => scanUnicodeEscape rest
  | c :: rest =>
    match simpleEscape? c with
    | some e => .ok (e, rest)
    | none => .error .badEscape

/-- Passes over what follows a backslash; surrogates need not come in pairs. -/
def skimEscape : List Char → Except Fault (Unit × List Char)
  | [] => .error .endInString
  | 'u' :: rest => (scanHexFour rest).map fun (_, rest) => ((), rest)
  | c :: rest => if (simpleEscape? c).isSome then .ok ((), rest) else .error .badEscape

/-- Goes on to the closing quote, at most `n` characters; `escape` reads on after a backslash. -/
def scanChars {α : Type} (escape : List Char → Except Fault (α × List Char)) (plain : Char → α) :
    Nat → List Char → Except Fault (List α × List Char)
  | 0, _ | _, [] => .error .endInString
  | _ + 1, '"' :: rest => .ok ([], rest)
  | n + 1, '\\' :: rest => do
    let (a, rest) ← escape rest
    let (as, rest) ← scanChars escape plain n rest
    return (a :: as, rest)
  | n + 1, c :: rest => do
    if c.toNat < 32 then throw .rawControl
    let (as, rest) ← scanChars escape plain n rest
    return (plain c :: as, rest)

/-- The string, for a careful reader. -/
def scanString (text : List Char) : Except Fault (String × List Char) :=
  (scanChars scanEscape id text.length text).map fun (cs, rest) => (.ofList cs, rest)

/-- Passes over the string. -/
def skimString (text : List Char) : Except Fault (Unit × List Char) :=
  (scanChars skimEscape (fun _ => ()) text.length text).map fun (_, rest) => ((), rest)

end AssistedInjection.Json
