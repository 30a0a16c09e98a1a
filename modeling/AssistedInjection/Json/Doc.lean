import AssistedInjection.Json.Fault

/-!
JSON as it was read: a tree in which the faults of the text stand where they were met.

Whoever reads a document goes through it from left to right and stops at the first thing that is
wrong for them, be it a fault of the text or a value of the wrong kind; so one tree serves every
reader. Values may be read in two ways. A *careful* reader needs the value and has a limit on
nesting. A reader that only *skims* a value wants to know where it ends: it minds fewer faults, and
words some others differently.

    [1, {"a": tru     list [1, object [("a", broken)] ended] ended
-/

namespace AssistedInjection.Json

/-- How a list or an object comes to its end. -/
inductive Stop where
  | closed
  /-- The closing bracket follows a comma. -/
  | closedAfterComma
  /-- Something else follows where a comma or the closing bracket should. -/
  | unseparated
  /-- The text ends. -/
  | ended
  /-- The text ends after a comma. -/
  | endedAfterComma
deriving DecidableEq, Repr

/-- A value as it was read, with the faults it contains. -/
inductive Doc where
  | null
  | boolean (b : Bool)
  /-- What a careful reader makes of a number, and what one that skims it finds wrong. -/
  | number (n : Except Fault Number) (skimmed : Except Fault Unit)
  /-- What a careful reader makes of a string, and what one that skims it finds wrong. -/
  | string (s : Except Fault String) (skimmed : Except Fault Unit)
  | list (items : List Doc) (stop : Stop)
  /-- Members are keys with values; what stands where a key should is a document, too. -/
  | object (members : List (Doc × Doc)) (stop : Stop)
  /-- A literal such as `true` that is misspelled or cut short. -/
  | garbled (f : Fault)
  /-- No value. -/
  | broken (f : Fault)

namespace Stop

/-- What a careful reader of a list finds wrong with its end. -/
def inList : Stop → Except Fault Unit
  | closed => .ok ()
  | closedAfterComma => .error .danglingComma
  | unseparated => .error .unseparatedItems
  | ended => .error .endInList
  | endedAfterComma => .error .endInValue

/-- What a careful reader of an object finds wrong with its end. -/
def inObject : Stop → Except Fault Unit
  | closed => .ok ()
  | closedAfterComma => .error .danglingComma
  | unseparated => .error .unseparatedMembers
  | ended => .error .endInObject
  | endedAfterComma => .error .endInValue

/-- What a reader that skims a list finds wrong with its end. -/
def inSkimmedList : Stop → Except Fault Unit
  | closedAfterComma => .error .noValue
  | stop => stop.inList

/-- What a reader that skims an object finds wrong with its end. -/
def inSkimmedObject : Stop → Except Fault Unit
  | closedAfterComma => .error .keyNotString
  | endedAfterComma => .error .endInObject
  | stop => stop.inObject

end Stop

/-- How many lists and objects may be open at once. -/
def nestingLimit : Nat := 127

/-- Opens a list or an object where `room` more may be opened; what remains inside. -/
def descend : Nat → Except Fault Nat
  | 0 => .error .tooDeep
  | room + 1 => .ok room

namespace Doc

/-- The text of a key, for a careful reader. -/
def key : Doc → Except Fault String
  | .string s _ => s
  | _ => .error .keyNotString

/-- What a reader that skims a key finds wrong with it. -/
def skimKey : Doc → Except Fault Unit
  | .string _ skimmed => skimmed
  | _ => .error .keyNotString

mutual

/-- What a reader that skims a value finds wrong with it. -/
def skim : Doc → Except Fault Unit
  | .list items stop => do skimItems items; stop.inSkimmedList
  | .object members stop => do skimMembers members; stop.inSkimmedObject
  | .number _ skimmed => skimmed
  | .string _ skimmed => skimmed
  | .garbled f => .error f
  | .broken f => .error f
  | .null => .ok ()
  | .boolean _ => .ok ()

/-- The first thing wrong with any of some items. -/
def skimItems : List Doc → Except Fault Unit
  | [] => .ok ()
  | d :: ds => do skim d; skimItems ds

/-- The first thing wrong with any of some members. -/
def skimMembers : List (Doc × Doc) → Except Fault Unit
  | [] => .ok ()
  | (k, d) :: ms => do skimKey k; skim d; skimMembers ms

end

mutual

/-- The whole value, for a careful reader that may open `room` lists and objects. -/
def value (room : Nat) : Doc → Except Fault Json
  | .null => .ok .null
  | .boolean b => .ok (.boolean b)
  | .number n _ => n.map .number
  | .string s _ => s.map .string
  | .list items stop => do
    let room ← descend room
    let items ← values room items
    stop.inList
    return .list items
  | .object members stop => do
    let room ← descend room
    let members ← memberValues room members
    stop.inObject
    return .object members
  | .garbled f => .error f
  | .broken f => .error f

/-- The values of items, from left to right. -/
def values (room : Nat) : List Doc → Except Fault (List Json)
  | [] => .ok []
  | d :: ds => do return (← value room d) :: (← values room ds)

/-- The keys and values of members, from left to right. -/
def memberValues (room : Nat) : List (Doc × Doc) → Except Fault (List (String × Json))
  | [] => .ok []
  | (k, d) :: ms => do return (← k.key, ← value room d) :: (← memberValues room ms)

end

mutual

/-- The document without any fault that says what a value says. -/
def ofJson : Json → Doc
  | .null => .null
  | .boolean b => .boolean b
  | .number n => .number (.ok n) (.ok ())
  | .string s => .string (.ok s) (.ok ())
  | .list items => .list (ofItems items) .closed
  | .object members => .object (ofMembers members) .closed

/-- The documents of the items of a list. -/
def ofItems : List Json → List Doc
  | [] => []
  | j :: js => ofJson j :: ofItems js

/-- The documents of the members of an object. -/
def ofMembers : List (String × Json) → List (Doc × Doc)
  | [] => []
  | (k, j) :: ms => (.string (.ok k) (.ok ()), ofJson j) :: ofMembers ms

end

end Doc

end AssistedInjection.Json
