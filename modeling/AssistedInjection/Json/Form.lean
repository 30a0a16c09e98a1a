import AssistedInjection.Json.Reader

/-!
How values of a type stand in JSON: what is written for them, and what is read back. A form is built
from the forms of the parts, so that writing and reading go over the same description.
-/

namespace AssistedInjection.Json

/-- What a document shows itself to be to a careful reader that looks for something else. -/
def Doc.found : Doc → Except Fault Found
  | .null => .ok .null
  | .boolean b => .ok (.boolean b)
  | .number n _ => n.map .number
  | .string s _ => s.map .string
  | .list .. => .ok .sequence
  | .object .. => .ok .map
  | .garbled f => .error f
  | .broken f => .error f

/-- A fault of the text ends any reading. -/
def liftFault {α : Type} : Except Fault α → Except ReadError α
  | .ok a => .ok a
  | .error f => .error (.fault f)

/-- Refuses a document that is nothing of what is expected. -/
def mismatch {α : Type} (expected : String) (d : Doc) : Except ReadError α :=
  match d.found with
  | .ok found => .error (.wrongType found expected)
  | .error f => .error (.fault f)

/-- A way to write values of a type and to read them back. -/
structure Form (α : Type) where
  write : α → Json
  /-- Reads a document in which `room` more lists and objects may be opened. -/
  read : (room : Nat) → Doc → Except ReadError α

namespace Form

variable {α β : Type}

/-- Text, described in messages as `expected`. -/
def text (expected : String) : Form String where
  write := .string
  read _
    | .string s _ => liftFault s
    | d => mismatch expected d

/-- Any text. -/
def string : Form String := text "a string"

/-- The path of a file. -/
def path : Form String := text "path string"

/-- A truth value. -/
def boolean : Form Bool where
  write := .boolean
  read _
    | .boolean b => .ok b
    | d => mismatch "a boolean" d

/-- A whole number of 64 bits with a sign. -/
def int64 : Form Int64 where
  write n := .ofInt n.toInt
  read _
    | d@(.number (.ok (.integer n)) _) =>
      if Int64.maxValue.toInt < n then .error (.wrongValue n "i64")
      else if Int64.minValue.toInt ≤ n then .ok (.ofInt n)
      else mismatch "i64" d
    | d => mismatch "i64" d

/-- A list of values of one form. -/
def list (f : Form α) : Form (List α) where
  write as := .list (as.map f.write)
  read room
    | .list items stop => do
      let room ← liftFault (descend room)
      let as ← items.mapM (f.read room)
      liftFault stop.inList
      return as
    | d => mismatch "a sequence" d

/-- A value or null. -/
def orNull (f : Form α) : Form (Option α) where
  write := .ofOption f.write
  read room
    | .null => .ok none
    | d => (f.read room d).map some

/-- Values written as values of another type, and read back as far as `check` accepts them. -/
def checked (f : Form β) (write : α → β) (check : β → Except String α) : Form α where
  write a := f.write (write a)
  read room d := do
    let b ← f.read room d
    (check b).mapError .refused

/-- Values of which some are told apart only by what stands in them: the document is read as a
whole, and `choose` decides. -/
def chosen (write : α → Json) (choose : Json → Except ReadError α) : Form α where
  write := write
  read room d := do choose (← liftFault (d.value room))

/-- The single member of an object, read by `member`. -/
def onlyMember (member : (room : Nat) → (key value : Doc) → Except ReadError α) (room : Nat)
    (d : Doc) : Except ReadError α :=
  match d with
  | .object members stop => do
    let room ← liftFault (descend room)
    match members, stop with
    | [], .ended => throw (.fault .endInObject)
    | [], _ => throw (.fault .noValue)
    | (k, v) :: more, stop => do
      let a ← member room k v
      match more, stop with
      | [], .closed => return a
      | [], .ended => throw (.fault .endInObject)
      | _, _ => throw (.fault .noValue)
  | .broken f => .error (.fault f)
  | _ => .error (.fault .noValue)

/-- A choice among values with a name each: the name, or an object that maps the name to null. -/
def named (variants : List (String × α)) (name : α → String) : Form α where
  write a := .string (name a)
  read room d :=
    match d with
    | .string .. => lookUp d
    | d => onlyMember (fun _ k v => do
        let a ← lookUp k
        match v with
        | .null => return a
        | v => mismatch "unit" v) room d
where
  lookUp (k : Doc) : Except ReadError α := do
    let s ← liftFault k.key
    match variants.lookup s with
    | some a => return a
    | none => throw (.unknownVariant s (variants.map (·.1)))

end Form

/-- Reads a text in a form; nothing but blanks may follow. -/
def Form.ofString {α : Type} (f : Form α) (text : String) : Except ReadError α := do
  let source := Source.ofString text
  let a ← f.read nestingLimit source.doc
  if source.more then throw (.fault .moreText)
  return a

end AssistedInjection.Json
