import AssistedInjection.Json.Form

/-!
Records. A record is written as an object of its fields in order, those left out that say nothing.
It is read from such an object, whose members may come in any order among others, or from the bare
list of its fields in order.

    {"name": "p", "type": "A"}        ["p", "A"]

A record is described once, as the list of its fields; rows of values follow that list by type.
-/

namespace AssistedInjection.Json

/-- A field of a record: its name, the form of its values, and when it may be left out. -/
structure Field where
  name : String
  Carrier : Type
  form : Form Carrier
  /-- What stands for the field where it is left out; without it the field is required. -/
  fallback : Option Carrier
  /-- Whether the field is left out when it has this value. -/
  omitted : Carrier → Bool

namespace Field

variable {α : Type}

/-- A field that is always there. -/
def required (name : String) (form : Form α) : Field := ⟨name, α, form, none, fun _ => false⟩

/-- A field that is always written and may be left out for a fixed value. -/
def withDefault (name : String) (form : Form α) (fallback : α) : Field :=
  ⟨name, α, form, some fallback, fun _ => false⟩

/-- A field that is left out, or null, where it has no value. -/
def optional (name : String) (form : Form α) : Field :=
  ⟨name, Option α, form.orNull, some none, Option.isNone⟩

/-- A list that is left out where it is empty. -/
def listed (name : String) (form : Form α) : Field :=
  ⟨name, List α, form.list, some [], List.isEmpty⟩

end Field

/-- One value for each field. -/
def Row : List Field → Type
  | [] => Unit
  | f :: fs => f.Carrier × Row fs

/-- The values met so far. -/
def Draft : List Field → Type
  | [] => Unit
  | f :: fs => Option f.Carrier × Draft fs

namespace Draft

/-- No field has a value yet. -/
def empty : (fs : List Field) → Draft fs
  | [] => ()
  | _ :: fs => (none, empty fs)

/-- Takes a member: a field of the record is read, and only once; any other member is skimmed. -/
def take (room : Nat) (key : String) (d : Doc) :
    (fs : List Field) → Draft fs → Except ReadError (Draft fs)
  | [], () => liftFault d.skim
  | f :: fs, (v, vs) =>
    if f.name = key then
      match v with
      | some _ => .error (.duplicateField key)
      | none => (f.form.read room d).map (some ·, vs)
    else (take room key d fs vs).map (v, ·)

/-- Takes all members, from left to right. -/
def takeAll (room : Nat) (fs : List Field) :
    List (Doc × Doc) → Draft fs → Except ReadError (Draft fs)
  | [], draft => .ok draft
  | (k, d) :: ms, draft => do
    let key ← liftFault k.key
    let draft ← take room key d fs draft
    takeAll room fs ms draft

/-- Puts fallbacks for the fields that were not met. -/
def finish : (fs : List Field) → Draft fs → Except ReadError (Row fs)
  | [], () => .ok ()
  | f :: fs, (v, vs) =>
    match v.or f.fallback with
    | some v => (finish fs vs).map (v, ·)
    | none => .error (.missingField f.name)

end Draft

namespace Row

/-- The members of the object that a record is written as. -/
def members : (fs : List Field) → Row fs → List (String × Json)
  | [], () => []
  | f :: fs, (v, vs) => (if f.omitted v then [] else [(f.name, f.form.write v)]) ++ members fs vs

/-- The end of a list that has given all fields. -/
def endOfList : Stop → Except Fault Unit
  | .unseparated | .endedAfterComma => .error .moreText
  | stop => stop.inList

/-- Reads the fields from a list; `index` of them come before these, and `short` is the complaint
about a list that ends before a required field. -/
def ofItems (room : Nat) (short : Nat → ReadError) :
    (fs : List Field) → (index : Nat) → List Doc → Stop → Except ReadError (Row fs)
  | [], _, [], stop => liftFault (endOfList stop)
  | [], _, _ :: _, _ => .error (.fault .moreText)
  | f :: fs, index, d :: ds, stop => do
    let v ← f.form.read room d
    let vs ← ofItems room short fs (index + 1) ds stop
    return (v, vs)
  | f :: fs, index, [], stop => do
    liftFault stop.inList
    match f.fallback with
    | some v => return (v, ← ofItems room short fs (index + 1) [] stop)
    | none => throw (short index)

end Row

/-- The form of a record with the given name and fields. -/
def Form.record {α : Type} (name : String) (fields : List Field) (toRow : α → Row fields)
    (ofRow : Row fields → α) : Form α where
  write a := .object (Row.members fields (toRow a))
  read room
    | .object members stop => do
      let room ← liftFault (descend room)
      let draft ← Draft.takeAll room fields members (Draft.empty fields)
      liftFault stop.inObject
      return ofRow (← Draft.finish fields draft)
    | .list items stop => do
      let room ← liftFault (descend room)
      return ofRow (← Row.ofItems room (.tooShort · name fields.length) fields 0 items stop)
    | d => mismatch ("struct " ++ name) d

end AssistedInjection.Json
