import AssistedInjection.Kotlin.Reading
import AssistedInjection.Json.Form

/-!
Class names and types in JSON. A class name is its canonical name where that leads back to it, and
else an object of its package and its simple names; either is read. A type is its text.

    "com.test.Outer.Inner"        {"package": "com.My.app", "names": ["Outer"]}
-/

namespace AssistedInjection.Kotlin

open Json (Form ReadError)

/-- What a refused text amounts to for a reader of JSON. -/
def refusal {α : Type} : Except SyntaxError α → Except ReadError α :=
  Except.mapError fun e => .refused e.message

/-- The texts in a list of nothing else. -/
def textsOf : List Json → Option (List String)
  | [] => some []
  | .string s :: js => (textsOf js).map (s :: ·)
  | _ :: _ => none

/-- Package and simple names of an object that gives each of them once. -/
def partsOf (members : List (String × Json)) : Option (String × List String) :=
  match Json.valuesOf "package" members, Json.valuesOf "names" members with
  | [.string package], [.list names] => (textsOf names).map (package, ·)
  | _, _ => none

namespace ClassName

/-- The object of package and simple names. -/
def parts (c : ClassName) : Json :=
  .object [("package", .string c.package), ("names", .list (c.names.map .string))]

/-- The canonical name if it leads back to the class name, and else the parts. -/
def toJson (c : ClassName) : Json := if c.parsesBack then .string c.canonical else c.parts

/-- The class name a value stands for. -/
def ofJson : Json → Except ReadError ClassName
  | .string s => refusal (parse s)
  | .object members =>
    match partsOf members with
    | some (package, names) => refusal (ofParts package names)
    | none => .error (.noForm "RawClassName")
  | _ => .error (.noForm "RawClassName")

/-- A class name in JSON. -/
def form : Form ClassName := .chosen toJson ofJson

end ClassName

/-- A type in JSON: its text. -/
def TypeExpr.form : Form TypeExpr :=
  .checked .string TypeExpr.text fun s => (parse s).mapError (·.message)

end AssistedInjection.Kotlin
