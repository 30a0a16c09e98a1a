import AssistedInjection.Declaration.TypeRef
import AssistedInjection.Json.Record
import AssistedInjection.Text.Blank

/-!
Annotations and their constant arguments, passed by name or by position.
-/

namespace AssistedInjection.Declaration

open Kotlin
open Json (Form Field ReadError)

/-- A constant that an annotation can take. -/
inductive Constant where
  | string (value : String)
  /-- A class literal such as `Api::class`. -/
  | classLiteral (type : TypeRef)
  | boolean (value : Bool)
  | int (value : Int64)
deriving DecidableEq

namespace Constant

/-- The constant as it is named in messages. -/
def text : Constant → String
  | string value => Text.quoted value
  | classLiteral type => type.text ++ "::class"
  | boolean value => toString value
  | int value => toString value.toInt

/-- The reference in a class literal. -/
def typeRef? : Constant → Option TypeRef
  | classLiteral type => some type
  | _ => none

/-- An object whose only key names the kind of constant. -/
def toJson : Constant → Json
  | string value => .object [("string", .string value)]
  | classLiteral type => .object [("class", type.toJson)]
  | boolean value => .object [("boolean", .boolean value)]
  | int value => .object [("int", .ofInt value.toInt)]

/-- The readers of the kinds of constant, by name. -/
def kinds : List (String × (Nat → Json.Doc → Except ReadError Constant)) :=
  [("string", fun room d => (Form.string.read room d).map string),
    ("class", fun room d => (TypeRef.form.read room d).map classLiteral),
    ("boolean", fun room d => (Form.boolean.read room d).map boolean),
    ("int", fun room d => (Form.int64.read room d).map int)]

/-- The reader of the kind that a document names. -/
def kindOf (k : Json.Doc) : Except ReadError (Nat → Json.Doc → Except ReadError Constant) := do
  let name ← Json.liftFault k.key
  match kinds.lookup name with
  | some read => return read
  | none => throw (.unknownVariant name (kinds.map (·.1)))

/-- An object whose only key names the kind of constant. -/
def form : Form Constant where
  write := toJson
  read room
    | d@(.string ..) => do
      let _ ← kindOf d
      throw (.wrongType .bareVariant "newtype variant")
    | d => Form.onlyMember (fun room k v => do (← kindOf k) room v) room d

end Constant

/-- An argument of an annotation. -/
structure Argument where
  /-- Absent for an argument passed by position. -/
  name : Option String
  value : Constant
deriving DecidableEq

/-- An argument in JSON; one passed by position has no name. -/
def Argument.form : Form Argument :=
  .record "Argument" [.optional "name" .string, .required "value" Constant.form]
    (fun a => (a.name, a.value, ())) (fun (name, value, ()) => ⟨name, value⟩)

/-- An annotation with its arguments in the order of the source. -/
structure Annotation where
  name : ClassName
  arguments : List Argument
deriving DecidableEq

namespace Annotation

/-- An annotation in JSON. -/
def form : Form Annotation :=
  .record "Annotation" [.required "name" ClassName.form, .listed "arguments" Argument.form]
    (fun a => (a.name, a.arguments, ())) (fun (name, arguments, ()) => ⟨name, arguments⟩)

/-- The argument with the given name, or else the one in the given position if it is passed by
position. Positions count every argument, since one passed by position may follow one passed by name
in its place. -/
def argument? (a : Annotation) (name : String) (position : Nat) : Option Constant :=
  match a.arguments.find? (·.name = some name) with
  | some argument => some argument.value
  | none => (a.arguments[position]?.filter (·.name.isNone)).map (·.value)

/-- The text passed as `value`, unless it is blank. -/
def stringValue? (a : Annotation) : Option String :=
  match a.argument? "value" 0 with
  | some (.string value) => Text.unlessBlank value
  | _ => none

end Annotation

/-- The first annotation with the given name. -/
def annotationFor? (marker : ClassName) (annotations : List Annotation) : Option Annotation :=
  annotations.find? (·.name = marker)

end AssistedInjection.Declaration
