import AssistedInjection.Kotlin.Form

/-!
References to types. A type that some other processor has yet to generate cannot be resolved; its
reference then holds the spelling in source.

    "kotlin.String?"    {"unresolved": "Generated"}    {"package": "com.My", "names": ["A"]}

A resolved reference is its type's text, or a class name in parts where it is a bare class whose
canonical name does not lead back to it.
-/

namespace AssistedInjection.Declaration

open Kotlin
open Json (Form ReadError)

/-- A type as a declaration mentions it. -/
inductive TypeRef where
  | resolved (type : TypeExpr)
  /-- The type as spelled in source. -/
  | unresolved (spelling : String)
deriving DecidableEq

namespace TypeRef

/-- The type of a resolved reference. -/
def type? : TypeRef → Option TypeExpr
  | resolved type => some type
  | unresolved _ => none

/-- The spelling of an unresolved reference. -/
def spelling? : TypeRef → Option String
  | resolved _ => none
  | unresolved spelling => some spelling

/-- The text of the type, or its spelling in source. -/
def text : TypeRef → String
  | resolved type => type.text
  | unresolved spelling => spelling

/-- The JSON of a reference, in one of the three forms above. -/
def toJson : TypeRef → Json
  | unresolved spelling => .object [("unresolved", .string spelling)]
  | resolved type@(.classType name [] false) =>
    if name.parsesBack then .string type.text else name.parts
  | resolved type => .string type.text

/-- The reference a value stands for: an unresolved one wins over a class name in parts. -/
def ofJson (j : Json) : Except ReadError TypeRef :=
  let found : Option TypeRef :=
    match j with
    | .string s => (TypeExpr.parse s).toOption.map resolved
    | .object members =>
      match Json.valuesOf "unresolved" members with
      | [.string spelling] => some (unresolved spelling)
      | _ => do
        let (package, names) ← partsOf members
        let name ← (ClassName.ofParts package names).toOption
        return resolved (.ofClass name)
    | _ => none
  match found with
  | some r => .ok r
  | none => .error (.noForm "RawTypeRef")

/-- A reference in JSON. -/
def form : Form TypeRef := .chosen toJson ofJson

end TypeRef

end AssistedInjection.Declaration
