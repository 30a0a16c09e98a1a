import AssistedInjection.Kotlin.ClassName
import AssistedInjection.Json.Record

/-!
Generated source files.
-/

namespace AssistedInjection.Source

open Kotlin
open Json (Form Field)

/-- A generated source file. -/
structure GeneratedFile where
  /-- The package of the generated type. -/
  package : String
  /-- The simple name of the generated type. -/
  typeName : String
  content : String
  /-- The source file of the class that the file was generated for. -/
  origin : Option String
deriving DecidableEq

namespace GeneratedFile

/-- The name of the file. -/
def fileName (f : GeneratedFile) : String := f.typeName ++ ".kt"

/-- The full name of the generated type. -/
def qualifiedName (f : GeneratedFile) : ClassName := .topLevel f.package f.typeName

/-- A generated file in JSON. -/
def form : Form GeneratedFile :=
  .record "GeneratedFile"
    [.required "package" .string, .required "type_name" .string, .required "content" .string,
      .optional "origin" .path]
    (fun f => (f.package, f.typeName, f.content, f.origin, ()))
    (fun (package, typeName, content, origin, ()) => ⟨package, typeName, content, origin⟩)

end GeneratedFile

end AssistedInjection.Source
