import AssistedInjection.Kotlin.Form
import AssistedInjection.Json.Record

/-!
The annotations that are looked for and written. They may be relocated, one by one.
-/

namespace AssistedInjection

open Kotlin
open Json (Form Field)

/-- The names of the annotations. -/
structure Markers where
  /-- Asks for a factory for the annotated class. -/
  contributesAssistedFactory : ClassName
  /-- Marks the constructor that takes assisted parameters. -/
  assistedInject : ClassName
  /-- Marks an assisted constructor parameter, and the key of a generated one. -/
  assisted : ClassName
  /-- Gives the key of a parameter of the bound type's factory method. -/
  assistedKey : ClassName
  /-- Written on the generated factory. -/
  assistedFactory : ClassName
  /-- Written on the generated factory to bind it into the scope. -/
  contributesBinding : ClassName
deriving DecidableEq

namespace Markers

/-- Where the annotations are unless they are relocated. -/
def standard : Markers where
  contributesAssistedFactory := .topLevel "me.gulya.anvil.assisted" "ContributesAssistedFactory"
  assistedInject := .topLevel "dagger.assisted" "AssistedInject"
  assisted := .topLevel "dagger.assisted" "Assisted"
  assistedKey := .topLevel "me.gulya.anvil.assisted" "AssistedKey"
  assistedFactory := .topLevel "dagger.assisted" "AssistedFactory"
  contributesBinding := .topLevel "com.squareup.anvil.annotations" "ContributesBinding"

/-- A marker that is not given stays where it is by standard. -/
def form : Form Markers :=
  .record "Markers"
    [.withDefault "contributes_assisted_factory" ClassName.form standard.contributesAssistedFactory,
      .withDefault "assisted_inject" ClassName.form standard.assistedInject,
      .withDefault "assisted" ClassName.form standard.assisted,
      .withDefault "assisted_key" ClassName.form standard.assistedKey,
      .withDefault "assisted_factory" ClassName.form standard.assistedFactory,
      .withDefault "contributes_binding" ClassName.form standard.contributesBinding]
    (fun m =>
      (m.contributesAssistedFactory, m.assistedInject, m.assisted, m.assistedKey, m.assistedFactory,
        m.contributesBinding, ()))
    (fun (a, b, c, d, e, f, ()) => ⟨a, b, c, d, e, f⟩)

end Markers

end AssistedInjection
