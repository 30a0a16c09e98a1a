import AssistedInjection.Proofs.Rounds.Trace

/-!
A small build: components that ask for a factory, and the interface that the factory implements.
They vary in their parameters only. The files go into a list, which may have a limit.
-/

namespace AssistedInjection.Sample

open Kotlin Declaration Source Rounds

/-- A class of the build. -/
def name (simple : String) : ClassName := .topLevel "com.test" simple

/-- A type of the standard library. -/
def standardType (simple : String) : TypeRef := .resolved (.ofClass (.topLevel "kotlin" simple))

/-- A class literal among the arguments of an annotation. -/
def literal (simple : String) : Argument :=
  ⟨none, .classLiteral (.resolved (.ofClass (name simple)))⟩

/-- A parameter without annotations. -/
def plain (name : String) (type : TypeRef) : Parameter := ⟨name, type, []⟩

/-- An assisted parameter without a tag. -/
def assisted (name : String) (type : TypeRef) : Parameter :=
  ⟨name, type, [⟨Markers.standard.assisted, []⟩]⟩

/-- A component whose constructor takes the given parameters. -/
def component (simple : String) (ps : List Parameter) : ClassDeclaration where
  name := name simple
  kind := .plainClass
  source := some "Api.kt"
  annotations :=
    [⟨Markers.standard.contributesAssistedFactory, [literal "Scope", literal "Factory"]⟩]
  constructors := [⟨"constructor", ps, none, [⟨Markers.standard.assistedInject, []⟩], false⟩]
  supertypes := []
  functions := []

/-- The interface of the factory, whose method takes the given parameters. -/
def factory (ps : List Parameter) : ClassDeclaration where
  name := name "Factory"
  kind := .interface
  source := none
  annotations := []
  constructors := []
  supertypes := []
  functions := [⟨"create", ps, none, [], true⟩]

/-- A component that is to be supplied with a number and a text. -/
def twofold : ClassDeclaration :=
  component "Api" [assisted "id" (standardType "Long"), assisted "name" (standardType "String")]

/-- The build of that component with a factory that takes two parameters of the given types. -/
def asking (first second : String) : SymbolTable :=
  .ofList [factory [plain "x" (standardType first), plain "y" (standardType second)], twofold]

/-- Components of which two can have a factory and one takes too few parameters. -/
def ready : List ClassDeclaration :=
  [component "First" [assisted "id" (standardType "Long")], component "Bare" [],
    component "Second" [assisted "id" (standardType "Long")]]

/-- A build of these components and of one before them whose parameter has the given type. -/
def mixed (late : TypeRef) : SymbolTable :=
  .ofList
    (factory [plain "x" (standardType "Long")] :: component "Late" [assisted "id" late] :: ready)

/-- Keeps every file. -/
def unlimited : Sink (List GeneratedFile) String := fun file files => (.ok (), files ++ [file])

/-- Keeps files up to a number of them. -/
def limited (n : Nat) : Sink (List GeneratedFile) String := fun file files =>
  if files.length < n then (.ok (), files ++ [file]) else (.error "full", files)

theorem keeps_unlimited : Sink.Keeps unlimited id := by
  constructor
  · rintro file store store' came
    cases came
    rfl
  · rintro file store e store' came
    cases came

theorem keeps_limited (n : Nat) : Sink.Keeps (limited n) id := by
  constructor
  · rintro file store store' came
    unfold limited at came
    split at came <;> cases came
    rfl
  · rintro file store e store' came
    unfold limited at came
    split at came <;> cases came
    rfl

end AssistedInjection.Sample
