import AssistedInjection.Declaration.Annotations

/-!
Declarations of classes, functions and parameters, as far as factories depend on them.
-/

namespace AssistedInjection.Declaration

open Kotlin
open Json (Form Field)

/-- A parameter of a function or a constructor. -/
structure Parameter where
  name : String
  type : TypeRef
  annotations : List Annotation
deriving DecidableEq

namespace Parameter

/-- The first annotation of a parameter with the given name. -/
def annotationFor? (p : Parameter) (marker : ClassName) : Option Annotation :=
  Declaration.annotationFor? marker p.annotations

/-- Whether a parameter carries an annotation of the given name. -/
def isAnnotatedWith (p : Parameter) (marker : ClassName) : Bool := (p.annotationFor? marker).isSome

/-- A parameter in JSON. -/
def form : Form Parameter :=
  .record "Parameter"
    [.required "name" .string, .required "type" TypeRef.form, .listed "annotations" Annotation.form]
    (fun p => (p.name, p.type, p.annotations, ()))
    (fun (name, type, annotations, ()) => ⟨name, type, annotations⟩)

end Parameter

/-- A function or a constructor. -/
structure Function where
  name : String
  parameters : List Parameter
  returns : Option TypeRef
  annotations : List Annotation
  isAbstract : Bool
deriving DecidableEq

namespace Function

/-- The first annotation of a function with the given name. -/
def annotationFor? (f : Function) (marker : ClassName) : Option Annotation :=
  Declaration.annotationFor? marker f.annotations

/-- Whether a function carries an annotation of the given name. -/
def isAnnotatedWith (f : Function) (marker : ClassName) : Bool := (f.annotationFor? marker).isSome

/-- The name that every constructor goes by. -/
def constructorName : String := "constructor"

/-- The function as a constructor: it goes by the common name and is not abstract. -/
def asConstructor (f : Function) : Function :=
  { f with name := constructorName, isAbstract := false }

/-- A function in JSON; it is not abstract unless that is said. -/
def form : Form Function :=
  .record "Function"
    [.required "name" .string, .listed "parameters" Parameter.form,
      .optional "returns" TypeRef.form, .listed "annotations" Annotation.form,
      .withDefault "abstract" .boolean false]
    (fun f => (f.name, f.parameters, f.returns, f.annotations, f.isAbstract, ()))
    (fun (name, parameters, returns, annotations, isAbstract, ()) =>
      ⟨name, parameters, returns, annotations, isAbstract⟩)

end Function

/-- The kinds of class that are told apart. -/
inductive ClassKind where
  | interface
  | abstractClass
  | plainClass
  | object
  | enum
  | annotationClass
deriving DecidableEq, Repr

namespace ClassKind

/-- The name of a kind in JSON. -/
def name : ClassKind → String
  | interface => "interface"
  | abstractClass => "abstract_class"
  | plainClass => "class"
  | object => "object"
  | enum => "enum"
  | annotationClass => "annotation"

/-- All kinds, in the order in which messages list them. -/
def all : List ClassKind := [interface, abstractClass, plainClass, object, enum, annotationClass]

theorem mem_all (k : ClassKind) : k ∈ all := by cases k <;> decide

/-- A kind in JSON: its name. -/
def form : Form ClassKind := .named (all.map fun k => (k.name, k)) name

end ClassKind

/-- What is known of a class. -/
structure ClassDeclaration where
  name : ClassName
  kind : ClassKind
  /-- The path of the file that declares the class; a class from a library has none. -/
  source : Option String
  annotations : List Annotation
  constructors : List Function
  supertypes : List TypeRef
  /-- All member functions, inherited ones included. -/
  functions : List Function
deriving DecidableEq

namespace ClassDeclaration

/-- The first annotation of a class with the given name. -/
def annotationFor? (c : ClassDeclaration) (marker : ClassName) : Option Annotation :=
  Declaration.annotationFor? marker c.annotations

/-- Whether a class carries an annotation of the given name. -/
def isAnnotatedWith (c : ClassDeclaration) (marker : ClassName) : Bool :=
  (c.annotationFor? marker).isSome

/-- The member functions that have no body. -/
def abstractMethods (c : ClassDeclaration) : List Function := c.functions.filter (·.isAbstract)

/-- A class in JSON; only its name is required. -/
def form : Form ClassDeclaration :=
  .record "ClassDeclaration"
    [.required "name" ClassName.form, .withDefault "kind" ClassKind.form .plainClass,
      .optional "source" .path, .listed "annotations" Annotation.form,
      .listed "constructors" Function.form, .listed "supertypes" TypeRef.form,
      .listed "functions" Function.form]
    (fun c =>
      (c.name, c.kind, c.source, c.annotations, c.constructors, c.supertypes, c.functions, ()))
    (fun (name, kind, source, annotations, constructors, supertypes, functions, ()) =>
      ⟨name, kind, source, annotations, constructors, supertypes, functions⟩)

end ClassDeclaration

end AssistedInjection.Declaration
