import AssistedInjection.Declaration.Basic
import AssistedInjection.Markers

/-!
The references a class depends on: the class literals of the annotation that asks for the factory,
the parameters of its constructors, its supertypes, and the signatures of the bound type's abstract
methods. While one of them is unresolved the class has to wait.
-/

namespace AssistedInjection.Validation

open Kotlin Declaration

/-- How declarations are found by name. -/
abbrev Lookup := ClassName → Option ClassDeclaration

/-- The argument that names the bound type. -/
def boundArgument? (m : Markers) (c : ClassDeclaration) : Option Constant := do
  (← c.annotationFor? m.contributesAssistedFactory).argument? "boundType" 1

/-- The argument that names the scope. -/
def scopeArgument? (m : Markers) (c : ClassDeclaration) : Option Constant := do
  (← c.annotationFor? m.contributesAssistedFactory).argument? "scope" 0

/-- The class that the bound type is, where that can be told. -/
def boundName? (m : Markers) (c : ClassDeclaration) : Option ClassName :=
  match boundArgument? m c with
  | some (.classLiteral (.resolved type)) => type.className?
  | _ => none

/-- The references of a method's signature. -/
def signature (f : Function) : List TypeRef := f.parameters.map (·.type) ++ f.returns.toList

/-- The references of the class itself. -/
def ownReferences (m : Markers) (c : ClassDeclaration) : List TypeRef :=
  let literals := match c.annotationFor? m.contributesAssistedFactory with
    | some a => a.arguments.filterMap (·.value.typeRef?)
    | none => []
  literals ++ c.constructors.flatMap (·.parameters.map (·.type)) ++ c.supertypes

/-- The references of the bound type. -/
def boundReferences (m : Markers) (find : Lookup) (c : ClassDeclaration) : List TypeRef :=
  match (boundName? m c).bind find with
  | some bound => bound.abstractMethods.flatMap signature
  | none => []

/-- Spellings without repetitions, in the order of their first occurrence. -/
def withoutRepetition (spellings : List String) : List String :=
  spellings.foldl (fun seen s => if seen.contains s then seen else seen ++ [s]) []

/-- The spellings of the references that are unresolved. -/
def unresolvedReferences (m : Markers) (find : Lookup) (c : ClassDeclaration) : List String :=
  withoutRepetition ((ownReferences m c ++ boundReferences m find c).filterMap (·.spelling?))

end AssistedInjection.Validation
