import AssistedInjection.Kotlin.TypeExpr.Printer

/-!
What can be wrong with a class that asks for a factory, in words, and where it is reported.
-/

namespace AssistedInjection.Validation

open Kotlin

/-- The element of the sources that a diagnostic points at. -/
inductive Site where
  | classItself (name : ClassName)
  /-- The annotation that asks for the factory. -/
  | annotationOn (name : ClassName)
  | constructor (name : ClassName)
  | method (owner : ClassName) (name : String)
  | parameter (owner : ClassName) (method name : String)
deriving DecidableEq

namespace Site

/-- The class that the element is or belongs to. -/
def owner : Site → ClassName
  | classItself name | annotationOn name | constructor name => name
  | method owner _ | parameter owner _ _ => owner

/-- The site as it is named in reports. -/
def text : Site → String
  | classItself name => name.canonical
  | annotationOn name => name.canonical ++ " (annotation)"
  | constructor name => name.canonical ++ ".<init>"
  | method owner name => owner.canonical ++ "." ++ name
  | parameter owner m name => owner.canonical ++ "." ++ m ++ "(" ++ name ++ ")"

end Site

/-- A structural defect. -/
inductive Cause where
  | missingBoundType
  | boundTypeNotClassOrInterface (bound : String)
  | missingScope (marker : ClassName)
  | mustHaveSinglePrimaryConstructor
  | constructorMustBeAssistedInject
  | boundTypeMustBeAbstractOrInterface (bound : ClassName)
  | boundTypeMustHaveSingleAbstractMethod (bound : ClassName)
  | duplicateAssistedParameterKey (type : TypeExpr) (key : Option String) (first second : String)
  | parameterCountMismatch (bound : ClassName) (method : String)
  | wrongAnnotationOnFactoryParameter (bound : ClassName) (method parameter : String)
  | unmatchedFactoryParameter (bound : ClassName) (method parameter : String)
deriving DecidableEq

/-- A defect and the annotated class that has it. -/
structure Defect where
  annotated : ClassName
  cause : Cause
deriving DecidableEq

/-- A text in single quotes. -/
def inQuotes (s : String) : String := "'" ++ s ++ "'"

/-- A key as it is named in messages. -/
def describeKey : Option String → String
  | some key => "key " ++ inQuotes key
  | none => "no key"

namespace Defect

/-- The wording of a defect. -/
def message (d : Defect) : String :=
  let annotated := inQuotes d.annotated.simpleName
  match d.cause with
  | .missingBoundType =>
    "The @ContributesAssistedFactory annotation on class " ++ annotated ++
      " must have a 'boundType' parameter"
  | .boundTypeNotClassOrInterface bound => "Bound type " ++ bound ++ " must be a class or interface"
  | .missingScope marker => "Couldn't find scope for " ++ marker.canonical ++ "."
  | .mustHaveSinglePrimaryConstructor =>
    "Class " ++ annotated ++
      " annotated with @ContributesAssistedFactory must have a single primary constructor"
  | .constructorMustBeAssistedInject =>
    "Class " ++ annotated ++ " annotated with @ContributesAssistedFactory" ++
      " must have its primary constructor annotated with @AssistedInject"
  | .boundTypeMustBeAbstractOrInterface bound =>
    "The bound type " ++ inQuotes bound.simpleName ++
      " for @ContributesAssistedFactory on class " ++ annotated ++
      " must be an abstract class or interface"
  | .boundTypeMustHaveSingleAbstractMethod bound =>
    "The bound type " ++ inQuotes bound.simpleName ++
      " for @ContributesAssistedFactory must have a single abstract method"
  | .duplicateAssistedParameterKey type key first second =>
    "Class " ++ annotated ++ " annotated with @ContributesAssistedFactory" ++
      " has more than one @Assisted constructor parameter with type " ++ inQuotes type.text ++
      " and " ++ describeKey key ++ " (" ++ inQuotes first ++ " and " ++ inQuotes second ++ ")"
  | .parameterCountMismatch bound method =>
    "The assisted factory method parameters in " ++ inQuotes (bound.simpleName ++ "." ++ method) ++
      " must match the @Assisted parameters in the primary constructor of " ++ annotated
  | .wrongAnnotationOnFactoryParameter bound method parameter =>
    "The parameter " ++ inQuotes parameter ++ " in the factory method " ++
      inQuotes (bound.simpleName ++ "." ++ method) ++
      " must be annotated with @AssistedKey instead of @Assisted" ++
      " to avoid conflicts with Dagger's @AssistedFactory annotation"
  | .unmatchedFactoryParameter _ _ parameter =>
    "The factory method parameter " ++ inQuotes parameter ++
      " does not match any @Assisted parameter in the primary constructor of " ++ annotated

/-- Where a defect is reported. -/
def site (d : Defect) : Site :=
  match d.cause with
  | .missingBoundType | .boundTypeNotClassOrInterface _ | .missingScope _
  | .boundTypeMustBeAbstractOrInterface _ => .annotationOn d.annotated
  | .mustHaveSinglePrimaryConstructor => .classItself d.annotated
  | .constructorMustBeAssistedInject => .constructor d.annotated
  | .boundTypeMustHaveSingleAbstractMethod bound => .classItself bound
  | .duplicateAssistedParameterKey _ _ _ second => .parameter d.annotated "constructor" second
  | .parameterCountMismatch bound method => .method bound method
  | .wrongAnnotationOnFactoryParameter bound method parameter => .parameter bound method parameter
  | .unmatchedFactoryParameter bound method parameter => .parameter bound method parameter

end Defect

end AssistedInjection.Validation
