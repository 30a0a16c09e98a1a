import AssistedInjection.Validation.Defect
import AssistedInjection.Validation.References
import AssistedInjection.Matching.Pairing
import AssistedInjection.Plan

/-!
Whether a class that asks for a factory can have one. The checks run in a fixed order and the first
that fails decides, so a class is refused for one reason. Passing them all yields the plan.
-/

namespace AssistedInjection.Validation

open Kotlin Declaration Matching

/-- Why there is no plan. -/
inductive Rejection where
  /-- The class is defective; trying again does not help. -/
  | invalid (defect : Defect)
  /-- Spellings of references that cannot be resolved yet. -/
  | unresolved (spellings : List String)
deriving DecidableEq

/-- Refuses a class for good. -/
def refuse {α : Type} (c : ClassDeclaration) (cause : Cause) : Except Rejection α :=
  .error (.invalid ⟨c.name, cause⟩)

/-- The type of a reference; an unresolved one puts the class off. -/
def resolved : TypeRef → Except Rejection TypeExpr
  | .resolved type => .ok type
  | .unresolved spelling => .error (.unresolved [spelling])

/-- The bound type, which has to be given as a class literal. -/
def boundType (m : Markers) (c : ClassDeclaration) : Except Rejection TypeExpr :=
  match boundArgument? m c with
  | some (.classLiteral type) => resolved type
  | some other => refuse c (.boundTypeNotClassOrInterface other.text)
  | none => refuse c .missingBoundType

/-- The declaration of the bound type. -/
def boundDeclaration (find : Lookup) (c : ClassDeclaration) (type : TypeExpr) :
    Except Rejection ClassDeclaration :=
  match type.className? with
  | some name =>
    match find name with
    | some bound => .ok bound
    | none => refuse c (.boundTypeNotClassOrInterface name.simpleName)
  | none => refuse c (.boundTypeNotClassOrInterface type.text)

/-- The scope, which has to be given as the literal of a class. -/
def scope (m : Markers) (c : ClassDeclaration) : Except Rejection ClassName := do
  match scopeArgument? m c with
  | some (.classLiteral type) =>
    match (← resolved type).className? with
    | some name => return name
    | none => refuse c (.missingScope m.contributesAssistedFactory)
  | _ => refuse c (.missingScope m.contributesAssistedFactory)

/-- The only constructor, which has to carry its marker. -/
def soleConstructor (m : Markers) (c : ClassDeclaration) : Except Rejection Function :=
  match c.constructors with
  | [constructor] =>
    if constructor.isAnnotatedWith m.assistedInject then .ok constructor
    else refuse c .constructorMustBeAssistedInject
  | _ => refuse c .mustHaveSinglePrimaryConstructor

/-- The kind of the bound type, which has to be an interface or an abstract class. -/
def boundKind (c bound : ClassDeclaration) : Except Rejection BoundKind :=
  match bound.kind with
  | .interface => .ok .interface
  | .abstractClass => .ok .abstractClass
  | _ => refuse c (.boundTypeMustBeAbstractOrInterface bound.name)

/-- The only abstract method of the bound type. -/
def factoryMethod (c bound : ClassDeclaration) : Except Rejection Function :=
  match bound.abstractMethods with
  | [method] => .ok method
  | _ => refuse c (.boundTypeMustHaveSingleAbstractMethod bound.name)

/-- The assisted parameters of a constructor with their keys. -/
def assistedParameters (m : Markers) : List Parameter → Except Rejection (List Keyed)
  | [] => .ok []
  | p :: ps =>
    match p.annotationFor? m.assisted with
    | none => assistedParameters m ps
    | some a => do
      let type ← resolved p.type
      return (.ofTagged type a.stringValue?, p) :: (← assistedParameters m ps)

/-- The assisted parameters by key; no two may share one. -/
def assistedIndex (c : ClassDeclaration) (assisted : List Keyed) : Except Rejection KeyIndex :=
  (KeyIndex.ofList assisted).mapError fun clash =>
    .invalid ⟨c.name, .duplicateAssistedParameterKey clash.key.type clash.key.tag clash.first.name
      clash.second.name⟩

/-- The method takes as many parameters as the constructor has assisted ones. -/
def checkCount (c bound : ClassDeclaration) (method : Function) (index : KeyIndex) :
    Except Rejection Unit :=
  if index.size = method.parameters.length then .ok ()
  else refuse c (.parameterCountMismatch bound.name method.name)

/-- Whether a factory parameter carries the constructor's marker in place of its own. -/
def isMismarked (m : Markers) (p : Parameter) : Bool :=
  p.isAnnotatedWith m.assisted && !p.isAnnotatedWith m.assistedKey

/-- No factory parameter may carry the marker of the constructor in place of its own. -/
def checkMarkers (m : Markers) (c bound : ClassDeclaration) (method : Function) :
    Except Rejection Unit :=
  match method.parameters.find? (isMismarked m) with
  | some p => refuse c (.wrongAnnotationOnFactoryParameter bound.name method.name p.name)
  | none => .ok ()

/-- The key of a factory parameter. -/
def factoryKey (m : Markers) (p : Parameter) : Except Rejection ParameterKey := do
  let type ← resolved p.type
  return .ofTagged type ((p.annotationFor? m.assistedKey).bind (·.stringValue?))

/-- The factory parameters with their keys. -/
def factoryParameters (m : Markers) : List Parameter → Except Rejection (List Keyed)
  | [] => .ok []
  | p :: ps => do return (← factoryKey m p, p) :: (← factoryParameters m ps)

/-- The matches of the factory parameters; each has to have one. -/
def pairParameters (c bound : ClassDeclaration) (method : Function) (index : KeyIndex)
    (factory : List Keyed) : Except Rejection (List Match) :=
  (index.pair factory).mapError fun lone =>
    .invalid ⟨c.name, .unmatchedFactoryParameter bound.name method.name lone.parameter.name⟩

/-- What a plan keeps of a match. -/
def plannedParameter (p : Match) : FactoryParameter :=
  ⟨p.factory.name, p.key.type, p.key.tag, p.constructor.name⟩

/-- Runs all checks on a class; `find` gives the declaration of the bound type. -/
def validate (m : Markers) (find : Lookup) (c : ClassDeclaration) : Except Rejection Plan := do
  let type ← boundType m c
  let bound ← boundDeclaration find c type
  let scope ← scope m c
  let constructor ← soleConstructor m c
  let kind ← boundKind c bound
  let method ← factoryMethod c bound
  let assisted ← assistedParameters m constructor.parameters
  let index ← assistedIndex c assisted
  checkCount c bound method index
  checkMarkers m c bound method
  let factory ← factoryParameters m method.parameters
  let matched ← pairParameters c bound method index factory
  let parameters := matched.map plannedParameter
  return ⟨c.name, scope, ⟨bound.name, kind⟩, ⟨method.name, parameters⟩, c.source⟩

end AssistedInjection.Validation
