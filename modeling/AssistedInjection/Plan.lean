import AssistedInjection.Declaration.Basic

/-!
Plans: all that has to be known to write a factory, in the order in which it is written.
-/

namespace AssistedInjection

open Kotlin

/-- The kinds of type that a factory can implement or extend. -/
inductive BoundKind where
  | interface
  | abstractClass
deriving DecidableEq, Repr

/-- The type that the factory implements or extends. -/
structure BoundType where
  name : ClassName
  kind : BoundKind
deriving DecidableEq

/-- A parameter of the factory method and the constructor parameter it supplies. -/
structure FactoryParameter where
  name : String
  type : TypeExpr
  key : Option String
  constructorParameter : String
deriving DecidableEq

/-- The method that the factory overrides, its parameters in the order of the bound type. -/
structure FactoryMethod where
  name : String
  parameters : List FactoryParameter
deriving DecidableEq

/-- All that has to be known to write the factory of a class. -/
structure Plan where
  /-- The class that asks for the factory. -/
  annotated : ClassName
  /-- The scope that the factory is bound in. -/
  scope : ClassName
  bound : BoundType
  method : FactoryMethod
  /-- The source file of the annotated class. -/
  origin : Option String
deriving DecidableEq

/-- The name of a kind in JSON. -/
def BoundKind.name : BoundKind → String
  | interface => "interface"
  | abstractClass => "abstract_class"

/-- All kinds. -/
def BoundKind.all : List BoundKind := [.interface, .abstractClass]

/-- A parameter in JSON; an absent key is null. -/
def FactoryParameter.toJson (p : FactoryParameter) : Json :=
  .object [("name", .string p.name), ("ty", .string p.type.text), ("key", .ofOption .string p.key),
    ("constructor_parameter", .string p.constructorParameter)]

/-- A plan in JSON; an absent origin is null. -/
def Plan.toJson (p : Plan) : Json :=
  .object
    [("annotated", p.annotated.toJson), ("scope", p.scope.toJson),
      ("bound_type", .object [("name", p.bound.name.toJson), ("kind", .string p.bound.kind.name)]),
      ("factory_method", .object [("name", .string p.method.name),
        ("parameters", .list (p.method.parameters.map FactoryParameter.toJson))]),
      ("origin", .ofOption .string p.origin)]

end AssistedInjection
