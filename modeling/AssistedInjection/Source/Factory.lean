import AssistedInjection.Source.GeneratedFile
import AssistedInjection.Source.Imports
import AssistedInjection.Kotlin.TypeExpr.Printer
import AssistedInjection.Markers
import AssistedInjection.Plan

/-!
The source of a factory: a header, the imports, and one interface or abstract class with one method.

    @ContributesBinding(AppScope::class, ApiFactory::class)
    @AssistedFactory
    public interface DefaultApi_AssistedFactory : ApiFactory {
      override fun create(
        @Assisted("id") id: String,
      ): DefaultApi
    }
-/

namespace AssistedInjection.Source

open Kotlin

/-- What is appended to the simple name of a class to name its factory. -/
def suffix : String := "_AssistedFactory"

/-- The name of the factory of a class, always a class of its own in the same package. -/
def factoryName (annotated : ClassName) : ClassName :=
  .topLevel annotated.package (annotated.simpleName ++ suffix)

/-- The line that every generated file starts with. -/
def header : String := "// Generated by assisted-factory. Do not edit.\n"

/-- Whether some parameter has a key, so that the key's annotation is mentioned. -/
def isKeyed (p : Plan) : Bool := p.method.parameters.any (·.key.isSome)

/-- The classes that the source of a factory mentions. -/
def mentioned (p : Plan) (m : Markers) : List ClassName :=
  [m.contributesBinding, m.assistedFactory, p.scope, p.bound.name, p.annotated] ++
    (if isKeyed p then [m.assisted] else []) ++ p.method.parameters.flatMap (·.type.classNames)

/-- The imports of the source of a factory. -/
def importsOf (p : Plan) (m : Markers) : Imports :=
  .ofMentioned (factoryName p.annotated).package (factoryName p.annotated).outermost (mentioned p m)

/-- The package and a blank line; the default package is not named. -/
def packageLine (package : String) : String :=
  if package = "" then "" else "package " ++ dottedName package ++ "\n\n"

/-- The imports and a blank line, if there are any. -/
def importLines (i : Imports) : String :=
  if i.lines.isEmpty then ""
  else String.join (i.lines.map fun line => "import " ++ line ++ "\n") ++ "\n"

/-- The annotations of the generated type. -/
def annotationLines (p : Plan) (m : Markers) (i : Imports) : String :=
  "@" ++ i.spell m.contributesBinding ++ "(" ++ i.spell p.scope ++ "::class, " ++
    i.spell p.bound.name ++ "::class)\n" ++ "@" ++ i.spell m.assistedFactory ++ "\n"

/-- The line that opens the generated type. -/
def typeLine (p : Plan) (i : Imports) : String :=
  let name := (factoryName p.annotated).outermost
  match p.bound.kind with
  | .interface => "public interface " ++ name ++ " : " ++ i.spell p.bound.name ++ " \x7b\n"
  | .abstractClass =>
    "public abstract class " ++ name ++ " : " ++ i.spell p.bound.name ++ "() \x7b\n"

/-- What stands before `fun`. -/
def modifiers : BoundKind → String
  | .interface => "override"
  | .abstractClass => "abstract override"

/-- The annotation that carries the key of a parameter. -/
def keyAnnotation (m : Markers) (i : Imports) : Option String → String
  | some key => "@" ++ i.spell m.assisted ++ "(\"" ++ literalBody key ++ "\") "
  | none => ""

/-- The line of a parameter. -/
def parameterLine (m : Markers) (i : Imports) (p : FactoryParameter) : String :=
  "    " ++ keyAnnotation m i p.key ++ identifier p.name ++ ": " ++ p.type.write i.spell ++ ",\n"

/-- The method, on one line if it takes nothing. -/
def methodLines (p : Plan) (m : Markers) (i : Imports) : String :=
  let start := "  " ++ modifiers p.bound.kind ++ " fun " ++ identifier p.method.name ++ "("
  let parameters :=
    if p.method.parameters.isEmpty then ""
    else "\n" ++ String.join (p.method.parameters.map (parameterLine m i)) ++ "  "
  start ++ parameters ++ "): " ++ i.spell p.annotated ++ "\n"

/-- The source of the factory of a plan. -/
def content (p : Plan) (m : Markers) : String :=
  let i := importsOf p m
  header ++ packageLine (factoryName p.annotated).package ++ importLines i ++
    annotationLines p m i ++ typeLine p i ++ methodLines p m i ++ "\x7d\n"

/-- The file of the factory of a plan. -/
def render (p : Plan) (m : Markers) : GeneratedFile where
  package := (factoryName p.annotated).package
  typeName := (factoryName p.annotated).outermost
  content := content p m
  origin := p.origin

end AssistedInjection.Source
