import AssistedInjection.Kotlin.Parser
import AssistedInjection.Kotlin.TypeExpr

/-!
The grammar of names and types.

    type          = function-type | nullable
    nullable      = ( class-type | "(" type ")" ) "?"*
    class-type    = identifier ( "." identifier )* type-arguments?
    type-arguments = "<" projection ( "," projection )* ">"
    projection    = "*" | "out" type | "in" type | type
    function-type = "suspend"? ( receiver "." &"(" )? parameters "->" type
    receiver      = nullable
    parameters    = "(" ( parameter ( "," parameter )* ","? )? ")"
    parameter     = ( label ":" )? type

Every rule that mentions `type` takes the parser of types as an argument; `type` ties the knot, one
level of nesting at a time. The soft keywords are keywords only where a rule asks for them.
-/

namespace AssistedInjection.Kotlin.Grammar

open Kotlin.Parser

/-- One identifier, plain or escaped. -/
def identifier : Parser String := named .identifier (token Token.name?)

/-- A soft keyword, written without backticks. -/
def keyword (construct : Construct) (text : String) : Parser Unit :=
  named construct (mark (.word text))

/-- Identifiers separated by dots. -/
def dotted : Parser (String × List String) := do
  let first ← identifier
  let rest ← many (do mark .dot; identifier)
  return (first, rest)

variable (ty : Parser TypeExpr)

def projection : Parser TypeArgument :=
  named .projection <|
    orElse (do named .star (mark .star); return .star) <|
    orElse (do keyword .outKeyword "out"; return .of .covariant (← ty)) <|
    orElse (do keyword .inKeyword "in"; return .of .contravariant (← ty)) <|
    do return .of .invariant (← ty)

def typeArguments : Parser (List TypeArgument) :=
  named .typeArguments do
    mark .less
    let first ← projection ty
    let rest ← many (do mark .comma; projection ty)
    mark .greater
    return first :: rest

def classType : Parser TypeExpr :=
  named .classType do
    let (first, rest) ← dotted
    let arguments ← optional (typeArguments ty)
    return .classType (.ofSegments first rest) (arguments.getD []) false

def parenthesized : Parser TypeExpr :=
  named .parenthesized do
    mark .opening
    let inner ← ty
    mark .closing
    return inner

def nullable : Parser TypeExpr :=
  named .nullable do
    let inner ← orElse (classType ty) (parenthesized ty)
    let marks ← many (named .nullableMark (mark .question))
    return if marks.isEmpty then inner else inner.orNull

def parameter : Parser TypeExpr :=
  named .parameter do
    let _ ← optional (do let _ ← named .label identifier; mark .colon)
    ty

def parameters : Parser (List TypeExpr) :=
  named .parameters do
    mark .opening
    let list ← optional do
      let first ← parameter ty
      let rest ← many (do mark .comma; parameter ty)
      let _ ← optional (mark .comma)
      return first :: rest
    mark .closing
    return list.getD []

/-- A receiver and its dot, where a parameter list follows. -/
def receiverDot : Parser TypeExpr := do
  let receiver ← named .receiver (nullable ty)
  mark .dot
  ahead .opening
  return receiver

def functionType : Parser TypeExpr :=
  named .functionType do
    let suspending ← optional (keyword .suspendKeyword "suspend")
    let receiver ← optional (receiverDot ty)
    let parameters ← parameters ty
    mark .arrow
    let returns ← ty
    return .functionType receiver parameters returns false suspending.isSome

/-- Types nested at most `n` deep. -/
def type : Nat → Parser TypeExpr
  | 0 => never
  | n + 1 =>
    let ty := type n
    orElse (functionType ty) (nullable ty)

/-- What `p` reads, if nothing follows it. -/
def whole {α : Type} (p : Parser α) : Parser α := do
  let a ← p
  finished
  return a

end AssistedInjection.Kotlin.Grammar
