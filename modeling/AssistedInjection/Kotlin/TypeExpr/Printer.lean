import AssistedInjection.Kotlin.TypeExpr

/-!
The text of a type. A type is laid out as pieces, fixed text and class names in turn, and the class
names are spelled last; so how a class is spelled cannot change what stands around it.

    suspend A.(B) -> C?        |suspend |A|.(|B|) -> |C|?|

A nullable function type is put in parentheses as a whole, and so is a receiver that is a function
type and not nullable; nothing else needs them.
-/

namespace AssistedInjection.Kotlin

/-- Fixed text, or a class name that is yet to be spelled. -/
inductive Piece where
  | text (text : String)
  | name (name : ClassName)
deriving DecidableEq

namespace Piece

/-- The text of a piece. -/
def spell (spelling : ClassName → String) : Piece → String
  | .text s => s
  | .name c => spelling c

/-- The class that a piece names. -/
def name? : Piece → Option ClassName
  | .text _ => none
  | .name c => some c

end Piece

/-- What is written before a type argument. -/
def Variance.keyword : Variance → List Piece
  | .invariant => []
  | .covariant => [.text "out "]
  | .contravariant => [.text "in "]

/-- Whether the type has to be put in parentheses to be read as a receiver. -/
def TypeExpr.isBareFunction : TypeExpr → Bool
  | .functionType _ _ _ nullable _ => !nullable
  | .classType .. => false

/-- Pieces between two marks, or without the marks. -/
def enclosed (marked : Bool) (opening : String) (inner : List Piece) (closing : String) :
    List Piece :=
  if marked then .text opening :: inner ++ [.text closing] else inner

mutual

/-- The pieces of a type. -/
def TypeExpr.pieces : TypeExpr → List Piece
  | .classType name arguments nullable =>
    .name name :: argumentPieces arguments ++ (if nullable then [.text "?"] else [])
  | .functionType receiver parameters returns nullable suspending =>
    enclosed nullable "("
      ((if suspending then [.text "suspend "] else []) ++ receiverPieces receiver ++
        .text "(" :: parameterPieces parameters ++ .text ") -> " :: returns.pieces) ")?"

/-- The pieces of a type argument. -/
def TypeArgument.pieces : TypeArgument → List Piece
  | .of variance type => variance.keyword ++ type.pieces
  | .star => [.text "*"]

/-- The argument list in angle brackets; no brackets when there are no arguments. -/
def argumentPieces : List TypeArgument → List Piece
  | [] => []
  | a :: as => .text "<" :: a.pieces ++ moreArgumentPieces as ++ [.text ">"]

/-- Further arguments, each after a comma. -/
def moreArgumentPieces : List TypeArgument → List Piece
  | [] => []
  | a :: as => .text ", " :: a.pieces ++ moreArgumentPieces as

/-- The receiver and its dot, if there is one. -/
def receiverPieces : Option TypeExpr → List Piece
  | none => []
  | some t => enclosed t.isBareFunction "(" t.pieces ")" ++ [.text "."]

/-- The parameters, without their parentheses. -/
def parameterPieces : List TypeExpr → List Piece
  | [] => []
  | t :: ts => t.pieces ++ moreParameterPieces ts

/-- Further parameters, each after a comma. -/
def moreParameterPieces : List TypeExpr → List Piece
  | [] => []
  | t :: ts => .text ", " :: t.pieces ++ moreParameterPieces ts

end

namespace TypeExpr

/-- The text of a type with its class names spelled by `spelling`. -/
def write (spelling : ClassName → String) (t : TypeExpr) : String :=
  String.join (t.pieces.map (Piece.spell spelling))

/-- The text of a type with its class names in full. -/
def text (t : TypeExpr) : String := t.write ClassName.canonical

end TypeExpr

end AssistedInjection.Kotlin
