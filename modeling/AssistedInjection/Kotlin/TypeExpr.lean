import AssistedInjection.Kotlin.ClassName

/-!
Kotlin types, compared by structure: two types are the same when they name the same classes with the
same arguments, variance and nullability. Labels of function type parameters are no part of a type.
-/

namespace AssistedInjection.Kotlin

/-- Use-site variance of a type argument: `T`, `out T` or `in T`. -/
inductive Variance where
  | invariant
  | covariant
  | contravariant
deriving DecidableEq, Repr

mutual

/-- A type. -/
inductive TypeExpr where
  /-- A class with its arguments: `a.B<C>`. -/
  | classType (name : ClassName) (arguments : List TypeArgument) (nullable : Bool)
  /-- A function type: `suspend A.(B, C) -> R`. -/
  | functionType (receiver : Option TypeExpr) (parameters : List TypeExpr) (returns : TypeExpr)
      (nullable : Bool) (suspending : Bool)

/-- An argument of a class type. -/
inductive TypeArgument where
  | of (variance : Variance) (type : TypeExpr)
  /-- Any argument: `*`. -/
  | star

end

/-! ### Equality -/

mutual

/-- Equality of types. -/
def TypeExpr.decEq : (a b : TypeExpr) → Decidable (a = b)
  | .classType n as q, .classType n' as' q' =>
    have := decEqArguments as as'
    decidable_of_iff (n = n' ∧ as = as' ∧ q = q') (by simp)
  | .functionType r ps t q s, .functionType r' ps' t' q' s' =>
    have := decEqReceiver r r'
    have := decEqParameters ps ps'
    have := TypeExpr.decEq t t'
    decidable_of_iff (r = r' ∧ ps = ps' ∧ t = t' ∧ q = q' ∧ s = s') (by simp)
  | .classType .., .functionType .. => isFalse (by simp)
  | .functionType .., .classType .. => isFalse (by simp)
termination_by structural a => a

/-- Equality of type arguments. -/
def TypeArgument.decEq : (a b : TypeArgument) → Decidable (a = b)
  | .of v t, .of v' t' =>
    have := TypeExpr.decEq t t'
    decidable_of_iff (v = v' ∧ t = t') (by simp)
  | .star, .star => isTrue rfl
  | .of .., .star => isFalse (by simp)
  | .star, .of .. => isFalse (by simp)
termination_by structural a => a

/-- Equality of argument lists. -/
def decEqArguments : (as bs : List TypeArgument) → Decidable (as = bs)
  | [], [] => isTrue rfl
  | a :: as, b :: bs =>
    have := TypeArgument.decEq a b
    have := decEqArguments as bs
    decidable_of_iff (a = b ∧ as = bs) (by simp)
  | [], _ :: _ => isFalse (by simp)
  | _ :: _, [] => isFalse (by simp)
termination_by structural a => a

/-- Equality of receivers. -/
def decEqReceiver : (a b : Option TypeExpr) → Decidable (a = b)
  | none, none => isTrue rfl
  | some a, some b =>
    have := TypeExpr.decEq a b
    decidable_of_iff (a = b) (by simp)
  | none, some _ => isFalse (by simp)
  | some _, none => isFalse (by simp)
termination_by structural a => a

/-- Equality of parameter lists. -/
def decEqParameters : (as bs : List TypeExpr) → Decidable (as = bs)
  | [], [] => isTrue rfl
  | a :: as, b :: bs =>
    have := TypeExpr.decEq a b
    have := decEqParameters as bs
    decidable_of_iff (a = b ∧ as = bs) (by simp)
  | [], _ :: _ => isFalse (by simp)
  | _ :: _, [] => isFalse (by simp)
termination_by structural a => a

end

instance : DecidableEq TypeExpr := TypeExpr.decEq
instance : DecidableEq TypeArgument := TypeArgument.decEq

namespace TypeExpr

/-! ### Building types -/

/-- A class type that is not null and takes no arguments. -/
def ofClass (name : ClassName) : TypeExpr := .classType name [] false

/-- A plain function type: no receiver, not null, not suspending. -/
def arrow (parameters : List TypeExpr) (returns : TypeExpr) : TypeExpr :=
  .functionType none parameters returns false false

/-- The class type with other arguments; a function type takes none and stays as it is. -/
def withArguments (t : TypeExpr) (arguments : List TypeArgument) : TypeExpr :=
  match t with
  | .classType name _ nullable => .classType name arguments nullable
  | .functionType .. => t

/-- The function type with a receiver; a class type takes none and stays as it is. -/
def withReceiver (t receiver : TypeExpr) : TypeExpr :=
  match t with
  | .functionType _ parameters returns nullable suspending =>
    .functionType (some receiver) parameters returns nullable suspending
  | .classType .. => t

/-- The suspending variant of a function type; a class type has none and stays as it is. -/
def suspended : TypeExpr → TypeExpr
  | .functionType receiver parameters returns nullable _ =>
    .functionType receiver parameters returns nullable true
  | t => t

/-- The variant of the type that admits null. -/
def orNull : TypeExpr → TypeExpr
  | .classType name arguments _ => .classType name arguments true
  | .functionType receiver parameters returns _ suspending =>
    .functionType receiver parameters returns true suspending

/-- Whether the type admits null. -/
def isNullable : TypeExpr → Bool
  | .classType _ _ nullable => nullable
  | .functionType _ _ _ nullable _ => nullable

/-- The class a class type names. -/
def className? : TypeExpr → Option ClassName
  | .classType name _ _ => some name
  | .functionType .. => none

end TypeExpr

/-! ### The classes mentioned -/

mutual

/-- Every class a type mentions, from left to right, with repetitions. -/
def TypeExpr.classNames : TypeExpr → List ClassName
  | .classType name arguments _ => name :: argumentClassNames arguments
  | .functionType none parameters returns _ _ =>
    parameterClassNames parameters ++ returns.classNames
  | .functionType (some receiver) parameters returns _ _ =>
    receiver.classNames ++ (parameterClassNames parameters ++ returns.classNames)

/-- Every class a type argument mentions. -/
def TypeArgument.classNames : TypeArgument → List ClassName
  | .of _ type => type.classNames
  | .star => []

/-- Every class an argument list mentions. -/
def argumentClassNames : List TypeArgument → List ClassName
  | [] => []
  | a :: as => a.classNames ++ argumentClassNames as

/-- Every class a parameter list mentions. -/
def parameterClassNames : List TypeExpr → List ClassName
  | [] => []
  | t :: ts => t.classNames ++ parameterClassNames ts

end

end AssistedInjection.Kotlin
