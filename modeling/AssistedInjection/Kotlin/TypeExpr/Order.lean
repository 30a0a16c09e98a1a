import AssistedInjection.Kotlin.TypeExpr

/-!
A total order on types: class types before function types, then part by part from left to right. A
list that runs out comes first, an absent receiver before any, `false` before `true`.
-/

namespace AssistedInjection.Kotlin

/-- Puts `T` before `out T` before `in T`. -/
def Variance.rank : Variance → Nat
  | .invariant => 0
  | .covariant => 1
  | .contravariant => 2

mutual

/-- The order of types. -/
def TypeExpr.compare : TypeExpr → TypeExpr → Ordering
  | .classType n as q, .classType n' as' q' =>
    (Ord.compare n n').then ((compareArguments as as').then (Ord.compare q q'))
  | .functionType r ps t q s, .functionType r' ps' t' q' s' =>
    (compareReceivers r r').then ((compareParameters ps ps').then
      ((t.compare t').then ((Ord.compare q q').then (Ord.compare s s'))))
  | .classType .., .functionType .. => .lt
  | .functionType .., .classType .. => .gt
termination_by structural a => a

/-- The order of type arguments; a star comes last. -/
def TypeArgument.compare : TypeArgument → TypeArgument → Ordering
  | .of v t, .of v' t' => (Ord.compare v.rank v'.rank).then (t.compare t')
  | .star, .star => .eq
  | .of .., .star => .lt
  | .star, .of .. => .gt
termination_by structural a => a

/-- The order of argument lists. -/
def compareArguments : List TypeArgument → List TypeArgument → Ordering
  | [], [] => .eq
  | [], _ :: _ => .lt
  | _ :: _, [] => .gt
  | a :: as, b :: bs => (a.compare b).then (compareArguments as bs)
termination_by structural a => a

/-- The order of receivers. -/
def compareReceivers : Option TypeExpr → Option TypeExpr → Ordering
  | none, none => .eq
  | none, some _ => .lt
  | some _, none => .gt
  | some a, some b => a.compare b
termination_by structural a => a

/-- The order of parameter lists. -/
def compareParameters : List TypeExpr → List TypeExpr → Ordering
  | [], [] => .eq
  | [], _ :: _ => .lt
  | _ :: _, [] => .gt
  | a :: as, b :: bs => (a.compare b).then (compareParameters as bs)
termination_by structural a => a

end

instance : Ord TypeExpr := ⟨TypeExpr.compare⟩

end AssistedInjection.Kotlin
