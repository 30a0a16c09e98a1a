/-!
What the grammar may have expected at a place, and the record of what was tried in vain.

Parsing tries one construct after another and steps back on failure. The record keeps the constructs
that failed furthest into the text; it is never stepped back, so at the end it says how far the best
attempt came and what would have let it go on.
-/

namespace AssistedInjection.Kotlin

/-- The constructs that a report can name, in the order it names them. -/
inductive Construct where
  | endOfText
  | identifier
  | suspendKeyword
  | outKeyword
  | inKeyword
  | star
  | nullableMark
  | typeText
  | qualifiedName
  | simpleName
  | nullable
  | parenthesized
  | classType
  | typeArguments
  | projection
  | functionType
  | receiver
  | parameters
  | parameter
  | label
deriving DecidableEq, Repr

namespace Construct

/-- All constructs, in the order in which messages list them. -/
def all : List Construct :=
  [endOfText, identifier, suspendKeyword, outKeyword, inKeyword, star, nullableMark, typeText,
    qualifiedName, simpleName, nullable, parenthesized, classType, typeArguments, projection,
    functionType, receiver, parameters, parameter, label]

theorem mem_all (c : Construct) : c ∈ all := by cases c <;> decide

/-- How a report names a construct. -/
def text : Construct → String
  | endOfText => "EOI"
  | identifier => "ident"
  | suspendKeyword => "suspend_kw"
  | outKeyword => "out_kw"
  | inKeyword => "in_kw"
  | star => "star"
  | nullableMark => "nullable_mark"
  | typeText => "type_name"
  | qualifiedName => "qualified_name"
  | simpleName => "simple_name"
  | nullable => "nullable"
  | parenthesized => "parenthesized"
  | classType => "class_type"
  | typeArguments => "type_arguments"
  | projection => "projection"
  | functionType => "function_type"
  | receiver => "receiver"
  | parameters => "parameters"
  | parameter => "parameter"
  | label => "label"

end Construct

/-- Alternatives in words: `a`, `a or b`, `a, b, or c`. -/
def alternatives : List String → String
  | [] => ""
  | [a] => a
  | [a, b] => a ++ " or " ++ b
  | as => ", ".intercalate as.dropLast ++ ", or " ++ as.getLastD ""

/-- The constructs that failed furthest into the text. A place is given by the number of tokens from
it to the end, so a smaller number is further. -/
structure Attempts where
  left : Nat
  /-- The constructs that failed at this place, the latest first. -/
  failed : List Construct
  /-- How many there are; a place that is tried again and again has many. -/
  count : Nat
  count_eq : count = failed.length
deriving DecidableEq, Repr

namespace Attempts

/-- Nothing failed yet; the place is as far as one has come. -/
def start (left : Nat) : Attempts := ⟨left, [], 0, rfl⟩

/-- How many constructs are recorded at a place. -/
def countAt (a : Attempts) (left : Nat) : Nat := if a.left = left then a.count else 0

/-- The record with one construct in place of all but the `before` earliest. -/
def replaceFrom (a : Attempts) (before : Nat) (construct : Construct) : Attempts where
  left := a.left
  failed := construct :: a.failed.drop (a.count - before)
  count := a.count - (a.count - before) + 1
  count_eq := by simp [a.count_eq]

/-- The record after `construct` failed where `left` tokens remain; `before` is how many constructs
were recorded there when it was tried. A single construct recorded since then says more than the one
that contains it and is kept instead; otherwise the construct stands for all that was recorded
inside it. -/
def fail (a : Attempts) (construct : Construct) (left before : Nat) : Attempts :=
  if a.countAt left - before = 1 then a
  else if left = a.left then a.replaceFrom before construct
  else if left < a.left then (start left).replaceFrom 0 construct
  else a

/-- The recorded constructs in words. -/
def text (a : Attempts) : String :=
  alternatives ((Construct.all.filter (a.failed.contains ·)).map Construct.text)

end Attempts

end AssistedInjection.Kotlin
