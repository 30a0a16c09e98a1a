import AssistedInjection.Kotlin.TypeExpr.Order
import AssistedInjection.Kotlin.TypeExpr.Printer
import AssistedInjection.Text.Blank
import AssistedInjection.Text.Quoted

/-!
Keys of assisted parameters: a type and an optional tag. A blank tag is no tag.
-/

namespace AssistedInjection.Matching

open Kotlin

/-- What tells assisted parameters apart. -/
structure ParameterKey where
  type : TypeExpr
  tag : Option String
deriving DecidableEq

namespace ParameterKey

/-- The key of a type and a tag, which counts only if it is not blank. -/
def ofTagged (type : TypeExpr) (tag : Option String) : ParameterKey :=
  ⟨type, tag.bind Text.unlessBlank⟩

/-- The key as it is named in messages. -/
def text (k : ParameterKey) : String :=
  match k.tag with
  | some tag => k.type.text ++ " (" ++ Text.quoted tag ++ ")"
  | none => k.type.text

/-- By type, then by tag; no tag comes first. -/
instance : Ord ParameterKey where
  compare a b := (compare a.type b.type).then (compare a.tag b.tag)

end ParameterKey

end AssistedInjection.Matching
