import AssistedInjection.Declaration.TypeRef
import AssistedInjection.Proofs.Checks
import AssistedInjection.Proofs.Kotlin.RoundTrip

/-!
References in JSON. A reference is written in one of three forms and the forms are tried in turn, so
it comes back if the form that was written is the first that fits, and leads back to it.

    reference                   written                             comes back
    unresolved "X"              {"unresolved": "X"}                 always
    class that its name means   "com.test.Api"                      always
    other class, no arguments   {"package": "..", "names": [..]}    if its parts do
    any other type              "kotlin.List<A>?"                   if its text is read as the type
-/

namespace AssistedInjection

open Checks (mapError_eq_ok_iff)

namespace Kotlin

/-! ### Classes -/

namespace ClassName

variable {c : ClassName}

theorem parsesBack_iff_parse : c.parsesBack ↔ parse c.canonical = .ok c := by
  rw [parsesBack]
  cases parse c.canonical <;> simp [Except.toOption]

theorem textsOf_map (ss : List String) : textsOf (ss.map .string) = some ss := by
  induction ss with
  | nil => rfl
  | cons s ss ih => rw [List.map_cons, textsOf, ih, Option.map_some]

/-- The members of the object of package and simple names. -/
def partMembers (c : ClassName) : List (String × Json) :=
  [("package", .string c.package), ("names", .list (c.names.map .string))]

theorem partsOf_partMembers (c : ClassName) :
    partsOf c.partMembers = some (c.package, c.names) := by
  simp [partMembers, partsOf, Json.valuesOf, textsOf_map]

/-- A class that its canonical name leads back to is read from it. -/
theorem ofJson_toJson_of_parsesBack (back : c.parsesBack) : ofJson c.toJson = .ok c := by
  rw [toJson, if_pos back, ofJson, refusal, mapError_eq_ok_iff]
  exact parsesBack_iff_parse.1 back

/-- Any other class is read from its parts. -/
theorem ofJson_toJson_iff_of_not_parsesBack (other : ¬ c.parsesBack) :
    ofJson c.toJson = .ok c ↔ ofParts c.package c.names = .ok c := by
  rw [toJson, if_neg other, parts]
  change ofJson (.object c.partMembers) = .ok c ↔ _
  simp only [ofJson, partsOf_partMembers, refusal, mapError_eq_ok_iff]

end ClassName

/-! ### Types -/

namespace TypeExpr

variable {t : TypeExpr} {c : ClassName}

/-- The text of a type is read as the type only if its classes read back. -/
theorem parsesBack_of_parse_text (read : parse t.text = .ok t) :
    ∀ c ∈ t.classNames, c.parsesBack := by
  obtain ⟨used, split, covers⟩ := covers_type _ _ _ _ (readWhole_eq_ok_iff.1 read)
  obtain rfl : tokens t.text = used := by rw [split, List.append_nil]
  exact (plain_of_covers covers).2

theorem classNames_ofClass (c : ClassName) : (ofClass c).classNames = [c] := by
  simp [ofClass, classNames, argumentClassNames]

theorem parse_text_ofClass (back : c.parsesBack) : parse (ofClass c).text = .ok (ofClass c) := by
  have spells : ∀ d ∈ (ofClass c).classNames, Spells (inFull d) d := by
    rw [classNames_ofClass, List.forall_mem_singleton]
    exact ClassName.parsesBack_iff_spells.1 back
  have clear : ∀ u ∈ (ofClass c).parts, ∀ d ∈ u.leadingClass?,
      (inFull d).head? ≠ some (.word "suspend") := by
    have parts : (ofClass c).parts = [ofClass c] := by simp [ofClass, TypeExpr.parts, argumentParts]
    rw [parts, List.forall_mem_singleton]
    rintro d ⟨⟩
  have readable : Readable inFull id (ofClass c) := ⟨spells, clear⟩
  rw [text, parse_write readable, mapNames_eq_self (f := id) fun d _ => rfl]

end TypeExpr

end Kotlin

/-! ### References -/

namespace Declaration.TypeRef

open Kotlin

variable {t : TypeExpr} {c : ClassName}

theorem toJson_ofClass (other : ¬ c.parsesBack) :
    (resolved (.ofClass c)).toJson = .object c.partMembers := by
  rw [TypeExpr.ofClass, toJson, if_neg other]
  rfl

theorem toJson_resolved (back : ∀ c, t = .ofClass c → c.parsesBack) :
    (resolved t).toJson = .string t.text := by
  unfold toJson
  split
  · rename_i same
    cases same
  · rename_i c same
    cases same
    exact if_pos (back c rfl)
  · rename_i same
    cases same
    rfl

theorem ofJson_text_iff : ofJson (.string t.text) = .ok (resolved t) ↔
    TypeExpr.parse t.text = .ok t := by
  cases read : TypeExpr.parse t.text <;> simp [ofJson, read, Except.toOption]

theorem ofJson_partMembers_iff : ofJson (.object c.partMembers) = .ok (resolved (.ofClass c)) ↔
    ClassName.ofParts c.package c.names = .ok c := by
  have absent : Json.valuesOf "unresolved" c.partMembers = [] := by
    simp [ClassName.partMembers, Json.valuesOf]
  cases read : ClassName.ofParts c.package c.names <;>
    simp [ofJson, absent, ClassName.partsOf_partMembers, read, Except.toOption, TypeExpr.ofClass]

/-- The references that come back from JSON: all unresolved ones, and the types that are read from
their texts, and the classes that come back by themselves. -/
theorem ofJson_toJson_iff (r : TypeRef) :
    ofJson r.toJson = .ok r ↔
      (∃ spelling, r = .unresolved spelling) ∨
        ∃ t, r = .resolved t ∧ (TypeExpr.parse t.text = .ok t ∨
          ∃ c, t = .ofClass c ∧ ClassName.ofJson c.toJson = .ok c) := by
  cases r with
  | unresolved spelling =>
    refine iff_of_true ?_ (.inl ⟨spelling, rfl⟩)
    simp [toJson, ofJson, Json.valuesOf]
  | resolved t =>
    by_cases inParts : ∃ c, t = .ofClass c ∧ ¬ c.parsesBack
    · obtain ⟨c, rfl, other⟩ := inParts
      rw [toJson_ofClass other, ofJson_partMembers_iff,
        ← ClassName.ofJson_toJson_iff_of_not_parsesBack other]
      refine ⟨fun back => .inr ⟨_, rfl, .inr ⟨c, rfl, back⟩⟩, ?_⟩
      rintro (⟨-, ⟨⟩⟩ | ⟨t, same, read | ⟨d, rfl, back⟩⟩)
      · cases same
        have back := TypeExpr.parsesBack_of_parse_text read
        exact absurd (back c (by simp [TypeExpr.classNames_ofClass])) other
      · cases same
        exact back
    · have back (c : ClassName) (same : t = .ofClass c) : c.parsesBack :=
        not_not.1 fun other => inParts ⟨c, same, other⟩
      rw [toJson_resolved back, ofJson_text_iff]
      refine ⟨fun read => .inr ⟨t, rfl, .inl read⟩, ?_⟩
      rintro (⟨-, ⟨⟩⟩ | ⟨_, ⟨⟩, read | ⟨c, rfl, -⟩⟩)
      · exact read
      · exact TypeExpr.parse_text_ofClass (back c rfl)

/-- The classes that a reference names. -/
def classNames : TypeRef → List ClassName
  | resolved t => t.classNames
  | unresolved _ => []

/-- The classes in a reference that comes back come back by themselves, too. -/
theorem ofJson_toJson_of_mem_classNames {r : TypeRef} (back : ofJson r.toJson = .ok r) :
    ∀ c ∈ r.classNames, ClassName.ofJson c.toJson = .ok c := by
  intro c mem
  rcases (ofJson_toJson_iff r).1 back with ⟨spelling, rfl⟩ | ⟨t, rfl, read | ⟨d, rfl, whole⟩⟩
  · cases mem
  · exact ClassName.ofJson_toJson_of_parsesBack (TypeExpr.parsesBack_of_parse_text read c mem)
  · rw [classNames, TypeExpr.classNames_ofClass, List.mem_singleton] at mem
    exact mem ▸ whole

end Declaration.TypeRef

end AssistedInjection
