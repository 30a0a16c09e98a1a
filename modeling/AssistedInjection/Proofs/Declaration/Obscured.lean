import AssistedInjection.Declaration.Basic
import AssistedInjection.Proofs.Checks

/-!
Declarations as they are seen before all types are known. Any reference in them may be unresolved
where the full declaration has a type; everything else is as in the full declaration.

    seen early    class Api(id: Later, name: String) : Base
    in full       class Api(id: com.test.Later, name: kotlin.String) : com.test.Base
-/

namespace AssistedInjection.Declaration

open Kotlin Checks

/-- A reference as it may be seen early: the full one, or any unresolved one. -/
def TypeRef.Obscures (r r' : TypeRef) : Prop := r = r' ∨ ∃ spelling, r = .unresolved spelling

/-- A reference that is seen resolved is seen as it is. -/
theorem TypeRef.Obscures.eq {r r' : TypeRef} (h : r.Obscures r') (resolved : r.spelling? = none) :
    r = r' := by
  rcases h with same | ⟨spelling, rfl⟩
  · exact same
  · cases resolved

/-- Of the constants only class literals mention types. -/
inductive Constant.Obscures : Constant → Constant → Prop where
  | classLiteral {r r' : TypeRef} : r.Obscures r' → Obscures (.classLiteral r) (.classLiteral r')
  | refl (k : Constant) : Obscures k k

theorem Constant.Obscures.typeRef? {k k' : Constant} (h : k.Obscures k') :
    Option.Rel TypeRef.Obscures k.typeRef? k'.typeRef? := by
  cases h with
  | classLiteral r => exact .some r
  | refl =>
    cases k with
    | classLiteral r => exact .some (.inl rfl)
    | _ => exact .none

structure Argument.Obscures (a a' : Argument) : Prop where
  name : a.name = a'.name
  value : a.value.Obscures a'.value

structure Annotation.Obscures (a a' : Annotation) : Prop where
  name : a.name = a'.name
  arguments : List.Forall₂ Argument.Obscures a.arguments a'.arguments

/-- An argument is found in the same place. -/
theorem Annotation.Obscures.argument? {a a' : Annotation} (h : a.Obscures a') (name : String)
    (position : Nat) :
    Option.Rel Constant.Obscures (a.argument? name position) (a'.argument? name position) := by
  have named : Option.Rel Argument.Obscures (a.arguments.find? (·.name = some name))
      (a'.arguments.find? (·.name = some name)) :=
    find?_rel h.arguments fun b b' hb => by rw [hb.name]
  unfold Annotation.argument?
  rcases rel_cases named with ⟨found, found'⟩ | ⟨b, b', found, found', hb⟩
  · rw [found, found']
    rcases rel_cases (getElem?_rel h.arguments position) with
      ⟨given, given'⟩ | ⟨b, b', given, given', hb⟩
    · rw [given, given']
      exact .none
    · rw [given, given']
      simp only [Option.filter, hb.name]
      split
      · exact .some hb.value
      · exact .none
  · rw [found, found']
    exact .some hb.value

/-- Texts are seen as they are. -/
theorem Annotation.Obscures.stringValue? {a a' : Annotation} (h : a.Obscures a') :
    a.stringValue? = a'.stringValue? := by
  unfold Annotation.stringValue?
  rcases rel_cases (h.argument? "value" 0) with ⟨given, given'⟩ | ⟨k, k', given, given', hk⟩
  · rw [given, given']
  · rw [given, given']
    cases hk <;> rfl

theorem annotationFor?_rel {as as' : List Annotation} (h : List.Forall₂ Annotation.Obscures as as')
    (marker : ClassName) :
    Option.Rel Annotation.Obscures (annotationFor? marker as) (annotationFor? marker as') :=
  find?_rel h fun a a' ha => by rw [ha.name]

/-- What is annotated is seen to be annotated. -/
theorem isSome_annotationFor? {as as' : List Annotation}
    (h : List.Forall₂ Annotation.Obscures as as') (marker : ClassName) :
    (annotationFor? marker as).isSome = (annotationFor? marker as').isSome := by
  rcases rel_cases (annotationFor?_rel h marker) with ⟨given, given'⟩ | ⟨a, a', given, given', -⟩
  · rw [given, given']
  · rw [given, given']
    rfl

/-- A parameter as it may be seen early. -/
structure Parameter.Obscures (p p' : Parameter) : Prop where
  name : p.name = p'.name
  type : p.type.Obscures p'.type
  annotations : List.Forall₂ Annotation.Obscures p.annotations p'.annotations

/-- A parameter whose type is known; its annotations may still be obscured. -/
structure Parameter.Agrees (p p' : Parameter) : Prop where
  name : p.name = p'.name
  type : p.type = p'.type
  annotations : List.Forall₂ Annotation.Obscures p.annotations p'.annotations

/-- A function as it may be seen early. -/
structure Function.Obscures (f f' : Function) : Prop where
  name : f.name = f'.name
  parameters : List.Forall₂ Parameter.Obscures f.parameters f'.parameters
  returns : Option.Rel TypeRef.Obscures f.returns f'.returns
  annotations : List.Forall₂ Annotation.Obscures f.annotations f'.annotations
  isAbstract : f.isAbstract = f'.isAbstract

/-- A function whose parameters' types are known. -/
structure Function.Agrees (f f' : Function) : Prop where
  name : f.name = f'.name
  parameters : List.Forall₂ Parameter.Agrees f.parameters f'.parameters
  annotations : List.Forall₂ Annotation.Obscures f.annotations f'.annotations

/-- A class as it may be seen early. -/
structure ClassDeclaration.Obscures (c c' : ClassDeclaration) : Prop where
  name : c.name = c'.name
  kind : c.kind = c'.kind
  source : c.source = c'.source
  annotations : List.Forall₂ Annotation.Obscures c.annotations c'.annotations
  constructors : List.Forall₂ Function.Obscures c.constructors c'.constructors
  supertypes : List.Forall₂ TypeRef.Obscures c.supertypes c'.supertypes
  functions : List.Forall₂ Function.Obscures c.functions c'.functions

theorem Annotation.Obscures.refl (a : Annotation) : a.Obscures a :=
  ⟨rfl, List.forall₂_same.2 fun b _ => ⟨rfl, .refl b.value⟩⟩

theorem Parameter.Obscures.refl (p : Parameter) : p.Obscures p :=
  ⟨rfl, .inl rfl, List.forall₂_same.2 fun a _ => .refl a⟩

theorem Function.Obscures.refl (f : Function) : f.Obscures f where
  name := rfl
  parameters := List.forall₂_same.2 fun p _ => .refl p
  returns := by
    cases f.returns with
    | none => exact .none
    | some r => exact .some (.inl rfl)
  annotations := List.forall₂_same.2 fun a _ => .refl a
  isAbstract := rfl

/-- Everything may be known already. -/
theorem ClassDeclaration.Obscures.refl (c : ClassDeclaration) : c.Obscures c where
  name := rfl
  kind := rfl
  source := rfl
  annotations := List.forall₂_same.2 fun a _ => .refl a
  constructors := List.forall₂_same.2 fun f _ => .refl f
  supertypes := List.forall₂_same.2 fun _ _ => .inl rfl
  functions := List.forall₂_same.2 fun f _ => .refl f

theorem Parameter.Obscures.agrees {p p' : Parameter} (h : p.Obscures p')
    (resolved : p.type.spelling? = none) : p.Agrees p' :=
  ⟨h.name, h.type.eq resolved, h.annotations⟩

theorem Function.Obscures.agrees {f f' : Function} (h : f.Obscures f')
    (resolved : ∀ p ∈ f.parameters, p.type.spelling? = none) : f.Agrees f' := by
  refine ⟨h.name, ?_, h.annotations⟩
  have both := (List.forall₂_and_left _ _).2 ⟨resolved, h.parameters⟩
  exact both.imp fun p p' hp => hp.2.agrees hp.1

end AssistedInjection.Declaration
