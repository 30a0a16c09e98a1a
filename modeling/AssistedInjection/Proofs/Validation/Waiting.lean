import AssistedInjection.Proofs.Validation.Agreement
import AssistedInjection.Validation.References

/-!
Why waiting is enough. A class waits for all references that validation might read, so once it does
not wait any more, nothing that is learned later about types can change its outcome.
-/

namespace AssistedInjection.Validation

open Kotlin Declaration Checks

theorem mem_withoutRepetition {s : String} {spellings : List String} :
    s ∈ withoutRepetition spellings ↔ s ∈ spellings := by
  have general : ∀ (rest seen : List String),
      s ∈ rest.foldl (fun seen s => if seen.contains s then seen else seen ++ [s]) seen
        ↔ s ∈ seen ∨ s ∈ rest := by
    intro rest
    induction rest with
    | nil => simp
    | cons t rest ih =>
      intro seen
      rw [List.foldl_cons, ih]
      by_cases old : seen.contains t
      · rw [if_pos old, List.mem_cons]
        have : s = t → s ∈ seen := fun same => same ▸ List.contains_iff_mem.1 old
        tauto
      · rw [if_neg old, List.mem_append, List.mem_singleton, List.mem_cons, or_assoc]
  rw [withoutRepetition, general]
  simp

/-- A class waits for nothing when each of its references is resolved. -/
theorem unresolvedReferences_eq_nil_iff {m : Markers} {find : Lookup} {c : ClassDeclaration} :
    unresolvedReferences m find c = [] ↔
      ∀ r ∈ ownReferences m c ++ boundReferences m find c, r.spelling? = none := by
  rw [List.eq_nil_iff_forall_not_mem]
  simp only [unresolvedReferences, mem_withoutRepetition, List.mem_filterMap, not_exists, not_and]
  constructor
  · intro none r mem
    by_contra some
    obtain ⟨s, spelled⟩ := Option.ne_none_iff_exists'.1 some
    exact none s r mem spelled
  · intro resolved s r mem spelled
    rw [resolved r mem] at spelled
    cases spelled

theorem eq_of_obscures {rs rs' : List TypeRef} (h : List.Forall₂ TypeRef.Obscures rs rs')
    (resolved : ∀ r ∈ rs, r.spelling? = none) : rs = rs' := by
  rw [← List.forall₂_eq_eq_eq]
  have both := (List.forall₂_and_left _ _).2 ⟨resolved, h⟩
  exact both.imp fun r r' hr => hr.2.eq hr.1

theorem ownReferences_rel (m : Markers) {c c' : ClassDeclaration} (h : c.Obscures c') :
    List.Forall₂ TypeRef.Obscures (ownReferences m c) (ownReferences m c') := by
  have parameters : List.Forall₂ TypeRef.Obscures
      (c.constructors.flatMap (·.parameters.map (·.type)))
      (c'.constructors.flatMap (·.parameters.map (·.type))) :=
    List.rel_flatMap h.constructors fun f f' hf =>
      List.rel_map (fun p p' hp => hp.type) hf.parameters
  have asked : Option.Rel Annotation.Obscures (c.annotationFor? m.contributesAssistedFactory)
      (c'.annotationFor? m.contributesAssistedFactory) := annotationFor?_rel h.annotations _
  unfold ownReferences
  refine List.rel_append (List.rel_append ?_ parameters) h.supertypes
  rcases rel_cases asked with ⟨absent, absent'⟩ | ⟨a, a', given, given', ha⟩
  · rw [absent, absent']
    exact .nil
  · rw [given, given']
    exact List.rel_filterMap (fun b b' hb => hb.value.typeRef?) ha.arguments

theorem signature_rel {f f' : Function} (h : f.Obscures f') :
    List.Forall₂ TypeRef.Obscures (signature f) (signature f') := by
  refine List.rel_append (List.rel_map (fun p p' hp => hp.type) h.parameters) ?_
  rcases rel_cases h.returns with ⟨nothing, nothing'⟩ | ⟨r, r', given, given', hr⟩
  · rw [nothing, nothing']
    exact .nil
  · rw [given, given']
    exact .cons hr .nil

theorem abstractMethods_rel {c c' : ClassDeclaration} (h : c.Obscures c') :
    List.Forall₂ Function.Obscures c.abstractMethods c'.abstractMethods :=
  List.rel_filter (fun _ _ hf => Iff.of_eq (congrArg (· = true) hf.isAbstract)) h.functions

theorem value_of_argument? {a : Annotation} {name : String} {position : Nat} {k : Constant}
    (h : a.argument? name position = some k) : ∃ b ∈ a.arguments, b.value = k := by
  unfold Annotation.argument? at h
  split at h
  · rename_i b found
    exact ⟨b, List.mem_of_find?_eq_some found, Option.some.inj h⟩
  · obtain ⟨b, kept, value⟩ := Option.map_eq_some_iff.1 h
    have given := (Option.filter_eq_some_iff.1 kept).1
    exact ⟨b, List.mem_of_getElem? given, value⟩

section

variable {m : Markers} {find find' : Lookup} {c c' : ClassDeclaration}

/-- An argument of the annotation that asks for the factory is known once the class's own references
are. -/
theorem argument_eq (h : c.Obscures c') (own : ∀ r ∈ ownReferences m c, r.spelling? = none)
    (name : String) (position : Nat) :
    (c.annotationFor? m.contributesAssistedFactory).bind (·.argument? name position)
      = (c'.annotationFor? m.contributesAssistedFactory).bind (·.argument? name position) := by
  have asked : Option.Rel Annotation.Obscures (c.annotationFor? m.contributesAssistedFactory)
      (c'.annotationFor? m.contributesAssistedFactory) := annotationFor?_rel h.annotations _
  rcases rel_cases asked with ⟨absent, absent'⟩ | ⟨a, a', marked, marked', ha⟩
  · rw [absent, absent']
  rw [marked, marked', Option.bind_some, Option.bind_some]
  rcases rel_cases (ha.argument? name position) with
    ⟨missing, missing'⟩ | ⟨k, k', given, given', hk⟩
  · rw [missing, missing']
  rw [given, given']
  cases hk with
  | refl => rfl
  | @classLiteral r r' hr =>
    have listed : r ∈ ownReferences m c := by
      obtain ⟨b, mem, value⟩ := value_of_argument? given
      unfold ownReferences
      rw [marked]
      refine List.mem_append_left _ (List.mem_append_left _ ?_)
      exact List.mem_filterMap.2 ⟨b, mem, by rw [value]; rfl⟩
    rw [hr.eq (own r listed)]

theorem constructors_agree (h : c.Obscures c')
    (own : ∀ r ∈ ownReferences m c, r.spelling? = none) :
    List.Forall₂ Function.Agrees c.constructors c'.constructors := by
  have known : ∀ f ∈ c.constructors, ∀ p ∈ f.parameters, p.type.spelling? = none := by
    intro f hf p hp
    refine own _ (List.mem_append_left _ (List.mem_append_right _ ?_))
    exact List.mem_flatMap.2 ⟨f, hf, List.mem_map_of_mem hp⟩
  have both := (List.forall₂_and_left _ _).2 ⟨known, h.constructors⟩
  exact both.imp fun f f' hf => hf.2.agrees hf.1

/-- A bound type is known once the signatures of its abstract methods are. -/
theorem sameBound_of_obscures {bound bound' : ClassDeclaration} (h : bound.Obscures bound')
    (resolved : ∀ r ∈ bound.abstractMethods.flatMap signature, r.spelling? = none) :
    SameBound bound bound' := by
  refine ⟨h.name, h.kind, ?_⟩
  have known : ∀ f ∈ bound.abstractMethods, ∀ p ∈ f.parameters, p.type.spelling? = none := by
    intro f hf p hp
    refine resolved _ (List.mem_flatMap.2 ⟨f, hf, ?_⟩)
    exact List.mem_append_left _ (List.mem_map_of_mem hp)
  have both := (List.forall₂_and_left _ _).2 ⟨known, abstractMethods_rel h⟩
  exact both.imp fun f f' hf => hf.2.agrees hf.1

/-- A class that waits for nothing is checked as it would be with all types known. -/
theorem sameChecks_of_obscures (h : c.Obscures c')
    (declared : ∀ name, boundName? m c = some name →
      Option.Rel ClassDeclaration.Obscures (find name) (find' name))
    (ready : unresolvedReferences m find c = []) :
    SameChecks m find find' c c' ∧ unresolvedReferences m find' c' = [] := by
  have resolved := unresolvedReferences_eq_nil_iff.1 ready
  have own : ∀ r ∈ ownReferences m c, r.spelling? = none := fun r mem =>
    resolved r (List.mem_append_left _ mem)
  have bound : boundArgument? m c = boundArgument? m c' := argument_eq h own _ _
  have named : boundName? m c = boundName? m c' := by rw [boundName?, boundName?, bound]
  constructor
  · refine ⟨h.name, h.source, bound, argument_eq h own _ _, constructors_agree h own, ?_⟩
    intro name isNamed
    rcases rel_cases (declared name isNamed) with ⟨absent, absent'⟩ | ⟨b, b', found, found', hb⟩
    · rw [absent, absent']
      exact .none
    · rw [found, found']
      refine .some (sameBound_of_obscures hb fun r mem => resolved r ?_)
      rw [boundReferences, isNamed, Option.bind_some, found]
      exact List.mem_append_right _ mem
  · have all : List.Forall₂ TypeRef.Obscures (boundReferences m find c)
        (boundReferences m find' c') := by
      unfold boundReferences
      rw [← named]
      cases isNamed : boundName? m c with
      | none => exact .nil
      | some name =>
        rw [Option.bind_some, Option.bind_some]
        rcases rel_cases (declared name isNamed) with
          ⟨absent, absent'⟩ | ⟨b, b', found, found', hb⟩
        · rw [absent, absent']
          exact .nil
        · rw [found, found']
          exact List.rel_flatMap (abstractMethods_rel hb) fun f f' => signature_rel
    have same : ownReferences m c ++ boundReferences m find c
        = ownReferences m c' ++ boundReferences m find' c' :=
      eq_of_obscures (List.rel_append (ownReferences_rel m h) all) resolved
    rw [unresolvedReferences_eq_nil_iff, ← same]
    exact resolved

end

end AssistedInjection.Validation
