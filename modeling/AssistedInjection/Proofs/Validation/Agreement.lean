import AssistedInjection.Proofs.Declaration.Obscured
import AssistedInjection.Proofs.Matching.Agreement
import AssistedInjection.Validation.Check

/-!
What validation reads of a class: the two arguments of the annotation that asks for the factory, the
names, types, keys and markers of its constructors' parameters, and as much of the bound type.
Classes that agree in these pass the same checks, fail the same one, and get the same plan.
-/

namespace AssistedInjection.Validation

open Kotlin Declaration Matching Checks

/-- Bound types that no check tells apart. -/
structure SameBound (bound bound' : ClassDeclaration) : Prop where
  name : bound.name = bound'.name
  kind : bound.kind = bound'.kind
  methods : List.Forall₂ Function.Agrees bound.abstractMethods bound'.abstractMethods

/-- Classes that no check tells apart, each with its own way of finding the bound type. -/
structure SameChecks (m : Markers) (find find' : Lookup) (c c' : ClassDeclaration) : Prop where
  name : c.name = c'.name
  source : c.source = c'.source
  bound : boundArgument? m c = boundArgument? m c'
  scope : scopeArgument? m c = scopeArgument? m c'
  constructors : List.Forall₂ Function.Agrees c.constructors c'.constructors
  declared : ∀ name, boundName? m c = some name → Option.Rel SameBound (find name) (find' name)

section

variable {m : Markers} {find find' : Lookup} {c c' bound bound' : ClassDeclaration}

/-- Classes of one name are refused in the same words. -/
theorem alike_refuse {α α' : Type} {R : α → α' → Prop} (name : c.name = c'.name)
    {cause cause' : Cause} (same : cause = cause') :
    Alike Eq R (refuse c cause) (refuse c' cause') := by
  have defect : (⟨c.name, cause⟩ : Defect) = ⟨c'.name, cause'⟩ := by rw [name, same]
  exact congrArg Rejection.invalid defect

theorem boundType_alike (h : SameChecks m find find' c c') :
    Alike Eq (fun type type' => type = type' ∧ boundName? m c = type.className?)
      (boundType m c) (boundType m c') := by
  unfold boundType boundName?
  rw [← h.bound]
  cases boundArgument? m c with
  | none => exact alike_refuse h.name rfl
  | some k =>
    cases k with
    | classLiteral r =>
      cases r with
      | resolved type => exact ⟨rfl, rfl⟩
      | unresolved spelling => exact rfl
    | _ => exact alike_refuse h.name rfl

theorem boundDeclaration_alike (h : SameChecks m find find' c c') {type : TypeExpr}
    (named : boundName? m c = type.className?) :
    Alike Eq SameBound (boundDeclaration find c type) (boundDeclaration find' c' type) := by
  unfold boundDeclaration
  cases bare : type.className? with
  | none => exact alike_refuse h.name rfl
  | some name =>
    rcases rel_cases (h.declared name (named.trans bare)) with
      ⟨absent, absent'⟩ | ⟨b, b', declared, declared', hb⟩
    · simp only [absent, absent']
      exact alike_refuse h.name rfl
    · simp only [declared, declared']
      exact hb

theorem scope_alike (h : SameChecks m find find' c c') :
    Alike Eq Eq (scope m c) (scope m c') := by
  have same : scope m c = scope m c' := by
    simp only [scope, h.scope, refuse, h.name]
  rw [same]
  exact .refl (fun _ => rfl) _

theorem soleConstructor_alike (h : SameChecks m find find' c c') :
    Alike Eq Function.Agrees (soleConstructor m c) (soleConstructor m c') := by
  unfold soleConstructor
  have listed := h.constructors
  generalize c.constructors = fs, c'.constructors = fs' at listed ⊢
  cases listed with
  | nil => exact alike_refuse h.name rfl
  | cons here rest =>
    cases rest with
    | nil =>
      have marked := isSome_annotationFor? here.annotations m.assistedInject
      simp only [Function.isAnnotatedWith, Function.annotationFor?, marked]
      exact .ite here (alike_refuse h.name rfl)
    | cons _ _ => exact alike_refuse h.name rfl

theorem boundKind_alike (name : c.name = c'.name) (h : SameBound bound bound') :
    Alike Eq Eq (boundKind c bound) (boundKind c' bound') := by
  unfold boundKind
  rw [h.kind, h.name]
  split
  · exact rfl
  · exact rfl
  · exact alike_refuse name rfl

theorem factoryMethod_alike (name : c.name = c'.name) (h : SameBound bound bound') :
    Alike Eq Function.Agrees (factoryMethod c bound) (factoryMethod c' bound') := by
  unfold factoryMethod
  rw [h.name]
  have listed := h.methods
  generalize bound.abstractMethods = fs, bound'.abstractMethods = fs' at listed ⊢
  cases listed with
  | nil => exact alike_refuse name rfl
  | cons here rest =>
    cases rest with
    | nil => exact here
    | cons _ _ => exact alike_refuse name rfl

theorem assistedParameters_alike (m : Markers) {ps ps' : List Parameter}
    (h : List.Forall₂ Parameter.Agrees ps ps') :
    Alike Eq (List.Forall₂ SameEntry) (assistedParameters m ps) (assistedParameters m ps') := by
  induction h with
  | nil => exact .nil
  | @cons p p' ps ps' here _ ih =>
    unfold assistedParameters
    have marked : Option.Rel Annotation.Obscures (p.annotationFor? m.assisted)
        (p'.annotationFor? m.assisted) := annotationFor?_rel here.annotations m.assisted
    rcases rel_cases marked with ⟨unmarked, unmarked'⟩ | ⟨a, a', given, given', ha⟩
    · simp only [unmarked, unmarked']
      exact ih
    · simp only [given, given', here.type, ha.stringValue?]
      refine (Alike.refl (fun _ => rfl) _).bind fun type type' same => ?_
      refine ih.bind fun entries entries' rest => .cons ⟨?_, here.name⟩ rest
      rw [same]

theorem assistedIndex_alike (name : c.name = c'.name) {entries entries' : List Keyed}
    (same : List.Forall₂ SameEntry entries entries') :
    Alike Eq KeyIndex.Agrees (assistedIndex c entries) (assistedIndex c' entries') := by
  refine (KeyIndex.ofList_alike same).mapError fun clash clash' h => ?_
  rw [name, h.key, h.first, h.second]

theorem checkCount_alike (name : c.name = c'.name) (h : SameBound bound bound')
    {method method' : Function} (same : method.Agrees method') {index index' : KeyIndex}
    (entries : index.Agrees index') :
    Alike Eq Eq (checkCount c bound method index) (checkCount c' bound' method' index') := by
  unfold checkCount
  rw [entries.size, same.parameters.length_eq, h.name, same.name]
  exact .ite rfl (alike_refuse name rfl)

theorem isMismarked_congr (m : Markers) {p p' : Parameter} (h : p.Agrees p') :
    isMismarked m p = isMismarked m p' := by
  have marked := isSome_annotationFor? h.annotations m.assisted
  have keyed := isSome_annotationFor? h.annotations m.assistedKey
  simp only [isMismarked, Parameter.isAnnotatedWith, Parameter.annotationFor?, marked, keyed]

theorem checkMarkers_alike (m : Markers) (name : c.name = c'.name) (h : SameBound bound bound')
    {method method' : Function} (same : method.Agrees method') :
    Alike Eq Eq (checkMarkers m c bound method) (checkMarkers m c' bound' method') := by
  unfold checkMarkers
  rcases rel_cases (find?_rel same.parameters fun p p' => isMismarked_congr m) with
    ⟨clean, clean'⟩ | ⟨p, p', found, found', hp⟩
  · rw [clean, clean']
    exact rfl
  · rw [found, found']
    exact alike_refuse name (by rw [h.name, same.name, hp.name])

theorem factoryKey_congr (m : Markers) {p p' : Parameter} (h : p.Agrees p') :
    factoryKey m p = factoryKey m p' := by
  have marked : Option.Rel Annotation.Obscures (p.annotationFor? m.assistedKey)
      (p'.annotationFor? m.assistedKey) := annotationFor?_rel h.annotations m.assistedKey
  unfold factoryKey
  rw [h.type]
  rcases rel_cases marked with ⟨unmarked, unmarked'⟩ | ⟨a, a', given, given', ha⟩
  · rw [unmarked, unmarked']
  · rw [given, given', Option.bind_some, Option.bind_some, ha.stringValue?]

theorem factoryParameters_alike (m : Markers) {ps ps' : List Parameter}
    (h : List.Forall₂ Parameter.Agrees ps ps') :
    Alike Eq (List.Forall₂ SameEntry) (factoryParameters m ps) (factoryParameters m ps') := by
  induction h with
  | nil => exact .nil
  | cons here _ ih =>
    unfold factoryParameters
    rw [factoryKey_congr m here]
    refine (Alike.refl (fun _ => rfl) _).bind fun key key' same => ?_
    exact ih.bind fun entries entries' rest => .cons ⟨same, here.name⟩ rest

theorem pairParameters_alike (name : c.name = c'.name) (h : SameBound bound bound')
    {method method' : Function} (same : method.Agrees method') {index index' : KeyIndex}
    (entries : index.Agrees index') {factory factory' : List Keyed}
    (keyed : List.Forall₂ SameEntry factory factory') :
    Alike Eq (List.Forall₂ Match.Agrees) (pairParameters c bound method index factory)
      (pairParameters c' bound' method' index' factory') := by
  refine (entries.pair keyed).mapError fun lone lone' h' => ?_
  rw [name, h.name, same.name, h']

theorem plannedParameter_congr {p p' : Match} (h : p.Agrees p') :
    plannedParameter p = plannedParameter p' := by
  simp only [plannedParameter, h.key, h.factory, h.constructor]

/-- Classes that no check tells apart come out alike: with the same plan or for the same reason
without one. -/
theorem validate_congr (h : SameChecks m find find' c c') :
    validate m find c = validate m find' c' := by
  refine Alike.eq ((boundType_alike h).bind fun type type' ⟨same, named⟩ => ?_)
  subst same
  refine (boundDeclaration_alike h named).bind fun bound bound' hb => ?_
  refine (scope_alike h).bind fun scope scope' hs => ?_
  refine (soleConstructor_alike h).bind fun constructor constructor' hc => ?_
  refine (boundKind_alike h.name hb).bind fun kind kind' hk => ?_
  refine (factoryMethod_alike h.name hb).bind fun method method' hm => ?_
  refine (assistedParameters_alike m hc.parameters).bind fun assisted assisted' ha => ?_
  refine (assistedIndex_alike h.name ha).bind fun index index' hi => ?_
  refine (checkCount_alike h.name hb hm hi).bind fun _ _ _ => ?_
  refine (checkMarkers_alike m h.name hb hm).bind fun _ _ _ => ?_
  refine (factoryParameters_alike m hm.parameters).bind fun factory factory' hf => ?_
  refine (pairParameters_alike h.name hb hm hi hf).bind fun matched matched' hp => ?_
  have parameters : matched.map plannedParameter = matched'.map plannedParameter :=
    map_eq_map hp fun p p' => plannedParameter_congr
  have plan : (⟨c.name, scope, ⟨bound.name, kind⟩, ⟨method.name, matched.map plannedParameter⟩,
      c.source⟩ : Plan) = ⟨c'.name, scope', ⟨bound'.name, kind'⟩,
        ⟨method'.name, matched'.map plannedParameter⟩, c'.source⟩ := by
    rw [h.name, hs, hb.name, hk, hm.name, parameters, h.source]
  exact plan

end

end AssistedInjection.Validation
