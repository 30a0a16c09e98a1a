import AssistedInjection.Proofs.Validation.FirstFailure

/-!
What a class is planned with. A plan repeats what the declarations say and adds, for each parameter
of the factory method, the assisted parameter that has its key. The checks and the plan together
come to a few facts about the declarations; a class gets a plan exactly when all of them hold.

    entries      (id, a)  (name, b)           the assisted parameters under their keys
    method        x         y                 asks for   name   id
    plan          x ↦ b     y ↦ a
-/

namespace AssistedInjection

open Kotlin Declaration Matching Checks

/-- The key that a planned parameter asks for. -/
def FactoryParameter.request (q : FactoryParameter) : ParameterKey := ⟨q.type, q.key⟩

namespace Validation

/-- What a plan says of a parameter of the factory method, given the assisted ones by key. -/
structure Planned (m : Markers) (entries : List Keyed) (p : Parameter) (q : FactoryParameter) :
    Prop where
  name : q.name = p.name
  key : keyUnder? m.assistedKey p = some q.request
  found : ∃ a, (q.request, a) ∈ entries ∧ a.name = q.constructorParameter

section

variable {m : Markers} {entries entries' : List Keyed}

/-- Matching a factory parameter plans it. -/
theorem planned_of_matchOne {p : Parameter} {f : Keyed} {x : Match}
    (distinct : (entries.map (·.1)).Nodup) (keyed : KeyedBy m.assistedKey p f)
    (matched : KeyIndex.matchOne ⟨entries⟩ f = .ok x) :
    Planned m entries p (plannedParameter x) := by
  obtain ⟨found, key, factory⟩ := KeyIndex.matchOne_eq_ok_iff.1 matched
  obtain ⟨same, under⟩ := keyed
  refine ⟨?_, ?_, x.constructor, ?_, rfl⟩
  · rw [plannedParameter, factory, same]
  · rw [under, ← key]; rfl
  · rw [← key, KeyIndex.get?_eq_some_iff distinct] at found
    exact found

/-- A plan follows the matches, and these follow the parameters with their keys. -/
theorem planned_of_pair {factory : List Keyed} {ps : List Parameter} {found : List Match}
    (distinct : (entries.map (·.1)).Nodup)
    (keyed : List.Forall₂ (KeyedBy m.assistedKey) ps factory)
    (paired : List.Forall₂ (fun f x => KeyIndex.matchOne ⟨entries⟩ f = .ok x) factory found) :
    List.Forall₂ (Planned m entries) ps (found.map plannedParameter) := by
  induction keyed generalizing found with
  | nil => cases paired; exact .nil
  | cons first _ ih =>
    cases paired with
    | cons one more => exact .cons (planned_of_matchOne distinct first one) (ih more)

/-- What is planned of a parameter comes from a match of it. -/
theorem Planned.exists_match {p : Parameter} {q : FactoryParameter} (h : Planned m entries p q)
    (distinct : (entries.map (·.1)).Nodup) :
    ∃ x, KeyIndex.matchOne ⟨entries⟩ (q.request, p) = .ok x ∧ plannedParameter x = q := by
  obtain ⟨a, mem, named⟩ := h.found
  refine ⟨⟨q.request, p, a⟩, KeyIndex.matchOne_eq_ok_iff.2 ⟨?_, rfl, rfl⟩, ?_⟩
  · exact (KeyIndex.get?_eq_some_iff distinct).2 mem
  · rw [plannedParameter, ← h.name, named]
    rfl

/-- Parameters can be planned exactly when they all have keys and matches. -/
theorem exists_matches_iff {ps : List Parameter} {qs : List FactoryParameter}
    (distinct : (entries.map (·.1)).Nodup) :
    (∃ factory found, List.Forall₂ (KeyedBy m.assistedKey) ps factory ∧
        List.Forall₂ (fun f x => KeyIndex.matchOne ⟨entries⟩ f = .ok x) factory found ∧
        found.map plannedParameter = qs) ↔
      List.Forall₂ (Planned m entries) ps qs := by
  constructor
  · rintro ⟨factory, found, keyed, paired, rfl⟩
    exact planned_of_pair distinct keyed paired
  · intro planned
    induction planned with
    | nil => exact ⟨[], [], .nil, .nil, rfl⟩
    | @cons p q ps qs here _ ih =>
      obtain ⟨factory, found, keyed, paired, rfl⟩ := ih
      obtain ⟨x, matched, rfl⟩ := here.exists_match distinct
      exact ⟨_ :: factory, x :: found, .cons ⟨rfl, here.key⟩ keyed, .cons matched paired, rfl⟩

end

/-! ### Accepted classes -/

/-- The facts that make up a class with a plan: its only constructor, its bound type and the only
abstract method of that, the assisted parameters by key, and how the plan follows them. -/
structure Grants (m : Markers) (find : Lookup) (c : ClassDeclaration) (constructor : Function)
    (bound : ClassDeclaration) (method : Function) (entries : List Keyed) (plan : Plan) :
    Prop where
  parts : Parts m find c constructor bound method
  scope : scopeName? m c = some plan.scope
  marked : constructor.isAnnotatedWith m.assistedInject
  kind : boundKind c bound = .ok plan.bound.kind
  keyed : List.Forall₂ (KeyedBy m.assisted) (assistedOf m constructor) entries
  distinct : (entries.map (·.1)).Nodup
  counted : entries.length = method.parameters.length
  clean : ∀ p ∈ method.parameters, ¬ isMismarked m p
  planned : List.Forall₂ (Planned m entries) method.parameters plan.method.parameters
  annotated : plan.annotated = c.name
  boundName : plan.bound.name = bound.name
  methodName : plan.method.name = method.name
  origin : plan.origin = c.source

section

variable {m : Markers} {find : Lookup} {c bound : ClassDeclaration}

theorem scope_eq_ok_iff {name : ClassName} :
    scope m c = .ok name ↔ scopeName? m c = some name := by
  unfold scope scopeName?
  cases scopeArgument? m c with
  | none => simp [refuse_ne_ok]
  | some k =>
    cases k with
    | classLiteral r =>
      cases r with
      | unresolved s => simp [resolved, bind, Except.bind]
      | resolved type =>
        cases named : type.className? <;>
          simp [resolved, bind, Except.bind, pure, Except.pure, named, refuse_ne_ok]
    | _ => simp [refuse_ne_ok]

theorem checkMarkers_eq_ok_iff {method : Function} :
    checkMarkers m c bound method = .ok () ↔ ∀ p ∈ method.parameters, ¬ isMismarked m p := by
  rw [← List.find?_eq_none, checkMarkers]
  cases method.parameters.find? (isMismarked m) <;> simp [refuse_ne_ok]

/-- A class gets a plan exactly when the facts hold that make it up. -/
theorem validate_eq_ok_iff {plan : Plan} :
    validate m find c = .ok plan ↔
      ∃ constructor bound method entries, Grants m find c constructor bound method entries plan := by
  simp only [validate, bind_eq_ok_iff, pure_eq_ok_iff]
  constructor
  · rintro ⟨type, given, bound, declared, scope, inScope, constructor, sole, kind, kinded, method,
      only, entries, assisted, index, indexed, _, counted, _, clean, factory, keyed, found, paired,
      rfl⟩
    rw [assistedIndex, mapError_eq_ok_iff, KeyIndex.ofList_eq_ok_iff] at indexed
    obtain ⟨distinct, rfl⟩ := indexed
    rw [pairParameters, mapError_eq_ok_iff, KeyIndex.pair_eq_ok_iff] at paired
    obtain ⟨constructors, marked⟩ := soleConstructor_eq_ok_iff.1 sole
    have methods := factoryMethod_eq_ok_iff.1 only
    exact ⟨constructor, bound, method, entries,
      { parts := ⟨constructors, (boundDeclaration_eq_ok_iff given).1 declared, methods⟩
        scope := scope_eq_ok_iff.1 inScope
        marked := marked
        kind := kinded
        keyed := assistedParameters_eq_ok_iff.1 assisted
        distinct := distinct
        counted := checkCount_eq_ok_iff.1 counted
        clean := checkMarkers_eq_ok_iff.1 clean
        planned := planned_of_pair distinct (factoryParameters_eq_ok_iff.1 keyed) paired
        annotated := rfl
        boundName := rfl
        methodName := rfl
        origin := rfl }⟩
  · rintro ⟨constructor, bound, method, entries, h⟩
    obtain ⟨type, given⟩ := exists_boundType_of_declared h.parts.declared
    obtain ⟨factory, found, keyed, paired, parameters⟩ := (exists_matches_iff h.distinct).2 h.planned
    refine ⟨type, given, bound, (boundDeclaration_eq_ok_iff given).2 h.parts.declared, plan.scope,
      scope_eq_ok_iff.2 h.scope, constructor,
      soleConstructor_eq_ok_iff.2 ⟨h.parts.constructors, h.marked⟩, plan.bound.kind, h.kind, method,
      factoryMethod_eq_ok_iff.2 h.parts.methods, entries, assistedParameters_eq_ok_iff.2 h.keyed,
      ⟨entries⟩, ?_, (), checkCount_eq_ok_iff.2 h.counted, (), checkMarkers_eq_ok_iff.2 h.clean,
      factory, factoryParameters_eq_ok_iff.2 keyed, found, ?_, ?_⟩
    · rw [assistedIndex, mapError_eq_ok_iff, KeyIndex.ofList_eq_ok_iff]
      exact ⟨h.distinct, rfl⟩
    · rw [pairParameters, mapError_eq_ok_iff, KeyIndex.pair_eq_ok_iff]
      exact paired
    · rw [parameters, ← h.annotated, ← h.boundName, ← h.methodName, ← h.origin]

end

end Validation

end AssistedInjection
