import AssistedInjection.Proofs.Matching.Index
import AssistedInjection.Validation.Check

/-!
What a class has to be like to get a plan. Every check is turned into the fact that it establishes,
and a plan exists exactly when all of these facts hold together.
-/

namespace AssistedInjection.Validation

open Kotlin Declaration Matching Checks

/-- The key that a marker gives a parameter. A parameter of an unresolved type has none. -/
def keyUnder? (marker : ClassName) (p : Parameter) : Option ParameterKey :=
  p.type.type?.map fun type => .ofTagged type ((p.annotationFor? marker).bind (·.stringValue?))

/-- A parameter that is kept together with the key a marker gives it. -/
def KeyedBy (marker : ClassName) (p : Parameter) (entry : Keyed) : Prop :=
  entry.2 = p ∧ keyUnder? marker p = some entry.1

/-- The assisted parameters of a constructor. -/
def assistedOf (m : Markers) (constructor : Function) : List Parameter :=
  constructor.parameters.filter (·.isAnnotatedWith m.assisted)

theorem keys_of_keyedBy {marker : ClassName} {ps : List Parameter} {entries : List Keyed}
    (keyed : List.Forall₂ (KeyedBy marker) ps entries) :
    ps.map (keyUnder? marker) = (entries.map (·.1)).map some := by
  rw [List.map_map]
  exact map_eq_map keyed fun _ _ h => h.2

theorem parameters_of_keyedBy {marker : ClassName} {ps : List Parameter} {entries : List Keyed}
    (keyed : List.Forall₂ (KeyedBy marker) ps entries) : entries.map (·.2) = ps := by
  have same := map_eq_map keyed (f := fun p => p) fun _ _ h => h.1.symm
  simpa using same.symm

theorem mem_of_keyedBy {marker : ClassName} {ps : List Parameter} {entries : List Keyed}
    (keyed : List.Forall₂ (KeyedBy marker) ps entries) {key : ParameterKey} {a : Parameter}
    (mem : (key, a) ∈ entries) : a ∈ ps ∧ keyUnder? marker a = some key := by
  induction keyed with
  | nil => simp at mem
  | cons first _ ih =>
    rcases List.mem_cons.1 mem with rfl | later
    · obtain ⟨rfl, under⟩ := first
      exact ⟨List.mem_cons_self .., under⟩
    · exact ⟨List.mem_cons_of_mem _ (ih later).1, (ih later).2⟩

theorem refuse_ne_ok {α : Type} {c : ClassDeclaration} {cause : Cause} {a : α} :
    refuse c cause ≠ .ok a := by
  simp [refuse]

theorem resolved_eq_ok_iff {r : TypeRef} {type : TypeExpr} :
    resolved r = .ok type ↔ r.type? = some type := by
  cases r <;> simp [resolved, TypeRef.type?]

theorem soleConstructor_eq_ok_iff {m : Markers} {c : ClassDeclaration} {constructor : Function} :
    soleConstructor m c = .ok constructor ↔
      c.constructors = [constructor] ∧ constructor.isAnnotatedWith m.assistedInject := by
  unfold soleConstructor
  split
  · rename_i only sole
    rw [sole]
    split
    · rename_i marked
      simp only [Except.ok.injEq, List.cons.injEq, and_true]
      exact ⟨fun same => ⟨same, same ▸ marked⟩, And.left⟩
    · rename_i unmarked
      simp only [refuse_ne_ok, false_iff, List.cons.injEq, and_true, not_and]
      rintro rfl
      exact unmarked
  · rename_i several
    simp only [refuse_ne_ok, false_iff, not_and]
    intro sole
    exact absurd sole (several constructor)

theorem factoryMethod_eq_ok_iff {c bound : ClassDeclaration} {method : Function} :
    factoryMethod c bound = .ok method ↔ bound.abstractMethods = [method] := by
  unfold factoryMethod
  split
  · rename_i only sole
    rw [sole]; simp
  · rename_i several
    simp only [refuse_ne_ok, false_iff]
    exact several method

theorem boundType_eq_ok_iff {m : Markers} {c : ClassDeclaration} {type : TypeExpr} :
    boundType m c = .ok type ↔ boundArgument? m c = some (.classLiteral (.resolved type)) := by
  unfold boundType
  split
  · rename_i r argument
    rw [resolved_eq_ok_iff, argument]
    cases r <;> simp [TypeRef.type?]
  · rename_i other argument
    rw [argument]
    simp only [refuse_ne_ok, Option.some.injEq, false_iff]
    exact other _
  · rename_i argument
    simp [refuse_ne_ok, argument]

/-- A bound type that is declared is given as the literal of a class. -/
theorem exists_boundType_of_declared {m : Markers} {find : Lookup} {c bound : ClassDeclaration}
    (declared : (boundName? m c).bind find = some bound) : ∃ type, boundType m c = .ok type := by
  obtain ⟨name, named, -⟩ := Option.bind_eq_some_iff.1 declared
  unfold boundName? at named
  split at named
  · rename_i type argument
    exact ⟨type, boundType_eq_ok_iff.2 argument⟩
  · cases named

/-- The bound declaration is what the bound type's name leads to. -/
theorem boundDeclaration_eq_ok_iff {m : Markers} {find : Lookup} {c bound : ClassDeclaration}
    {type : TypeExpr} (given : boundType m c = .ok type) :
    boundDeclaration find c type = .ok bound ↔ (boundName? m c).bind find = some bound := by
  have literal := boundType_eq_ok_iff.1 given
  have named : boundName? m c = type.className? := by rw [boundName?, literal]
  rw [named]
  unfold boundDeclaration
  cases type.className? with
  | none => simp [refuse_ne_ok]
  | some name => cases declared : find name <;> simp [refuse_ne_ok, declared]

/-- The assisted parameters are collected in order, each under its own key. -/
theorem assistedParameters_eq_ok_iff {m : Markers} {ps : List Parameter} {entries : List Keyed} :
    assistedParameters m ps = .ok entries ↔
      List.Forall₂ (KeyedBy m.assisted) (ps.filter (·.isAnnotatedWith m.assisted)) entries := by
  induction ps generalizing entries with
  | nil => simp [assistedParameters, eq_comm]
  | cons p ps ih =>
    rw [assistedParameters]
    cases marked : p.annotationFor? m.assisted with
    | none => simp [Parameter.isAnnotatedWith, marked, ih]
    | some a =>
      have kept : (p :: ps).filter (·.isAnnotatedWith m.assisted)
          = p :: ps.filter (·.isAnnotatedWith m.assisted) := by
        simp [Parameter.isAnnotatedWith, marked]
      simp only [kept, bind_eq_ok_iff, pure_eq_ok_iff, resolved_eq_ok_iff, ih,
        List.forall₂_cons_left_iff]
      constructor
      · rintro ⟨type, resolved, rest, keyed, rfl⟩
        exact ⟨_, rest, ⟨rfl, by simp [keyUnder?, resolved, marked]⟩, keyed, rfl⟩
      · rintro ⟨⟨key, q⟩, rest, ⟨same, underKey⟩, keyed, rfl⟩
        obtain rfl : q = p := same
        obtain ⟨type, resolved, under⟩ := Option.map_eq_some_iff.1 underKey
        have same : ParameterKey.ofTagged type a.stringValue? = key := by simpa [marked] using under
        exact ⟨type, resolved, rest, keyed, by rw [same]⟩

/-- The parameters of the factory method are collected in order, each under its own key. -/
theorem factoryParameters_eq_ok_iff {m : Markers} {ps : List Parameter} {entries : List Keyed} :
    factoryParameters m ps = .ok entries ↔ List.Forall₂ (KeyedBy m.assistedKey) ps entries := by
  induction ps generalizing entries with
  | nil => simp [factoryParameters, eq_comm]
  | cons p ps ih =>
    simp only [factoryParameters, factoryKey, bind_eq_ok_iff, pure_eq_ok_iff, resolved_eq_ok_iff,
      ih, List.forall₂_cons_left_iff]
    constructor
    · rintro ⟨key, ⟨type, resolved, rfl⟩, rest, keyed, rfl⟩
      exact ⟨_, rest, ⟨rfl, by simp [keyUnder?, resolved]⟩, keyed, rfl⟩
    · rintro ⟨⟨key, q⟩, rest, ⟨same, underKey⟩, keyed, rfl⟩
      obtain rfl : q = p := same
      obtain ⟨type, resolved, under⟩ := Option.map_eq_some_iff.1 underKey
      exact ⟨key, ⟨type, resolved, under⟩, rest, keyed, rfl⟩

theorem checkCount_eq_ok_iff {c bound : ClassDeclaration} {method : Function} {index : KeyIndex} :
    checkCount c bound method index = .ok () ↔ index.size = method.parameters.length := by
  unfold checkCount
  split <;> simp_all [refuse_ne_ok]

end AssistedInjection.Validation
