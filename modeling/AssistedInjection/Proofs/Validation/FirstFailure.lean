import AssistedInjection.Proofs.Validation.Accepted
import Mathlib.Data.Option.Basic

/-!
The checks of a class, each said on its own, and the order in which they decide. What a check asks
is a fact about the declarations: the arguments of the annotation, the only constructor, the bound
type and its only abstract method. A class is refused as the first check that it fails says, with
the parameters that the check names, and gets a plan if it fails none.

    bound type given, literal, resolved, declared │ scope resolved, given │ one constructor, marked
    │ kind │ one method │ assisted types, keys │ count │ markers │ factory types, keys
-/

namespace AssistedInjection.Validation

open Kotlin Declaration Matching Checks

/-- The checks of a class, named for what they ask. -/
inductive Check where
  | boundGiven
  | boundIsLiteral
  | boundResolved
  | boundDeclared
  | scopeResolved
  | scopeGiven
  | singleConstructor
  | constructorMarked
  | boundKind
  | singleMethod
  | assistedResolved
  | keysDistinct
  | sameCount
  | markersRight
  | factoryResolved
  | keysMatched
deriving DecidableEq

/-- The checks, the one that decides first in front. -/
def Check.inOrder : List Check :=
  [boundGiven, boundIsLiteral, boundResolved, boundDeclared, scopeResolved, scopeGiven,
    singleConstructor, constructorMarked, boundKind, singleMethod, assistedResolved, keysDistinct,
    sameCount, markersRight, factoryResolved, keysMatched]

/-- The class that is the scope, where that can be told. -/
def scopeName? (m : Markers) (c : ClassDeclaration) : Option ClassName :=
  match scopeArgument? m c with
  | some (.classLiteral (.resolved type)) => type.className?
  | _ => none

/-- A class is refused for good. -/
def defective (c : ClassDeclaration) (cause : Cause) : Rejection := .invalid ⟨c.name, cause⟩

/-- How a bound type without a declaration is named. -/
def boundText (type : TypeExpr) : String :=
  match type.className? with
  | some name => name.simpleName
  | none => type.text

/-- The only constructor of a class, its bound type and the only abstract method of that. -/
structure Parts (m : Markers) (find : Lookup) (c : ClassDeclaration) (constructor : Function)
    (bound : ClassDeclaration) (method : Function) : Prop where
  constructors : c.constructors = [constructor]
  declared : (boundName? m c).bind find = some bound
  methods : bound.abstractMethods = [method]

/-- A class fails a check and is refused for that. -/
def Check.Fails (m : Markers) (find : Lookup) (c : ClassDeclaration) : Check → Rejection → Prop
  | boundGiven, r => boundArgument? m c = none ∧ r = defective c .missingBoundType
  | boundIsLiteral, r =>
    ∃ k, boundArgument? m c = some k ∧ k.typeRef? = none ∧
      r = defective c (.boundTypeNotClassOrInterface k.text)
  | boundResolved, r =>
    ∃ s, boundArgument? m c = some (.classLiteral (.unresolved s)) ∧ r = .unresolved [s]
  | boundDeclared, r =>
    ∃ type, boundArgument? m c = some (.classLiteral (.resolved type)) ∧
      type.className?.bind find = none ∧
      r = defective c (.boundTypeNotClassOrInterface (boundText type))
  | scopeResolved, r =>
    ∃ s, scopeArgument? m c = some (.classLiteral (.unresolved s)) ∧ r = .unresolved [s]
  | scopeGiven, r =>
    scopeName? m c = none ∧ r = defective c (.missingScope m.contributesAssistedFactory)
  | singleConstructor, r =>
    c.constructors.length ≠ 1 ∧ r = defective c .mustHaveSinglePrimaryConstructor
  | constructorMarked, r =>
    ∃ constructor, c.constructors = [constructor] ∧
      ¬ constructor.isAnnotatedWith m.assistedInject ∧
      r = defective c .constructorMustBeAssistedInject
  | boundKind, r =>
    ∃ bound, (boundName? m c).bind find = some bound ∧
      bound.kind ≠ .interface ∧ bound.kind ≠ .abstractClass ∧
      r = defective c (.boundTypeMustBeAbstractOrInterface bound.name)
  | singleMethod, r =>
    ∃ bound, (boundName? m c).bind find = some bound ∧ bound.abstractMethods.length ≠ 1 ∧
      r = defective c (.boundTypeMustHaveSingleAbstractMethod bound.name)
  | assistedResolved, r =>
    ∃ constructor p s, c.constructors = [constructor] ∧
      First (·.type.type? = none) (assistedOf m constructor) p ∧ p.type = .unresolved s ∧
      r = .unresolved [s]
  | keysDistinct, r =>
    -- the keys before `second` differ, so that it is the earliest to repeat one and no parameter
    -- but `first` has it before
    ∃ constructor before second after first key, c.constructors = [constructor] ∧
      assistedOf m constructor = before ++ second :: after ∧
      (before.map (keyUnder? m.assisted)).Nodup ∧ first ∈ before ∧
      keyUnder? m.assisted first = some key ∧ keyUnder? m.assisted second = some key ∧
      r = defective c (.duplicateAssistedParameterKey key.type key.tag first.name second.name)
  | sameCount, r =>
    ∃ constructor bound method, Parts m find c constructor bound method ∧
      (assistedOf m constructor).length ≠ method.parameters.length ∧
      r = defective c (.parameterCountMismatch bound.name method.name)
  | markersRight, r =>
    ∃ constructor bound method, Parts m find c constructor bound method ∧ ∃ p,
      First (fun p => p.isAnnotatedWith m.assisted ∧ ¬ p.isAnnotatedWith m.assistedKey)
        method.parameters p ∧
      r = defective c (.wrongAnnotationOnFactoryParameter bound.name method.name p.name)
  | factoryResolved, r =>
    ∃ constructor bound method, Parts m find c constructor bound method ∧ ∃ p s,
      First (·.type.type? = none) method.parameters p ∧ p.type = .unresolved s ∧
      r = .unresolved [s]
  | keysMatched, r =>
    ∃ constructor bound method, Parts m find c constructor bound method ∧ ∃ p,
      First (fun p => keyUnder? m.assistedKey p ∉
        (assistedOf m constructor).map (keyUnder? m.assisted)) method.parameters p ∧
      r = defective c (.unmatchedFactoryParameter bound.name method.name p.name)

section

variable {m : Markers} {find : Lookup} {c bound : ClassDeclaration} {constructor method : Function}

theorem refuse_eq_error_iff {α : Type} {cause : Cause} {r : Rejection} :
    (refuse c cause : Except Rejection α) = .error r ↔ r = defective c cause := by
  simp [refuse, defective, eq_comm]

/-- There is one way to take a class apart. -/
theorem Parts.exists_iff (parts : Parts m find c constructor bound method)
    {P : Function → ClassDeclaration → Function → Prop} :
    (∃ f b g, Parts m find c f b g ∧ P f b g) ↔ P constructor bound method := by
  constructor
  · rintro ⟨f, b, g, same, holds⟩
    obtain ⟨rfl, -⟩ := List.cons.inj (parts.constructors.symm.trans same.constructors)
    obtain rfl := Option.some.inj (parts.declared.symm.trans same.declared)
    obtain ⟨rfl, -⟩ := List.cons.inj (parts.methods.symm.trans same.methods)
    exact holds
  · exact fun holds => ⟨constructor, bound, method, parts, holds⟩

theorem boundType_decides :
    Decides (Check.Fails m find c) [.boundGiven, .boundIsLiteral, .boundResolved]
      (boundType m c) := by
  intro r
  simp only [firstFailure_cons, not_firstFailure_nil, Check.Fails, boundType]
  cases boundArgument? m c with
  | none => simp [refuse_eq_error_iff]
  | some k =>
    cases k with
    | classLiteral ref => cases ref <;> simp [resolved, Constant.typeRef?, eq_comm]
    | _ => simp [refuse_eq_error_iff, Constant.typeRef?]

theorem boundDeclaration_decides {type : TypeExpr}
    (given : boundArgument? m c = some (.classLiteral (.resolved type))) :
    Decides (Check.Fails m find c) [.boundDeclared] (boundDeclaration find c type) := by
  refine .single fun r => ?_
  simp only [Check.Fails, given, Option.some.injEq, Constant.classLiteral.injEq,
    TypeRef.resolved.injEq, exists_eq_left', boundDeclaration, boundText]
  cases type.className? with
  | none => simp [refuse_eq_error_iff]
  | some name => cases declared : find name <;> simp [refuse_eq_error_iff, declared]

theorem scope_decides :
    Decides (Check.Fails m find c) [.scopeResolved, .scopeGiven] (scope m c) := by
  intro r
  simp only [firstFailure_cons, not_firstFailure_nil, Check.Fails, scope, scopeName?]
  cases scopeArgument? m c with
  | none => simp [refuse_eq_error_iff]
  | some k =>
    cases k with
    | classLiteral ref =>
      cases ref with
      | unresolved s => simp [resolved, bind, Except.bind, eq_comm]
      | resolved type =>
        cases named : type.className? <;>
          simp [resolved, bind, Except.bind, named, refuse_eq_error_iff, pure_ne_error]
    | _ => simp [refuse_eq_error_iff]

theorem soleConstructor_decides :
    Decides (Check.Fails m find c) [.singleConstructor, .constructorMarked]
      (soleConstructor m c) := by
  intro r
  simp only [firstFailure_cons, not_firstFailure_nil, Check.Fails, soleConstructor]
  rcases c.constructors with _ | ⟨f, _ | ⟨g, rest⟩⟩
  · simp [refuse_eq_error_iff]
  · cases marked : f.isAnnotatedWith m.assistedInject <;> simp [refuse_eq_error_iff, marked]
  · simp [refuse_eq_error_iff]

theorem boundKind_decides (declared : (boundName? m c).bind find = some bound) :
    Decides (Check.Fails m find c) [.boundKind] (boundKind c bound) := by
  refine .single fun r => ?_
  simp only [Check.Fails, declared, Option.some.injEq, exists_eq_left', boundKind]
  cases bound.kind <;> simp [refuse_eq_error_iff]

theorem factoryMethod_decides (declared : (boundName? m c).bind find = some bound) :
    Decides (Check.Fails m find c) [.singleMethod] (factoryMethod c bound) := by
  refine .single fun r => ?_
  simp only [Check.Fails, declared, Option.some.injEq, exists_eq_left', factoryMethod]
  rcases bound.abstractMethods with _ | ⟨f, _ | ⟨g, rest⟩⟩ <;> simp [refuse_eq_error_iff]

/-- The first assisted parameter without a type puts the class off. -/
theorem assistedParameters_eq_error_iff {ps : List Parameter} {r : Rejection} :
    assistedParameters m ps = .error r ↔
      ∃ p s, First (·.type.type? = none) (ps.filter (·.isAnnotatedWith m.assisted)) p ∧
        p.type = .unresolved s ∧ r = .unresolved [s] := by
  induction ps with
  | nil => simp [assistedParameters, not_first_nil]
  | cons p ps ih =>
    rw [assistedParameters, List.filter_cons, Parameter.isAnnotatedWith]
    cases p.annotationFor? m.assisted with
    | none => simpa using ih
    | some a =>
      simp only [Option.isSome_some, if_true, first_cons, bind_eq_error_iff, ih, pure_ne_error,
        and_false, exists_false, or_false]
      cases typed : p.type with
      | resolved type => simp [resolved, TypeRef.type?]
      | unresolved s => simp [resolved, typed, TypeRef.type?, eq_comm]

theorem assistedParameters_decides (sole : c.constructors = [constructor]) :
    Decides (Check.Fails m find c) [.assistedResolved]
      (assistedParameters m constructor.parameters) := by
  refine .single fun r => ?_
  simp [assistedParameters_eq_error_iff, Check.Fails, sole, assistedOf]

theorem assistedIndex_decides (sole : c.constructors = [constructor]) {entries : List Keyed}
    (keyed : List.Forall₂ (KeyedBy m.assisted) (assistedOf m constructor) entries) :
    Decides (Check.Fails m find c) [.keysDistinct] (assistedIndex c entries) := by
  refine .single fun r => ?_
  have underKey : ∀ e ∈ entries, keyUnder? m.assisted e.2 = some e.1 := fun e mem =>
    (mem_of_keyedBy keyed mem).2
  have listed := parameters_of_keyedBy keyed
  rw [assistedIndex, mapError_eq_error_iff]
  simp only [KeyIndex.ofList_eq_error_iff, Check.Fails, sole, List.cons.injEq, and_true]
  constructor
  · rintro ⟨clash, ⟨before, after, rfl, distinct, there⟩, rfl⟩
    have keys : (before.map (·.2)).map (keyUnder? m.assisted) = (before.map (·.1)).map some := by
      rw [List.map_map, List.map_map]
      exact List.map_congr_left fun e mem => underKey e (List.mem_append_left _ mem)
    refine ⟨constructor, before.map (·.2), clash.second, after.map (·.2), clash.first, clash.key,
      rfl, by simp [← listed], ?_, List.mem_map.2 ⟨_, there, rfl⟩, ?_, ?_, rfl⟩
    · rw [keys]
      exact distinct.map (Option.some_injective _)
    · exact underKey _ (List.mem_append_left _ there)
    · exact underKey (clash.key, clash.second) (by simp)
  · rintro ⟨_, before, second, after, first, key, rfl, split, distinct, there, keyFirst, keySecond,
      rfl⟩
    rw [← listed, List.map_eq_append_iff] at split
    obtain ⟨earlier, later, rfl, rfl, split⟩ := split
    obtain ⟨e, rest, rfl, rfl, rfl⟩ := List.map_eq_cons_iff.1 split
    obtain ⟨e', mem, rfl⟩ := List.mem_map.1 there
    have same : e.1 = key := Option.some.inj ((underKey e (by simp)).symm.trans keySecond)
    have same' : e'.1 = key :=
      Option.some.inj ((underKey e' (List.mem_append_left _ mem)).symm.trans keyFirst)
    refine ⟨⟨key, e'.2, e.2⟩, ⟨earlier, rest, by rw [← same], ?_, by rwa [← same']⟩, rfl⟩
    rw [List.map_map] at distinct
    have keys : earlier.map (keyUnder? m.assisted ∘ (·.2)) = (earlier.map (·.1)).map some := by
      rw [List.map_map]
      exact List.map_congr_left fun d hd => underKey d (List.mem_append_left _ hd)
    rw [keys] at distinct
    exact distinct.of_map

theorem checkCount_decides (parts : Parts m find c constructor bound method) {index : KeyIndex}
    (size : index.size = (assistedOf m constructor).length) :
    Decides (Check.Fails m find c) [.sameCount] (checkCount c bound method index) := by
  refine .single fun r => ?_
  simp only [Check.Fails, parts.exists_iff, checkCount, size]
  split
  · rename_i same
    simp [same]
  · rename_i different
    simp [different, refuse_eq_error_iff]

theorem checkMarkers_decides (parts : Parts m find c constructor bound method) :
    Decides (Check.Fails m find c) [.markersRight] (checkMarkers m c bound method) := by
  refine .single fun r => ?_
  have found (p : Parameter) : method.parameters.find? (isMismarked m) = some p ↔
      First (fun p => p.isAnnotatedWith m.assisted ∧ ¬ p.isAnnotatedWith m.assistedKey)
        method.parameters p := by
    rw [find?_eq_some_iff_first]
    exact first_congr fun p _ => by simp [isMismarked]
  simp only [Check.Fails, parts.exists_iff, ← found, checkMarkers]
  cases method.parameters.find? (isMismarked m) with
  | none => simp
  | some p => simp [refuse_eq_error_iff]

/-- The first factory parameter without a type puts the class off. -/
theorem factoryParameters_eq_error_iff {ps : List Parameter} {r : Rejection} :
    factoryParameters m ps = .error r ↔
      ∃ p s, First (·.type.type? = none) ps p ∧ p.type = .unresolved s ∧ r = .unresolved [s] := by
  induction ps with
  | nil => simp [factoryParameters, not_first_nil]
  | cons p ps ih =>
    simp only [factoryParameters, factoryKey, first_cons, bind_eq_error_iff, ih, pure_ne_error,
      and_false, exists_false, or_false]
    cases typed : p.type with
    | resolved type => simp [resolved, bind, Except.bind, pure, Except.pure, TypeRef.type?]
    | unresolved s => simp [resolved, bind, Except.bind, typed, TypeRef.type?, eq_comm]

theorem factoryParameters_decides (parts : Parts m find c constructor bound method) :
    Decides (Check.Fails m find c) [.factoryResolved] (factoryParameters m method.parameters) := by
  refine .single fun r => ?_
  simp only [Check.Fails, parts.exists_iff, factoryParameters_eq_error_iff]

theorem pairParameters_decides (parts : Parts m find c constructor bound method)
    {entries factory : List Keyed}
    (assisted : List.Forall₂ (KeyedBy m.assisted) (assistedOf m constructor) entries)
    (keyed : List.Forall₂ (KeyedBy m.assistedKey) method.parameters factory) :
    Decides (Check.Fails m find c) [.keysMatched]
      (pairParameters c bound method ⟨entries⟩ factory) := by
  refine .single fun r => ?_
  have lacks : ∀ f ∈ factory, f.1 ∉ KeyIndex.keys ⟨entries⟩ ↔
      keyUnder? m.assistedKey f.2 ∉ (assistedOf m constructor).map (keyUnder? m.assisted) := by
    intro f mem
    rw [(mem_of_keyedBy keyed mem).2, keys_of_keyedBy assisted, KeyIndex.keys]
    simp
  rw [pairParameters, mapError_eq_error_iff]
  simp only [Check.Fails, parts.exists_iff, KeyIndex.pair_eq_error_iff, first_congr lacks]
  rw [← parameters_of_keyedBy keyed]
  simp only [first_map]
  constructor
  · rintro ⟨lone, first, rfl⟩
    exact ⟨lone.parameter, ⟨_, first, rfl⟩, rfl⟩
  · rintro ⟨_, ⟨f, first, rfl⟩, rfl⟩
    exact ⟨⟨f.1, f.2⟩, first, rfl⟩

/-- The whole chain is decided by the checks in their order. -/
theorem validate_decides : Decides (Check.Fails m find c) Check.inOrder (validate m find c) := by
  refine boundType_decides.bind fun type given => ?_
  refine (boundDeclaration_decides (boundType_eq_ok_iff.1 given)).bind fun bound found => ?_
  have declared := (boundDeclaration_eq_ok_iff given).1 found
  refine scope_decides.bind fun scope _ => ?_
  refine soleConstructor_decides.bind fun constructor sole => ?_
  have only := (soleConstructor_eq_ok_iff.1 sole).1
  refine (boundKind_decides declared).bind fun kind _ => ?_
  refine (factoryMethod_decides declared).bind fun method single => ?_
  have parts : Parts m find c constructor bound method :=
    ⟨only, declared, factoryMethod_eq_ok_iff.1 single⟩
  refine (assistedParameters_decides only).bind fun entries collected => ?_
  have assisted := assistedParameters_eq_ok_iff.1 collected
  refine (assistedIndex_decides only assisted).bind fun index indexed => ?_
  rw [assistedIndex, mapError_eq_ok_iff, KeyIndex.ofList_eq_ok_iff] at indexed
  obtain ⟨-, rfl⟩ := indexed
  refine (checkCount_decides parts assisted.length_eq.symm).bind fun _ _ => ?_
  refine (checkMarkers_decides parts).bind fun _ _ => ?_
  refine (factoryParameters_decides parts).bind fun factory keyed => ?_
  have paired := pairParameters_decides parts assisted (factoryParameters_eq_ok_iff.1 keyed)
  exact paired.bind fun matched _ => .pure _

end

end AssistedInjection.Validation
