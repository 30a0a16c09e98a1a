import AssistedInjection.Proofs.Sample
import AssistedInjection.Proofs.Validation.Plans
import Mathlib.Data.List.Perm.Basic
import Mathlib.Logic.Relation

/-!
Plans in another order. The parameters of a constructor may stand in any order, with any others
among them that are not assisted, and the plan is the same; where the parameters of the factory
method change places, those of the plan change places with them and nothing else changes.

    constructor   @Assisted id,  @Assisted name       log,  @Assisted name,  @Assisted id
    method        x: String,  y: Long                 y: Long,  x: String
    plan          x ↦ name,   y ↦ id                  y ↦ id,   x ↦ name
-/

namespace AssistedInjection.Validation

open Kotlin Declaration Matching

variable {m : Markers} {find : Lookup} {c bound : ClassDeclaration} {constructor method : Function}
  {entries : List Keyed} {plan : Plan}

/-! ### Constructor parameters -/

/-- A change of the parameters of a constructor that keeps the assisted ones: they get another
order, or one that is not assisted comes in or goes. -/
inductive Edit (m : Markers) : List Parameter → List Parameter → Prop
  | reorder {ps ps' : List Parameter} (perm : ps'.Perm ps) : Edit m ps ps'
  | insert (before after : List Parameter) {p : Parameter} (other : ¬ p.isAnnotatedWith m.assisted) :
    Edit m (before ++ after) (before ++ p :: after)
  | remove (before after : List Parameter) {p : Parameter} (other : ¬ p.isAnnotatedWith m.assisted) :
    Edit m (before ++ p :: after) (before ++ after)

/-- One change keeps the assisted parameters, up to their order. -/
theorem Edit.assisted_perm {ps ps' : List Parameter} (h : Edit m ps ps') :
    (ps'.filter (·.isAnnotatedWith m.assisted)).Perm
      (ps.filter (·.isAnnotatedWith m.assisted)) := by
  cases h with
  | reorder perm => exact perm.filter _
  | insert before after other => simp [List.filter_append, other]
  | remove before after other => simp [List.filter_append, other]

/-- Any number of changes keep the assisted parameters, up to their order. -/
theorem assisted_perm_of_edits {ps ps' : List Parameter}
    (edits : Relation.ReflTransGen (Edit m) ps ps') :
    (ps'.filter (·.isAnnotatedWith m.assisted)).Perm
      (ps.filter (·.isAnnotatedWith m.assisted)) := by
  induction edits with
  | refl => exact .refl _
  | tail _ edit ih => exact edit.assisted_perm.trans ih

/-- The class with other parameters of its only constructor. -/
def withConstructorParameters (c : ClassDeclaration) (constructor : Function)
    (ps : List Parameter) : ClassDeclaration :=
  { c with constructors := [{ constructor with parameters := ps }] }

theorem Planned.mono {entries' : List Keyed} {p : Parameter} {q : FactoryParameter}
    (h : Planned m entries p q) (sub : entries ⊆ entries') : Planned m entries' p q := by
  obtain ⟨a, mem, named⟩ := h.found
  exact ⟨h.name, h.key, a, sub mem, named⟩

/-- The same plan is granted for the assisted parameters in any order. -/
theorem Grants.of_assisted_perm (h : Grants m find c constructor bound method entries plan)
    {ps : List Parameter}
    (perm : (ps.filter (·.isAnnotatedWith m.assisted)).Perm (assistedOf m constructor)) :
    ∃ entries', Grants m find (withConstructorParameters c constructor ps)
      { constructor with parameters := ps } bound method entries' plan := by
  obtain ⟨entries', keyed, same⟩ := List.perm_comp_forall₂ perm h.keyed
  exact ⟨entries',
    { parts := ⟨rfl, h.parts.declared, h.parts.methods⟩
      scope := h.scope
      marked := h.marked
      kind := h.kind
      keyed := keyed
      distinct := (same.map _).nodup_iff.2 h.distinct
      counted := same.length_eq.trans h.counted
      clean := h.clean
      planned := h.planned.imp fun p q planned => planned.mono same.symm.subset
      annotated := h.annotated
      boundName := h.boundName
      methodName := h.methodName
      origin := h.origin }⟩

/-! ### Parameters of the method -/

/-- The items of a list at some places, in the order of the places. -/
def arranged {α : Type} (places : List Nat) (l : List α) : List α := places.filterMap (l[·]?)

section

variable {α β : Type} {places : List Nat}

theorem mem_of_mem_arranged {l : List α} {a : α} (mem : a ∈ arranged places l) : a ∈ l := by
  obtain ⟨i, -, here⟩ := List.mem_filterMap.1 mem
  exact List.mem_of_getElem? here

/-- All places of a list, in any order, hold all its items. -/
theorem arranged_perm {l : List α} (all : places.Perm (List.range l.length)) :
    (arranged places l).Perm l := by
  have listed : (List.range l.length).map (l[·]?) = l.map some :=
    List.ext_getElem (by simp) fun i _ _ => by simp
  have inPlace : (List.range l.length).filterMap (l[·]?) = l := by
    calc (List.range l.length).filterMap (l[·]?)
        = ((List.range l.length).map (l[·]?)).filterMap id := by rw [List.filterMap_map]; rfl
      _ = l := by rw [listed, List.filterMap_map]; exact List.filterMap_some
  have moved := all.filterMap (l[·]?)
  rwa [inPlace] at moved

/-- Items that correspond still do when both lists are arranged alike. -/
theorem arranged_rel {R : α → β → Prop} {l : List α} {l' : List β} (h : List.Forall₂ R l l') :
    List.Forall₂ R (arranged places l) (arranged places l') := by
  refine List.rel_filterMap (R := Eq) (fun i j same => ?_) (List.forall₂_same.2 fun _ _ => rfl)
  exact same ▸ Checks.getElem?_rel h i

end

/-- The function with its parameters at other places, if it is abstract. -/
def arrangedIfAbstract (places : List Nat) (f : Function) : Function :=
  if f.isAbstract then { f with parameters := arranged places f.parameters } else f

/-- The class with the parameters of its abstract methods at other places. -/
def withArranged (places : List Nat) (bound : ClassDeclaration) : ClassDeclaration :=
  { bound with functions := bound.functions.map (arrangedIfAbstract places) }

theorem isAbstract_arrangedIfAbstract (places : List Nat) (f : Function) :
    (arrangedIfAbstract places f).isAbstract = f.isAbstract := by
  unfold arrangedIfAbstract
  split <;> rfl

theorem abstractMethods_withArranged (places : List Nat) (only : bound.abstractMethods = [method]) :
    (withArranged places bound).abstractMethods
      = [{ method with parameters := arranged places method.parameters }] := by
  have isAbstract : method.isAbstract := by
    have among : method ∈ bound.abstractMethods := only ▸ List.mem_singleton_self method
    exact (List.mem_filter.1 among).2
  have kept : (withArranged places bound).abstractMethods
      = bound.abstractMethods.map (arrangedIfAbstract places) := by
    simp only [ClassDeclaration.abstractMethods, withArranged, List.filter_map, Function.comp_def,
      isAbstract_arrangedIfAbstract]
  rw [kept, only, List.map_singleton, arrangedIfAbstract, if_pos isAbstract]

/-- The plan with its parameters in the same places is granted for the method with the parameters
at other places. -/
theorem Grants.of_arranged (h : Grants m find c constructor bound method entries plan)
    {places : List Nat} (all : places.Perm (List.range method.parameters.length)) {find' : Lookup}
    (declared : (boundName? m c).bind find' = some (withArranged places bound)) :
    Grants m find' c constructor (withArranged places bound)
      { method with parameters := arranged places method.parameters } entries
      { plan with method.parameters := arranged places plan.method.parameters } where
  parts := ⟨h.parts.constructors, declared, abstractMethods_withArranged places h.parts.methods⟩
  scope := h.scope
  marked := h.marked
  kind := h.kind
  keyed := h.keyed
  distinct := h.distinct
  counted := h.counted.trans (arranged_perm all).length_eq.symm
  clean p mem := h.clean p (mem_of_mem_arranged mem)
  planned := arranged_rel h.planned
  annotated := h.annotated
  boundName := h.boundName
  methodName := h.methodName
  origin := h.origin

/-- A plan stays the same whatever the order of the constructor's parameters and whatever parameters
that are not assisted come in or go; and the order of the method's parameters is that of the plan's,
so that both are rearranged alike. -/
theorem planned_regardless_of_order (accepted : validate m find c = .ok plan) :
    ∃ constructor bound method,
      c.constructors = [constructor] ∧ (boundName? m c).bind find = some bound ∧
      bound.abstractMethods = [method] ∧
      (∀ ps, Relation.ReflTransGen (Edit m) constructor.parameters ps →
        validate m find (withConstructorParameters c constructor ps) = .ok plan) ∧
      ∀ places, places.Perm (List.range method.parameters.length) →
        ∀ find', (boundName? m c).bind find' = some (withArranged places bound) →
          validate m find' c
            = .ok { plan with method.parameters := arranged places plan.method.parameters } := by
  obtain ⟨constructor, bound, method, entries, h⟩ := validate_eq_ok_iff.1 accepted
  refine ⟨constructor, bound, method, h.parts.constructors, h.parts.declared, h.parts.methods,
    fun ps edits => ?_, fun places all find' declared => ?_⟩
  · obtain ⟨entries', granted⟩ := h.of_assisted_perm (assisted_perm_of_edits edits)
    exact validate_eq_ok_iff.2 ⟨_, _, _, entries', granted⟩
  · exact validate_eq_ok_iff.2 ⟨_, _, _, entries, h.of_arranged all declared⟩

open Sample in
/-- The assisted parameters change places, another one of an unresolved type comes in between, and
the plan is the same; the factory's parameters change places, and the plan's do. -/
theorem planned_regardless_of_order_swapped :
    let id := assisted "id" (standardType "Long")
    let name := assisted "name" (standardType "String")
    let log := plain "log" (.unresolved "Logger")
    let swapped := factory [plain "y" (standardType "Long"), plain "x" (standardType "String")]
    ∃ plan, validate .standard (asking "String" "Long").get? twofold = .ok plan ∧
      validate .standard (asking "String" "Long").get? (component "Api" [name, log, id])
        = .ok plan ∧
      [1, 0].Perm (List.range 2) ∧
      validate .standard (fun _ => some swapped) twofold
        = .ok { plan with method.parameters := plan.method.parameters.reverse } := by
  intro id name log swapped
  obtain ⟨plan, accepted⟩ : ∃ plan,
      validate .standard (asking "String" "Long").get? twofold = .ok plan := ⟨_, rfl⟩
  have known := accepted
  obtain ⟨constructor, bound, method, sole, declared, only, edited, rearranged⟩ :=
    planned_regardless_of_order accepted
  cases (List.cons.inj sole).1
  cases (Option.some.inj declared : factory _ = bound)
  cases (List.cons.inj only).1
  have edits : Relation.ReflTransGen (Edit .standard) [id, name] [name, log, id] :=
    .tail (.single (.reorder (.swap ..))) (.insert [name] [id] (p := log) (by decide))
  have places : [1, 0].Perm (List.range 2) := by decide
  refine ⟨plan, accepted, edited _ edits, places, ?_⟩
  have moved := rearranged [1, 0] places (fun _ => some swapped) rfl
  cases (Except.ok.inj known : _ = plan)
  exact moved

end AssistedInjection.Validation
