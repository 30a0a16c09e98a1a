import AssistedInjection.Proofs.Sample
import AssistedInjection.Proofs.Validation.Plans
import Mathlib.Data.Fintype.EquivFin

/-!
Which constructor parameters an accepted plan supplies. Every parameter of the factory method goes
to exactly one assisted parameter, the one of its key, and there are as many of the ones as of the
others. But only the constructor's keys are known to differ, so two factory parameters of one key go
to the same place and leave another one empty:

    factory         x: Long,  y: Long
                         \   /
    constructor         id: Long,  name: String   (not supplied)

A plan supplies everything exactly when the keys of the factory method differ as well.
-/

namespace AssistedInjection

open Kotlin Declaration Matching Checks

namespace Validation

/-- A planned parameter supplies a constructor parameter: the plan names it, and type and tag are
the same. -/
structure Supplies (m : Markers) (q : FactoryParameter) (a : Parameter) : Prop where
  name : a.name = q.constructorParameter
  key : keyUnder? m.assisted a = some q.request

theorem nodup_map_iff_injective {α β : Type} {f : α → β} {l : List α} :
    (l.map f).Nodup ↔ Function.Injective fun i : Fin l.length => f l[i] := by
  rw [List.nodup_iff_injective_getElem]
  constructor
  · intro inj i j same
    have := @inj ⟨i, by simp⟩ ⟨j, by simp⟩ (by simpa using same)
    exact Fin.ext (by simpa using this)
  · rintro inj ⟨i, hi⟩ ⟨j, hj⟩ same
    have := @inj ⟨i, by simpa using hi⟩ ⟨j, by simpa using hj⟩ (by simpa using same)
    exact Fin.ext (by simpa using this)

/-- The keys of assisted parameters differ if those of their entries do. -/
theorem nodup_keys_of_keyedBy {marker : ClassName} {ps : List Parameter} {entries : List Keyed}
    (keyed : List.Forall₂ (KeyedBy marker) ps entries) (distinct : (entries.map (·.1)).Nodup) :
    (ps.map (keyUnder? marker)).Nodup := by
  rw [keys_of_keyedBy keyed]
  exact distinct.map (Option.some_injective _)

/-- Where an accepted plan comes from. -/
theorem planned_of_validate {m : Markers} {find : Lookup} {c : ClassDeclaration} {plan : Plan}
    (accepted : validate m find c = .ok plan) :
    ∃ constructor bound method entries,
      c.constructors = [constructor] ∧ (boundName? m c).bind find = some bound ∧
      bound.abstractMethods = [method] ∧
      List.Forall₂ (KeyedBy m.assisted) (assistedOf m constructor) entries ∧
      (entries.map (·.1)).Nodup ∧ entries.length = method.parameters.length ∧
      List.Forall₂ (Planned m entries) method.parameters plan.method.parameters := by
  obtain ⟨constructor, bound, method, entries, h⟩ := validate_eq_ok_iff.1 accepted
  exact ⟨constructor, bound, method, entries, h.parts.constructors, h.parts.declared,
    h.parts.methods, h.keyed, h.distinct, h.counted, h.planned⟩

/-- A planned parameter supplies one assisted parameter and no other. -/
theorem supplies_exactly_one {m : Markers} {constructor : Function} {entries : List Keyed}
    {p : Parameter} {q : FactoryParameter}
    (keyed : List.Forall₂ (KeyedBy m.assisted) (assistedOf m constructor) entries)
    (distinct : (entries.map (·.1)).Nodup) (planned : Planned m entries p q) :
    ∃ i : Fin (assistedOf m constructor).length,
      ∀ j : Fin (assistedOf m constructor).length,
        Supplies m q (assistedOf m constructor)[j] ↔ j = i := by
  obtain ⟨a, mem, named⟩ := planned.found
  obtain ⟨among, under⟩ := mem_of_keyedBy keyed mem
  obtain ⟨i, hi, rfl⟩ := List.getElem_of_mem among
  have apart := nodup_map_iff_injective.1 (nodup_keys_of_keyedBy keyed distinct)
  refine ⟨⟨i, hi⟩, fun j => ⟨fun supplied => ?_, ?_⟩⟩
  · exact apart (supplied.key.trans under.symm)
  · rintro rfl
    exact ⟨named, under⟩

/-- What is supplied is asked for: its key is among those of the planned parameters. -/
theorem key_mem_requests {m : Markers} {qs : List FactoryParameter} {as : List Parameter}
    {target : Fin qs.length → Fin as.length} (fits : ∀ i, Supplies m qs[i] as[target i])
    (onto : target.Surjective) {a : Parameter} (mem : a ∈ as) :
    keyUnder? m.assisted a ∈ qs.map (some ·.request) := by
  obtain ⟨j, hj, rfl⟩ := List.getElem_of_mem mem
  obtain ⟨i, hi⟩ := onto ⟨j, hj⟩
  have key := (fits i).key
  simp only [hi] at key
  exact List.mem_map.2 ⟨qs[i], List.getElem_mem i.2, key.symm⟩

/-- An accepted plan takes every parameter of the factory method, in order and with its key, to
exactly one assisted parameter of the only constructor. It supplies each of these exactly once if
and only if the keys of the factory method differ. -/
theorem supplied_once_iff {m : Markers} {find : Lookup} {c : ClassDeclaration} {plan : Plan}
    (accepted : validate m find c = .ok plan) :
    ∃ constructor bound method,
      c.constructors = [constructor] ∧ (boundName? m c).bind find = some bound ∧
      bound.abstractMethods = [method] ∧
      List.Forall₂ (fun p q => q.name = p.name ∧ keyUnder? m.assistedKey p = some q.request)
        method.parameters plan.method.parameters ∧
      ∃ target : Fin plan.method.parameters.length → Fin (assistedOf m constructor).length,
        (∀ i j, Supplies m plan.method.parameters[i] (assistedOf m constructor)[j] ↔ j = target i) ∧
        (target.Bijective ↔ (method.parameters.map (keyUnder? m.assistedKey)).Nodup) := by
  obtain ⟨constructor, bound, method, entries, sole, declared, only, keyed, distinct, counted,
    planned⟩ := planned_of_validate accepted
  refine ⟨constructor, bound, method, sole, declared, only,
    planned.imp fun p q h => ⟨h.name, h.key⟩, ?_⟩
  have one (i : Fin plan.method.parameters.length) := by
    have hi : i < method.parameters.length := by rw [planned.length_eq]; exact i.2
    exact supplies_exactly_one keyed distinct (planned.get hi i.2)
  choose target exact using one
  refine ⟨target, exact, ?_⟩
  have named (i) : keyUnder? m.assisted (assistedOf m constructor)[target i]
      = some plan.method.parameters[i].request := ((exact i (target i)).2 rfl).key
  have requests : method.parameters.map (keyUnder? m.assistedKey)
      = (plan.method.parameters.map (·.request)).map some := by
    rw [List.map_map]
    exact map_eq_map planned fun _ _ h => h.key
  have apart := nodup_map_iff_injective.1 (nodup_keys_of_keyedBy keyed distinct)
  have sizes : plan.method.parameters.length = (assistedOf m constructor).length := by
    rw [← planned.length_eq, ← counted, keyed.length_eq]
  rw [requests, List.nodup_map_iff (Option.some_injective _), nodup_map_iff_injective,
    Fintype.bijective_iff_injective_and_card]
  constructor
  · rintro ⟨inj, -⟩ i j same
    refine inj (apart ?_)
    exact (named i).trans ((congrArg some same).trans (named j).symm)
  · intro inj
    refine ⟨fun i j same => inj (Option.some_injective _ ?_), by simp [sizes]⟩
    calc some plan.method.parameters[i].request
        = keyUnder? m.assisted (assistedOf m constructor)[target i] := (named i).symm
      _ = keyUnder? m.assisted (assistedOf m constructor)[target j] := by simp only [same]
      _ = some plan.method.parameters[j].request := named j

open Sample in
/-- A factory that asks for its parameters in the other order supplies them all. -/
theorem supplied_once_swapped :
    ∃ plan constructor,
      validate .standard (asking "String" "Long").get? twofold = .ok plan ∧
        twofold.constructors = [constructor] ∧
        ∃ target : Fin plan.method.parameters.length →
            Fin (assistedOf .standard constructor).length,
          (∀ i j, Supplies .standard plan.method.parameters[i]
            (assistedOf .standard constructor)[j] ↔ j = target i) ∧ target.Bijective := by
  obtain ⟨plan, accepted⟩ : ∃ plan,
      validate .standard (asking "String" "Long").get? twofold = .ok plan := ⟨_, rfl⟩
  obtain ⟨constructor, bound, method, sole, declared, only, -, target, exact, bijective_iff⟩ :=
    supplied_once_iff accepted
  cases (Option.some.inj declared : factory _ = bound)
  cases (List.cons.inj only).1
  exact ⟨plan, constructor, accepted, sole, target, exact, bijective_iff.2 (by decide)⟩

open Sample in
/-- Two factory parameters of one key are accepted, and the other assisted parameter gets
nothing. -/
theorem not_supplied_of_doubled_key :
    ∃ plan constructor,
      validate .standard (asking "Long" "Long").get? twofold = .ok plan ∧
        twofold.constructors = [constructor] ∧
        ¬ ∃ target : Fin plan.method.parameters.length →
            Fin (assistedOf .standard constructor).length,
          target.Bijective ∧ ∀ i, Supplies .standard plan.method.parameters[i]
            (assistedOf .standard constructor)[target i] := by
  refine ⟨_, _, rfl, rfl, ?_⟩
  rintro ⟨target, bijective, fits⟩
  -- the second assisted parameter is a text, and no factory parameter is
  have asked := key_mem_requests fits bijective.2
    (a := Sample.assisted "name" (standardType "String")) (by decide)
  exact absurd asked (by decide)

end Validation

end AssistedInjection
