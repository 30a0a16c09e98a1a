import AssistedInjection.Proofs.Validation.FirstFailure
import AssistedInjection.Proofs.Validation.Waiting
import Mathlib.Data.List.Induction

/-!
What a class depends on, and what validation reads of it. The references a class waits for are found
without running any check; each check that stops at an unresolved reference stops at one of them.

    a class waits for        literals   constructor parameters   supertypes   bound signatures
    a check can stop at      two of them    assisted ones                       parameters
-/

namespace AssistedInjection.Validation

open Kotlin Declaration Checks

/-! ### Spellings -/

theorem withoutRepetition_concat (ss : List String) (t : String) :
    withoutRepetition (ss ++ [t])
      = if t ∈ ss then withoutRepetition ss else withoutRepetition ss ++ [t] := by
  have seen : (withoutRepetition ss).contains t ↔ t ∈ ss := by
    rw [List.contains_iff_mem, mem_withoutRepetition]
  simp only [withoutRepetition, List.foldl_append, List.foldl_cons, List.foldl_nil] at seen ⊢
  simp only [seen]

/-- Spellings stay in the order in which they come up first. -/
theorem pairwise_withoutRepetition (ss : List String) :
    (withoutRepetition ss).Pairwise fun s t => ss.idxOf s < ss.idxOf t := by
  induction ss using List.reverseRecOn with
  | nil => exact .nil
  | append_singleton ss t ih =>
    have kept : (withoutRepetition ss).Pairwise
        fun s s' => (ss ++ [t]).idxOf s < (ss ++ [t]).idxOf s' := by
      refine ih.imp_of_mem fun {s s'} mem mem' before => ?_
      rwa [List.idxOf_append_of_mem (mem_withoutRepetition.1 mem),
        List.idxOf_append_of_mem (mem_withoutRepetition.1 mem')]
    rw [withoutRepetition_concat]
    split
    · exact kept
    · rename_i new
      refine List.pairwise_append.2 ⟨kept, List.pairwise_singleton .., fun s mem s' last => ?_⟩
      have old := mem_withoutRepetition.1 mem
      rw [List.mem_singleton.1 last, List.idxOf_append_of_mem old, List.idxOf_append_of_notMem new]
      exact Nat.lt_add_right _ (List.idxOf_lt_length_of_mem old)

theorem nodup_withoutRepetition (ss : List String) : (withoutRepetition ss).Nodup := by
  refine (pairwise_withoutRepetition ss).imp fun before same => ?_
  rw [same] at before
  exact Nat.lt_irrefl _ before

/-! ### References -/

/-- A class depends on a reference: on the class literals that are passed to the annotation that
asks for its factory, the parameters of its constructors, its supertypes, and the parameters and
results of the abstract methods of its bound type. -/
inductive DependsOn (m : Markers) (find : Lookup) (c : ClassDeclaration) : TypeRef → Prop where
  | literal {a : Annotation} {b : Argument} {r : TypeRef}
      (asking : c.annotationFor? m.contributesAssistedFactory = some a) (given : b ∈ a.arguments)
      (value : b.value = .classLiteral r) : DependsOn m find c r
  | constructorParameter {f : Function} {p : Parameter} (constructor : f ∈ c.constructors)
      (parameter : p ∈ f.parameters) : DependsOn m find c p.type
  | supertype {r : TypeRef} (mem : r ∈ c.supertypes) : DependsOn m find c r
  | methodParameter {bound : ClassDeclaration} {f : Function} {p : Parameter}
      (declared : (boundName? m c).bind find = some bound) (method : f ∈ bound.functions)
      (isAbstract : f.isAbstract) (parameter : p ∈ f.parameters) : DependsOn m find c p.type
  | methodResult {bound : ClassDeclaration} {f : Function} {r : TypeRef}
      (declared : (boundName? m c).bind find = some bound) (method : f ∈ bound.functions)
      (isAbstract : f.isAbstract) (result : f.returns = some r) : DependsOn m find c r

/-- The references of a class and those of its bound type, in this order. -/
def references (m : Markers) (find : Lookup) (c : ClassDeclaration) : List TypeRef :=
  ownReferences m c ++ boundReferences m find c

variable {m : Markers} {find : Lookup} {c : ClassDeclaration} {r : TypeRef}

theorem typeRef?_eq_some_iff {k : Constant} : k.typeRef? = some r ↔ k = .classLiteral r := by
  cases k <;> simp [Constant.typeRef?]

theorem spelling?_eq_some_iff {s : String} : r.spelling? = some s ↔ r = .unresolved s := by
  cases r <;> simp [TypeRef.spelling?]

theorem mem_ownReferences_iff : r ∈ ownReferences m c ↔
    (∃ a b, c.annotationFor? m.contributesAssistedFactory = some a ∧ b ∈ a.arguments ∧
        b.value = .classLiteral r) ∨
      (∃ f ∈ c.constructors, ∃ p ∈ f.parameters, p.type = r) ∨ r ∈ c.supertypes := by
  unfold ownReferences
  cases c.annotationFor? m.contributesAssistedFactory <;>
    simp [typeRef?_eq_some_iff]

theorem mem_boundReferences_iff : r ∈ boundReferences m find c ↔
    ∃ bound, (boundName? m c).bind find = some bound ∧ ∃ f ∈ bound.functions, f.isAbstract ∧
      ((∃ p ∈ f.parameters, p.type = r) ∨ f.returns = some r) := by
  unfold boundReferences
  cases (boundName? m c).bind find <;>
    simp [ClassDeclaration.abstractMethods, signature, and_assoc]

/-- The references that are looked through are those that the class depends on. -/
theorem mem_references_iff : r ∈ references m find c ↔ DependsOn m find c r := by
  rw [references, List.mem_append, mem_ownReferences_iff, mem_boundReferences_iff]
  constructor
  · rintro ((⟨a, b, asking, given, value⟩ | ⟨f, constructor, p, parameter, rfl⟩ | mem) |
      ⟨bound, declared, f, method, isAbstract, ⟨p, parameter, rfl⟩ | result⟩)
    · exact .literal asking given value
    · exact .constructorParameter constructor parameter
    · exact .supertype mem
    · exact .methodParameter declared method isAbstract parameter
    · exact .methodResult declared method isAbstract result
  · rintro (⟨asking, given, value⟩ | ⟨constructor, parameter⟩ | mem |
      ⟨declared, method, isAbstract, parameter⟩ | ⟨declared, method, isAbstract, result⟩)
    · exact .inl (.inl ⟨_, _, asking, given, value⟩)
    · exact .inl (.inr (.inl ⟨_, constructor, _, parameter, rfl⟩))
    · exact .inl (.inr (.inr mem))
    · exact .inr ⟨_, declared, _, method, isAbstract, .inl ⟨_, parameter, rfl⟩⟩
    · exact .inr ⟨_, declared, _, method, isAbstract, .inr result⟩

/-- A class waits for the spellings of unresolved references that it depends on. -/
theorem mem_unresolvedReferences_iff {s : String} :
    s ∈ unresolvedReferences m find c ↔ DependsOn m find c (.unresolved s) := by
  simp only [unresolvedReferences, mem_withoutRepetition, List.mem_filterMap,
    spelling?_eq_some_iff, exists_eq_right]
  exact mem_references_iff

/-! ### Checks that stop at a reference -/

/-- A class literal that is passed to the annotation that asks for the factory is depended on. -/
theorem dependsOn_of_argument? {name : String} {position : Nat}
    (given : (c.annotationFor? m.contributesAssistedFactory).bind (·.argument? name position)
      = some (.classLiteral r)) : DependsOn m find c r := by
  obtain ⟨a, asking, argument⟩ := Option.bind_eq_some_iff.1 given
  obtain ⟨b, mem, value⟩ := value_of_argument? argument
  exact .literal asking mem value

/-- A check that puts a class off does so for one reference that the class depends on. -/
theorem Check.Fails.dependsOn {k : Check} {us : List String}
    (failed : k.Fails m find c (.unresolved us)) :
    ∃ s, us = [s] ∧ DependsOn m find c (.unresolved s) := by
  cases k with
  | boundResolved =>
    obtain ⟨s, given, same⟩ := failed
    cases same
    exact ⟨s, rfl, dependsOn_of_argument? given⟩
  | scopeResolved =>
    obtain ⟨s, given, same⟩ := failed
    cases same
    exact ⟨s, rfl, dependsOn_of_argument? given⟩
  | assistedResolved =>
    obtain ⟨constructor, p, s, sole, ⟨-, before, after, split, -⟩, spelled, same⟩ := failed
    cases same
    have mem : p ∈ constructor.parameters :=
      List.mem_of_mem_filter (split ▸ List.mem_append_right before (List.mem_cons_self ..))
    exact ⟨s, rfl, spelled ▸ .constructorParameter (sole ▸ List.mem_cons_self ..) mem⟩
  | factoryResolved =>
    obtain ⟨_, bound, method, parts, p, s, ⟨-, before, after, split, -⟩, spelled, same⟩ := failed
    cases same
    have among : method ∈ bound.abstractMethods := parts.methods ▸ List.mem_cons_self ..
    obtain ⟨mem, isAbstract⟩ := List.mem_filter.1 among
    have parameter : p ∈ method.parameters :=
      split ▸ List.mem_append_right before (List.mem_cons_self ..)
    exact ⟨s, rfl, spelled ▸ .methodParameter parts.declared mem isAbstract parameter⟩
  -- every other check refuses the class for good
  | _ => simp [Check.Fails, defective] at failed

/-- Validation puts a class off for one reference only, and the class waits for it. -/
theorem mem_unresolvedReferences_of_validate {us : List String}
    (put : validate m find c = .error (.unresolved us)) :
    ∃ s ∈ unresolvedReferences m find c, us = [s] := by
  obtain ⟨k, -, failed⟩ := (validate_decides _).1 put
  obtain ⟨s, single, depends⟩ := failed.dependsOn
  exact ⟨s, mem_unresolvedReferences_iff.2 depends, single⟩

end AssistedInjection.Validation
