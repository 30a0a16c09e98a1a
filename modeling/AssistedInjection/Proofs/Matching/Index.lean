import AssistedInjection.Matching.Pairing
import AssistedInjection.Proofs.Checks
import Mathlib.Data.List.Nodup

/-!
When an index can be built and what a look-up in it finds. An index is built from exactly the lists
whose keys differ, and it holds them as they are; pairing then gives every factory parameter the one
constructor parameter of its key. Building fails at the first entry whose key was there before, and
pairing at the first factory parameter whose key is not there.
-/

namespace AssistedInjection.Matching.KeyIndex

open Declaration Checks

/-- The keys of an index, in the order in which they came in. -/
def keys (index : KeyIndex) : List ParameterKey := index.entries.map (·.1)

/-- A key finds nothing exactly when no entry has it. -/
theorem get?_eq_none_iff {index : KeyIndex} {key : ParameterKey} :
    index.get? key = none ↔ key ∉ index.keys := by
  rw [get?, List.lookup_eq_none_iff, keys, List.mem_map]
  constructor
  · rintro h ⟨entry, mem, rfl⟩
    simpa using h entry mem
  · intro h entry mem
    simpa using fun same : key = entry.1 => h ⟨entry, mem, same.symm⟩

/-- With keys that differ, a key finds the parameter that it stands beside. -/
theorem get?_eq_some_iff {index : KeyIndex} (distinct : index.keys.Nodup) {key : ParameterKey}
    {p : Parameter} : index.get? key = some p ↔ (key, p) ∈ index.entries := by
  rw [get?, List.lookup_eq_some_iff]
  constructor
  · rintro ⟨before, after, split, -⟩
    rw [split]; simp
  · intro mem
    obtain ⟨before, after, split⟩ := List.append_of_mem mem
    refine ⟨before, after, split, fun entry earlier => ?_⟩
    rw [keys, split, List.map_append, List.map_cons, List.nodup_append] at distinct
    have apart := distinct.2.2 entry.1 (List.mem_map_of_mem earlier) key (by simp)
    simpa using Ne.symm apart

theorem add_eq_ok_iff {index index' : KeyIndex} {entry : Keyed} :
    index.add entry = .ok index' ↔ entry.1 ∉ index.keys ∧ index' = ⟨index.entries ++ [entry]⟩ := by
  rw [add, ← get?_eq_none_iff]
  cases index.get? entry.1 with
  | none => simp [eq_comm]
  | some first => simp

/-- Entries can be added exactly when their keys differ from each other and from those there. -/
theorem addAll_eq_ok_iff {entries : List Keyed} {index index' : KeyIndex}
    (distinct : index.keys.Nodup) :
    index.addAll entries = .ok index' ↔
      (index.keys ++ entries.map (·.1)).Nodup ∧ index' = ⟨index.entries ++ entries⟩ := by
  induction entries generalizing index with
  | nil => simp [addAll, distinct, eq_comm]
  | cons entry rest ih =>
    rw [addAll, bind_eq_ok_iff]
    constructor
    · rintro ⟨longer, added, more⟩
      obtain ⟨free, rfl⟩ := add_eq_ok_iff.1 added
      obtain ⟨all, rfl⟩ := (ih (by simpa [keys] using distinct.concat free)).1 more
      exact ⟨by simpa [keys] using all, by simp⟩
    · rintro ⟨all, rfl⟩
      have free : entry.1 ∉ index.keys := fun taken =>
        (List.nodup_append.1 all).2.2 entry.1 taken entry.1 (by simp) rfl
      refine ⟨_, add_eq_ok_iff.2 ⟨free, rfl⟩, (ih ?_).2 ⟨by simpa [keys] using all, by simp⟩⟩
      simpa [keys] using distinct.concat free

/-- An index is built of exactly the lists whose keys differ, and keeps them as they are. -/
theorem ofList_eq_ok_iff {entries : List Keyed} {index : KeyIndex} :
    ofList entries = .ok index ↔ (entries.map (·.1)).Nodup ∧ index = ⟨entries⟩ := by
  rw [ofList, addAll_eq_ok_iff (by simp [keys])]
  simp [keys]

theorem add_eq_error_iff {index : KeyIndex} (distinct : index.keys.Nodup) {entry : Keyed}
    {clash : Collision} :
    index.add entry = .error clash ↔
      entry = (clash.key, clash.second) ∧ (clash.key, clash.first) ∈ index.entries := by
  rw [add, ← get?_eq_some_iff distinct]
  obtain ⟨key, parameter⟩ := entry
  obtain ⟨key', first, second⟩ := clash
  cases taken : index.get? key with
  | none =>
    simp only [reduceCtorEq, Prod.mk.injEq, false_iff, not_and, and_imp]
    rintro rfl rfl found
    rw [taken] at found
    cases found
  | some p =>
    simp only [Except.error.injEq, Collision.mk.injEq, Prod.mk.injEq]
    constructor
    · rintro ⟨rfl, rfl, rfl⟩
      exact ⟨⟨rfl, rfl⟩, taken⟩
    · rintro ⟨⟨rfl, rfl⟩, found⟩
      exact ⟨rfl, Option.some.inj (taken.symm.trans found), rfl⟩

/-- Adding entries fails at the first whose key is there or was added before. -/
theorem addAll_eq_error_iff {entries : List Keyed} {index : KeyIndex} (distinct : index.keys.Nodup)
    {clash : Collision} :
    index.addAll entries = .error clash ↔
      ∃ before after, entries = before ++ (clash.key, clash.second) :: after ∧
        (index.keys ++ before.map (·.1)).Nodup ∧
        (clash.key, clash.first) ∈ index.entries ++ before := by
  induction entries generalizing index with
  | nil => simp [addAll]
  | cons entry rest ih =>
    rw [addAll, bind_eq_error_iff, add_eq_error_iff distinct]
    constructor
    · rintro (⟨rfl, there⟩ | ⟨longer, added, more⟩)
      · exact ⟨[], rest, rfl, by simpa using distinct, by simpa using there⟩
      · obtain ⟨free, rfl⟩ := add_eq_ok_iff.1 added
        obtain ⟨before, after, rfl, all, there⟩ :=
          (ih (by simpa [keys] using distinct.concat free)).1 more
        exact ⟨entry :: before, after, rfl, by simpa [keys] using all, by simpa using there⟩
    · rintro ⟨before, after, split, all, there⟩
      cases before with
      | nil =>
        obtain ⟨rfl, -⟩ := List.cons.inj split
        exact .inl ⟨rfl, by simpa using there⟩
      | cons b before =>
        obtain ⟨rfl, rfl⟩ := List.cons.inj split
        have free : entry.1 ∉ index.keys := fun taken =>
          (List.nodup_append.1 all).2.2 entry.1 taken entry.1 (by simp) rfl
        have longer : (⟨index.entries ++ [entry]⟩ : KeyIndex).keys.Nodup := by
          simpa [keys] using distinct.concat free
        refine .inr ⟨_, add_eq_ok_iff.2 ⟨free, rfl⟩, (ih longer).2 ⟨before, after, rfl, ?_, ?_⟩⟩
        · simpa [keys] using all
        · simpa using there

/-- Building an index fails at the first entry whose key an earlier one has. -/
theorem ofList_eq_error_iff {entries : List Keyed} {clash : Collision} :
    ofList entries = .error clash ↔
      ∃ before after, entries = before ++ (clash.key, clash.second) :: after ∧
        (before.map (·.1)).Nodup ∧ (clash.key, clash.first) ∈ before := by
  rw [ofList, addAll_eq_error_iff (by simp [keys])]
  simp [keys]

theorem matchOne_eq_ok_iff {index : KeyIndex} {factory : Keyed} {found : Match} :
    index.matchOne factory = .ok found ↔
      index.get? factory.1 = some found.constructor ∧ found.key = factory.1 ∧
        found.factory = factory.2 := by
  rw [matchOne]
  obtain ⟨key, parameter, constructor⟩ := found
  cases index.get? factory.1 with
  | none => simp
  | some p => simp only [Except.ok.injEq, Match.mk.injEq, Option.some.injEq]; tauto

/-- Pairing succeeds exactly when every factory parameter finds its match, and keeps their order. -/
theorem pair_eq_ok_iff {index : KeyIndex} {factory : List Keyed} {found : List Match} :
    index.pair factory = .ok found ↔
      List.Forall₂ (fun f x => index.matchOne f = .ok x) factory found := by
  induction factory generalizing found with
  | nil => simp [pair, eq_comm]
  | cons f rest ih =>
    simp only [pair, bind_eq_ok_iff, pure_eq_ok_iff, ih, List.forall₂_cons_left_iff]
    constructor
    · rintro ⟨x, one, xs, many, rfl⟩
      exact ⟨x, xs, one, many, rfl⟩
    · rintro ⟨x, xs, one, many, rfl⟩
      exact ⟨x, one, xs, many, rfl⟩

/-- Pairing fails at the first factory parameter whose key is not in the index. -/
theorem pair_eq_error_iff {index : KeyIndex} {factory : List Keyed} {lone : Unmatched} :
    index.pair factory = .error lone ↔
      First (fun f => f.1 ∉ index.keys) factory (lone.key, lone.parameter) := by
  induction factory with
  | nil => simp [pair, not_first_nil]
  | cons f rest ih =>
    rw [pair, bind_eq_error_iff, first_cons, ← get?_eq_none_iff, matchOne]
    simp only [bind_eq_error_iff, ih, pure_ne_error, and_false, exists_false, or_false]
    obtain ⟨key, parameter⟩ := f
    obtain ⟨key', parameter'⟩ := lone
    cases index.get? key with
    | none => simp [eq_comm]
    | some p => simp

end AssistedInjection.Matching.KeyIndex
