import AssistedInjection.Matching.Pairing
import AssistedInjection.Proofs.Checks

/-!
Of a parameter, matching keeps the name and asks for the key, and nothing else. Entries that agree
in these two are matched alike and fail alike.
-/

namespace AssistedInjection.Matching

open Declaration Checks

/-- Entries with one key and one parameter name. -/
def SameEntry (entry entry' : Keyed) : Prop :=
  entry.1 = entry'.1 ∧ entry.2.name = entry'.2.name

/-- Collisions under one key and of parameters of the same names. -/
structure Collision.Agrees (clash clash' : Collision) : Prop where
  key : clash.key = clash'.key
  first : clash.first.name = clash'.first.name
  second : clash.second.name = clash'.second.name

/-- Matches under one key and of parameters of the same names. -/
structure Match.Agrees (p p' : Match) : Prop where
  key : p.key = p'.key
  factory : p.factory.name = p'.factory.name
  constructor : p.constructor.name = p'.constructor.name

namespace KeyIndex

/-- Indexes that agree entry by entry. -/
def Agrees (index index' : KeyIndex) : Prop :=
  List.Forall₂ SameEntry index.entries index'.entries

theorem Agrees.size {index index' : KeyIndex} (h : index.Agrees index') :
    index.size = index'.size := h.length_eq

theorem Agrees.get? {index index' : KeyIndex} (h : index.Agrees index') (key : ParameterKey) :
    Option.Rel (fun p p' : Parameter => p.name = p'.name) (index.get? key) (index'.get? key) := by
  obtain ⟨entries⟩ := index
  obtain ⟨entries'⟩ := index'
  change List.Forall₂ SameEntry entries entries' at h
  change Option.Rel _ (entries.lookup key) (entries'.lookup key)
  induction h with
  | nil => exact .none
  | cons here _ ih =>
    obtain ⟨same, named⟩ := here
    rw [List.lookup_cons, List.lookup_cons, same]
    split
    · exact .some named
    · exact ih

theorem Agrees.add {index index' : KeyIndex} (h : index.Agrees index') {entry entry' : Keyed}
    (same : SameEntry entry entry') :
    Alike Collision.Agrees Agrees (index.add entry) (index'.add entry') := by
  obtain ⟨key, named⟩ := same
  unfold KeyIndex.add
  rw [← key]
  rcases rel_cases (h.get? entry.1) with ⟨new, new'⟩ | ⟨first, first', taken, taken', hf⟩
  · rw [new, new']
    exact List.rel_append h (.cons ⟨key, named⟩ .nil)
  · rw [taken, taken']
    exact ⟨rfl, hf, named⟩

theorem Agrees.addAll {entries entries' : List Keyed}
    (same : List.Forall₂ SameEntry entries entries') {index index' : KeyIndex}
    (h : index.Agrees index') :
    Alike Collision.Agrees Agrees (index.addAll entries) (index'.addAll entries') := by
  induction same generalizing index index' with
  | nil => exact h
  | cons here _ ih => exact (h.add here).bind fun _ _ later => ih later

/-- Entries that agree make indexes that agree, or collide alike. -/
theorem ofList_alike {entries entries' : List Keyed}
    (same : List.Forall₂ SameEntry entries entries') :
    Alike Collision.Agrees Agrees (ofList entries) (ofList entries') :=
  Agrees.addAll same .nil

theorem Agrees.matchOne {index index' : KeyIndex} (h : index.Agrees index') {entry entry' : Keyed}
    (same : SameEntry entry entry') :
    Alike (fun lone lone' => lone.parameter.name = lone'.parameter.name) Match.Agrees
      (index.matchOne entry) (index'.matchOne entry') := by
  obtain ⟨key, named⟩ := same
  unfold KeyIndex.matchOne
  rw [← key]
  rcases rel_cases (h.get? entry.1) with ⟨lone, lone'⟩ | ⟨first, first', found, found', hf⟩
  · rw [lone, lone']
    exact named
  · rw [found, found']
    exact ⟨rfl, named, hf⟩

/-- Entries that agree find matches that agree, or lack one alike. -/
theorem Agrees.pair {index index' : KeyIndex} (h : index.Agrees index')
    {entries entries' : List Keyed} (same : List.Forall₂ SameEntry entries entries') :
    Alike (fun lone lone' => lone.parameter.name = lone'.parameter.name)
      (List.Forall₂ Match.Agrees) (index.pair entries) (index'.pair entries') := by
  induction same with
  | nil => exact .nil
  | cons here _ ih =>
    refine (h.matchOne here).bind fun p p' found => ih.bind fun ps ps' rest => ?_
    exact .cons found rest

end KeyIndex

end AssistedInjection.Matching
