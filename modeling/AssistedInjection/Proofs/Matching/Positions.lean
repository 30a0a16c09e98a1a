import AssistedInjection.Proofs.Matching.Index
import AssistedInjection.Proofs.Sample

/-!
An index beside the list it was built from. Building goes through the list by position and stops at
the first key that was there before; otherwise every key leads to the parameter that stands beside
it, and pairing looks up each factory parameter by itself.

    position    0   1   2   3   4
    key         k   l   m   l   k       the first repetition: at 3, of the key at 1
-/

namespace AssistedInjection.Matching

open Declaration Checks

/-- The first repetition in a list of keys: the one at `j` stood at `i` before and nowhere else, and
those before `j` differ from each other. -/
structure FirstRepetition (keys : List ParameterKey) (i j : Nat) : Prop where
  before : i < j
  inside : j < keys.length
  same : keys[i]? = keys[j]?
  only : ∀ k < j, keys[k]? = keys[j]? → k = i
  earliest : ∀ k l, k < l → l < j → keys[k]? ≠ keys[l]?

/-- A key that repeats one of some keys that differ makes the first repetition. -/
theorem FirstRepetition.of_nodup {before : List ParameterKey} {key : ParameterKey} {i : Nat}
    (distinct : before.Nodup) (there : before[i]? = some key) (after : List ParameterKey) :
    FirstRepetition (before ++ key :: after) i before.length := by
  have apart := List.nodup_iff_getElem?_ne_getElem?.1 distinct
  have inside : i < before.length := (List.getElem?_eq_some_iff.1 there).1
  have old {k : Nat} (h : k < before.length) : (before ++ key :: after)[k]? = before[k]? :=
    List.getElem?_append_left h
  have new : (before ++ key :: after)[before.length]? = some key := by simp
  -- Everything before the new key is compared in the old list, where no two keys are equal.
  refine ⟨inside, by simp, ?_, fun k earlier same => ?_, fun k l first second same => ?_⟩
  · rw [old inside, there, new]
  · rw [old earlier, new, ← there] at same
    rcases Nat.lt_trichotomy k i with less | equal | greater
    · exact absurd same (apart k i less inside)
    · exact equal
    · exact absurd same.symm (apart i k greater earlier)
  · rw [old (Nat.lt_trans first second), old second] at same
    exact apart k l first second same

/-- The keys before the first repetition differ. -/
theorem FirstRepetition.nodup {keys : List ParameterKey} {i j : Nat}
    (h : FirstRepetition keys i j) : (keys.take j).Nodup := by
  rw [List.nodup_iff_getElem?_ne_getElem?]
  intro k l first second
  have inside : l < j := Nat.lt_of_lt_of_le second (List.length_take_le j keys)
  rw [List.getElem?_take_of_lt (Nat.lt_trans first inside), List.getElem?_take_of_lt inside]
  exact h.earliest k l first inside

namespace KeyIndex

/-- Building fails at the first repetition, and names the parameters of both places. -/
theorem ofList_eq_error_iff_exists {entries : List Keyed} {clash : Collision} :
    ofList entries = .error clash ↔
      ∃ i j, FirstRepetition (entries.map (·.1)) i j ∧
        entries[i]? = some (clash.key, clash.first) ∧
        entries[j]? = some (clash.key, clash.second) := by
  rw [ofList_eq_error_iff]
  constructor
  · rintro ⟨before, after, rfl, distinct, mem⟩
    obtain ⟨i, there⟩ := List.mem_iff_getElem?.1 mem
    have inside : i < before.length := (List.getElem?_eq_some_iff.1 there).1
    have key : (before.map (·.1))[i]? = some clash.key := by
      rw [List.getElem?_map, there]
      rfl
    have repeated := FirstRepetition.of_nodup distinct key (after.map (·.1))
    refine ⟨i, before.length, by simpa using repeated, ?_, by simp⟩
    rw [List.getElem?_append_left inside, there]
  · rintro ⟨i, j, repeated, first, second⟩
    obtain ⟨inside, here⟩ := List.getElem?_eq_some_iff.1 second
    refine ⟨entries.take j, entries.drop (j + 1), ?_, ?_, ?_⟩
    · rw [← here, List.getElem_cons_drop, List.take_append_drop]
    · rw [List.map_take]
      exact repeated.nodup
    · exact List.mem_of_getElem? (i := i) (by rw [List.getElem?_take_of_lt repeated.before, first])

/-- Building fails exactly where two places have one key. -/
theorem exists_ofList_eq_error_iff {entries : List Keyed} :
    (∃ clash, ofList entries = .error clash) ↔
      ∃ i j, i < j ∧ j < entries.length ∧
        (entries.map (·.1))[i]? = (entries.map (·.1))[j]? := by
  have built : (∃ clash, ofList entries = .error clash) ↔ ¬ (entries.map (·.1)).Nodup := by
    have accepted := @ofList_eq_ok_iff entries ⟨entries⟩
    cases came : ofList entries with
    | error clash => simpa [came] using accepted
    | ok index => simpa using (ofList_eq_ok_iff.1 came).1
  rw [built, List.nodup_iff_getElem?_ne_getElem?]
  simp

/-- An index stands for a list: each key of the list leads to the parameter beside it, and any other
key leads nowhere. -/
structure Represents (index : KeyIndex) (entries : List Keyed) : Prop where
  size : index.size = entries.length
  found : ∀ key p, index.get? key = some p ↔ (key, p) ∈ entries
  missing : ∀ key, index.get? key = none ↔ ∀ p, (key, p) ∉ entries

theorem represents_of_ofList {entries : List Keyed} {index : KeyIndex}
    (built : ofList entries = .ok index) : index.Represents entries := by
  obtain ⟨distinct, rfl⟩ := ofList_eq_ok_iff.1 built
  have found (key : ParameterKey) (p : Parameter) :
      (⟨entries⟩ : KeyIndex).get? key = some p ↔ (key, p) ∈ entries := get?_eq_some_iff distinct
  refine ⟨rfl, found, fun key => ?_⟩
  rw [Option.eq_none_iff_forall_ne_some]
  exact forall_congr' fun p => not_congr (found key p)

end KeyIndex

/-- A factory parameter with the constructor parameter that stands beside its key. -/
structure Match.Joins (entries : List Keyed) (asked : Keyed) (x : Match) : Prop where
  key : x.key = asked.1
  factory : x.factory = asked.2
  constructor : (asked.1, x.constructor) ∈ entries

namespace KeyIndex

section

variable {entries factory : List Keyed} {index : KeyIndex}

/-- Pairing fails at the first factory parameter whose key stands nowhere in the list. -/
theorem Represents.pair_eq_error_iff (h : index.Represents entries) {lone : Unmatched} :
    index.pair factory = .error lone ↔
      First (fun f => ∀ p, (f.1, p) ∉ entries) factory (lone.key, lone.parameter) := by
  rw [KeyIndex.pair_eq_error_iff]
  refine first_congr fun f _ => ?_
  rw [← get?_eq_none_iff, h.missing]

/-- Pairing fails exactly where the key of some factory parameter stands nowhere in the list. -/
theorem Represents.exists_pair_eq_error_iff (h : index.Represents entries) :
    (∃ lone, index.pair factory = .error lone) ↔ ∃ f ∈ factory, ∀ p, (f.1, p) ∉ entries := by
  constructor
  · rintro ⟨lone, failed⟩
    obtain ⟨none, before, after, rfl, -⟩ := h.pair_eq_error_iff.1 failed
    exact ⟨(lone.key, lone.parameter), by simp, none⟩
  · rintro ⟨f, mem, none⟩
    obtain ⟨⟨key, p⟩, first⟩ := exists_first (p := fun f => ∀ p, (f.1, p) ∉ entries) mem none
    exact ⟨⟨key, p⟩, h.pair_eq_error_iff.2 first⟩

/-- Pairing joins the factory parameters, one by one, with what stands beside their keys. -/
theorem Represents.pair_eq_ok_iff (h : index.Represents entries) {found : List Match} :
    index.pair factory = .ok found ↔ List.Forall₂ (Match.Joins entries) factory found := by
  have joins (f : Keyed) (x : Match) : index.matchOne f = .ok x ↔ x.Joins entries f := by
    rw [matchOne_eq_ok_iff, h.found]
    exact ⟨fun ⟨mem, key, factory⟩ => ⟨key, factory, mem⟩,
      fun ⟨key, factory, mem⟩ => ⟨mem, key, factory⟩⟩
  rw [KeyIndex.pair_eq_ok_iff]
  simp only [joins]

end

end KeyIndex

/-! ### Equal keys -/

/-- A tag that says nothing: there is none, or it is white space only. -/
def Absent (tag : Option String) : Prop := ∀ s ∈ tag, ∀ ch ∈ s.toList, Unicode.isBlank ch

theorem bind_unlessBlank_of_absent {tag : Option String} (h : Absent tag) :
    tag.bind Text.unlessBlank = none := by
  cases tag with
  | none => rfl
  | some s =>
    have blank : Text.isBlank s = true := List.all_eq_true.2 (h s rfl)
    simp [Text.unlessBlank, blank]

theorem bind_unlessBlank_of_not_absent {tag : Option String} (h : ¬ Absent tag) :
    tag.bind Text.unlessBlank = tag := by
  cases tag with
  | none => rfl
  | some s =>
    have shown : Text.isBlank s = false := by
      simpa [Absent, Text.isBlank] using h
    simp [Text.unlessBlank, shown]

/-- Keys are equal exactly when the types are and the tags are, all tags that say nothing counting
as one. -/
theorem ParameterKey.ofTagged_eq_iff {type type' : Kotlin.TypeExpr} {tag tag' : Option String} :
    ofTagged type tag = ofTagged type' tag' ↔
      type = type' ∧ (tag = tag' ∨ Absent tag ∧ Absent tag') := by
  rw [ofTagged, ofTagged, ParameterKey.mk.injEq]
  refine and_congr_right fun _ => ?_
  by_cases h : Absent tag <;> by_cases h' : Absent tag'
  · simp [bind_unlessBlank_of_absent h, bind_unlessBlank_of_absent h', h, h']
  · have shown : tag ≠ tag' := fun same => h' (same ▸ h)
    have some : tag' ≠ none := fun none => h' (by simp [Absent, none])
    simp [bind_unlessBlank_of_absent h, bind_unlessBlank_of_not_absent h', h', shown, some.symm]
  · have shown : tag ≠ tag' := fun same => h (same ▸ h')
    have some : tag ≠ none := fun none => h (by simp [Absent, none])
    simp [bind_unlessBlank_of_not_absent h, bind_unlessBlank_of_absent h', h, shown, some]
  · simp [bind_unlessBlank_of_not_absent h, bind_unlessBlank_of_not_absent h', h]

/-! ### The index and the list -/

/-- An index behaves as the list that it is built from. It cannot be built exactly where two places
have one key, and then the first repetition is named. If it can, it has an entry for each place and
finds what stands beside a key; pairing fails at the first factory parameter whose key stands
nowhere, and otherwise joins each with its own. Keys are compared by type and by tag, where a blank
tag is none. -/
theorem KeyIndex.agrees_with_entries (entries : List Keyed) :
    ((∃ clash, ofList entries = .error clash) ↔
      ∃ i j, i < j ∧ j < entries.length ∧
        (entries.map (·.1))[i]? = (entries.map (·.1))[j]?) ∧
    (∀ clash, ofList entries = .error clash ↔
      ∃ i j, FirstRepetition (entries.map (·.1)) i j ∧
        entries[i]? = some (clash.key, clash.first) ∧
        entries[j]? = some (clash.key, clash.second)) ∧
    (∀ index, ofList entries = .ok index →
      index.Represents entries ∧
      ∀ factory,
        ((∃ lone, index.pair factory = .error lone) ↔ ∃ f ∈ factory, ∀ p, (f.1, p) ∉ entries) ∧
        (∀ lone, index.pair factory = .error lone ↔
          First (fun f => ∀ p, (f.1, p) ∉ entries) factory (lone.key, lone.parameter)) ∧
        ∀ found, index.pair factory = .ok found ↔
          List.Forall₂ (Match.Joins entries) factory found) ∧
    ∀ type type' tag tag',
      ParameterKey.ofTagged type tag = ParameterKey.ofTagged type' tag' ↔
        type = type' ∧ (tag = tag' ∨ Absent tag ∧ Absent tag') := by
  refine ⟨exists_ofList_eq_error_iff, fun _ => ofList_eq_error_iff_exists, fun index built => ?_,
    fun _ _ _ _ => ParameterKey.ofTagged_eq_iff⟩
  have stands := represents_of_ofList built
  exact ⟨stands, fun factory => ⟨stands.exists_pair_eq_error_iff, fun _ => stands.pair_eq_error_iff,
    fun _ => stands.pair_eq_ok_iff⟩⟩

/-- A number without a tag and a text with one, asked for the other way round; white space asks for
the parameter without a tag. -/
theorem KeyIndex.agrees_with_entries_blank_tag :
    let long : Kotlin.TypeExpr := .ofClass (.topLevel "kotlin" "Long")
    let string : Kotlin.TypeExpr := .ofClass (.topLevel "kotlin" "String")
    let id := Sample.assisted "id" (.resolved long)
    let name := Sample.assisted "name" (.resolved string)
    let x := Sample.plain "x" (.resolved string)
    let y := Sample.plain "y" (.resolved long)
    let index : KeyIndex := ⟨[(⟨long, none⟩, id), (⟨string, some "name"⟩, name)]⟩
    ofList [(.ofTagged long none, id), (.ofTagged string (some "name"), name)] = .ok index ∧
      index.pair [(.ofTagged string (some "name"), x), (.ofTagged long (some " \t"), y)] =
        .ok [⟨⟨string, some "name"⟩, x, name⟩, ⟨⟨long, none⟩, y, id⟩] := by
  intro long string id name x y index
  have built : ofList [(.ofTagged long none, id), (.ofTagged string (some "name"), name)] =
      .ok index := by decide +kernel
  have blank : ParameterKey.ofTagged long (some " \t") = ⟨long, none⟩ := by decide +kernel
  have pairs := ((agrees_with_entries _).2.2.1 index built).2
    [(.ofTagged string (some "name"), x), (.ofTagged long (some " \t"), y)]
  refine ⟨built, (pairs.2.2 _).2 (.cons ⟨by decide +kernel, rfl, ?_⟩ (.cons ⟨?_, rfl, ?_⟩ .nil))⟩
  · simp
  · exact blank.symm
  · rw [blank]
    simp [ParameterKey.ofTagged]

end AssistedInjection.Matching
