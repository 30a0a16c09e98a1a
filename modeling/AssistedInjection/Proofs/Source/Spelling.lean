import AssistedInjection.Proofs.Kotlin.Names
import AssistedInjection.Proofs.Source.Segments
import AssistedInjection.Source.Imports

/-!
Spelled class names are read as they are written. A segment that is a hard keyword is put in
backticks, which are no part of the identifier; so a class is read from its escaped segments as the
class itself, and without its package as a class of the default one.

    com.in.Outer.Inner     com.`in`.Outer.Inner   ──▶   com.in  Outer Inner
                                    Outer.Inner   ──▶           Outer Inner
-/

namespace AssistedInjection.Source

open Kotlin

/-! ### Escaped segments -/

/-- The token of an escaped identifier. -/
def identifierToken (s : String) : Token :=
  if hardKeywords.contains s then .quoted s else .word s

theorem name?_identifierToken (s : String) : (identifierToken s).name? = some s := by
  unfold identifierToken
  split <;> rfl

theorem cut_identifier {s : String} (word : IsWord s) :
    cut (identifier s).toList = [identifierToken s] := by
  have quoted : ∀ s ∈ hardKeywords, cut ("`" ++ s ++ "`").toList = [.quoted s] := by decide +kernel
  unfold identifier identifierToken
  split
  · rename_i keyword
    exact quoted s (List.contains_iff_mem.1 keyword)
  · exact word.cut

/-- The tokens of plain identifiers, escaped and joined by dots. -/
theorem cut_escaped {first : String} {rest : List String} (words : ∀ s ∈ first :: rest, IsWord s) :
    cut (".".intercalate ((first :: rest).map identifier)).toList
      = chain (identifierToken first) (rest.map identifierToken) := by
  obtain ⟨word, others⟩ := List.forall_mem_cons.1 words
  have more : List.Forall₂ (fun x t => cut x.toList = [t]) (rest.map identifier)
      (rest.map identifierToken) := by
    rw [List.forall₂_map_left_iff, List.forall₂_map_right_iff, List.forall₂_same]
    exact fun s mem => cut_identifier (others s mem)
  exact cut_intercalate (cut_identifier word) more (by simp [name?_identifierToken])

theorem stand_identifierToken (ss : List String) : Stand (ss.map identifierToken) ss :=
  List.forall₂_map_left_iff.2 (List.forall₂_same.2 fun s _ => name?_identifierToken s)

/-- Plain identifiers, escaped and joined by dots, are read as the class that they make. -/
theorem parse_escaped_segments {first : String} {rest : List String}
    (words : ∀ s ∈ first :: rest, IsWord s) :
    ClassName.parse (".".intercalate ((first :: rest).map identifier))
      = .ok (.ofSegments first rest) :=
  ClassName.parse_eq_ok_iff.2
    ⟨_, _, first, rest, cut_escaped words, stand_identifierToken (first :: rest), rfl⟩

theorem dottedName_intercalate {ss : List String} (some : ss ≠ []) (words : ∀ s ∈ ss, IsWord s) :
    dottedName (".".intercalate ss) = ".".intercalate (ss.map identifier) := by
  rw [dottedName, segments_intercalate some fun s mem => (words s mem).not_mem (by decide)]

/-! ### Classes named by convention -/

/-- A class in a package of some segments, in plain identifiers, with the capitals that tell where
the class begins. -/
structure ByConvention (ps : List String) (c : ClassName) : Prop where
  words : ∀ s ∈ ps ++ c.names, IsWord s
  package : c.package = ".".intercalate ps
  lower : ∀ s ∈ ps, ¬ ClassName.startsClass s
  capital : ClassName.startsClass c.outermost ∨ c.nested = []

theorem exists_byConvention {c : ClassName} (back : c.parsesBack) : ∃ ps, ByConvention ps c := by
  obtain ⟨first, rest, words, rfl⟩ := ClassName.parsesBack_iff.1 back
  obtain ⟨ps, split, package, lower, capital⟩ := ClassName.exists_segments first rest
  exact ⟨ps, split ▸ words, package, lower, capital⟩

namespace ByConvention

variable {ps : List String} {c : ClassName}

theorem container (h : ByConvention ps c) : ByConvention ps c.container where
  words s mem := h.words s (by
    rw [ClassName.names, List.mem_append, List.mem_cons]
    exact (List.mem_append.1 mem).imp_right fun single => .inl (List.mem_singleton.1 single))
  package := h.package
  lower := h.lower
  capital := .inr rfl

theorem withoutPackage (h : ByConvention ps c) : ByConvention [] { c with package := "" } where
  words s mem := h.words s (List.mem_append_right _ mem)
  package := rfl
  lower := by simp
  capital := h.capital

/-- The segments of a class make the class. -/
theorem ofSegments (h : ByConvention ps c) {first : String} {rest : List String}
    (segments : ps ++ c.names = first :: rest) : .ofSegments first rest = c :=
  ClassName.ofSegments_eq h.package h.lower h.capital segments

theorem parse_escaped (h : ByConvention ps c) :
    ClassName.parse (".".intercalate ((ps ++ c.names).map identifier)) = .ok c := by
  obtain ⟨first, rest, segments⟩ := c.exists_cons ps
  rw [segments, parse_escaped_segments (segments ▸ h.words), h.ofSegments segments]

theorem canonical (h : ByConvention ps c) : c.canonical = ".".intercalate (ps ++ c.names) := by
  have package : ∀ s ∈ ps, s ≠ "" := fun s mem => (h.words s (List.mem_append_left _ mem)).ne_empty
  rw [ClassName.canonical, h.package]
  exact intercalate_package package (by simp [ClassName.names])

theorem dottedName_canonical (h : ByConvention ps c) :
    dottedName c.canonical = ".".intercalate ((ps ++ c.names).map identifier) := by
  rw [h.canonical, dottedName_intercalate (by simp [ClassName.names]) h.words]

/-- The escaped package before the escaped simple names. -/
theorem dottedName_package (h : ByConvention ps c) (named : c.package ≠ "") :
    dottedName c.package ++ "." ++ ".".intercalate (c.names.map identifier)
      = ".".intercalate ((ps ++ c.names).map identifier) := by
  have some : ps ≠ [] := by
    rintro rfl
    exact named h.package
  have words : ∀ s ∈ ps, IsWord s := fun s mem => h.words s (List.mem_append_left _ mem)
  rw [h.package, dottedName_intercalate some words, List.map_append,
    String.intercalate_append_of_ne_nil (by simpa using some) (by simp [ClassName.names])]

end ByConvention

/-! ### Spelled names -/

namespace Imports

/-- The name that is written for a class: the class itself, or without its package. -/
def written (i : Imports) (c : ClassName) : ClassName :=
  if i.claims c.container || c.package = "" then { c with package := "" } else c

/-- What is spelled for a class is read as the name that is written. -/
theorem parse_spell (i : Imports) {c : ClassName} (back : c.parsesBack) :
    ClassName.parse (i.spell c) = .ok (i.written c) := by
  obtain ⟨ps, h⟩ := exists_byConvention back
  unfold spell written
  split
  · exact h.withoutPackage.parse_escaped
  · rename_i full
    have named : c.package ≠ "" := fun empty => full (by simp [empty])
    rw [h.dottedName_package named]
    exact h.parse_escaped

end Imports

end AssistedInjection.Source
