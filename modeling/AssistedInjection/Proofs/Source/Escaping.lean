import AssistedInjection.Proofs.Kotlin.NamesFromParts
import AssistedInjection.Proofs.Source.Spelling

/-!
Escaped class names and the identifiers they were read from. Reading a name drops the backticks of
its identifiers; writing it puts backticks around hard keywords and around nothing else. So the
identifiers come back exactly when all of them are plain or could be written plainly:

    text read            segments         text written
    com.`in`.Api         com in Api       com.`in`.Api      the same identifiers
    com.`test`.Api       com test Api     com.test.Api      the same identifiers
    com.`my test`.Api    com my test Api  com.my test.Api   no name
    com.`a.b`.Api        com a.b Api      com.a.b.Api       others
-/

namespace AssistedInjection.Source

open Kotlin

/-- The name of a class as it is written in full: its package, unless that is the default one, and
its simple names, escaped. -/
def escapedName (c : ClassName) : String :=
  ".".intercalate ((if c.package = "" then [] else [dottedName c.package]) ++ c.names.map identifier)

/-- In a file, a class is written as the name by which it can be reached there, escaped. -/
theorem spell_eq_escapedName (i : Imports) (c : ClassName) :
    i.spell c = escapedName (i.written c) := by
  unfold Imports.spell Imports.written escapedName
  split
  · simp [ClassName.names]
  · rename_i full
    have named : c.package ≠ "" := fun default => full (by simp [default])
    have some : c.names.map identifier ≠ [] := by simp [ClassName.names]
    rw [if_neg named, List.singleton_append, String.intercalate_cons_of_ne_nil some]

/-! ### Where backticks stand -/

/-- Characters whose backticks stand around hard keywords. -/
inductive IsEscaped : List Char → Prop
  | nil : IsEscaped []
  | plain {c : Char} {cs : List Char} (other : c ≠ '`') (rest : IsEscaped cs) : IsEscaped (c :: cs)
  | keyword {s : String} {cs : List Char} (hard : s ∈ hardKeywords) (rest : IsEscaped cs) :
    IsEscaped ('`' :: (s.toList ++ '`' :: cs))

theorem isWord_of_mem_hardKeywords {s : String} (hard : s ∈ hardKeywords) : IsWord s := by
  have alone : ∀ s ∈ hardKeywords, .word s ∈ cut s.toList := by decide +kernel
  exact isWord_of_mem_cut (alone s hard)

namespace IsEscaped

variable {a b cs : List Char}

theorem of_not_mem (absent : '`' ∉ cs) : IsEscaped cs := by
  induction cs with
  | nil => exact .nil
  | cons c cs ih =>
    obtain ⟨first, others⟩ := not_or.1 (mt List.mem_cons.2 absent)
    exact .plain (Ne.symm first) (ih others)

theorem append (h : IsEscaped a) (h' : IsEscaped b) : IsEscaped (a ++ b) := by
  induction h with
  | nil => exact h'
  | plain other rest ih => exact .plain other ih
  | keyword hard rest ih => simpa using keyword hard ih

theorem of_cons {c : Char} (h : IsEscaped (c :: cs)) (other : c ≠ '`') : IsEscaped cs := by
  cases h with
  | plain _ rest => exact rest
  | keyword hard rest => exact absurd rfl other

theorem of_append (h : IsEscaped (a ++ b)) (absent : '`' ∉ a) : IsEscaped b := by
  induction a with
  | nil => exact h
  | cons c a ih =>
    obtain ⟨first, others⟩ := not_or.1 (mt List.mem_cons.2 absent)
    exact ih (h.of_cons (Ne.symm first)) others

theorem identifier {s : String} (absent : '`' ∉ s.toList) : IsEscaped (identifier s).toList := by
  unfold Source.identifier
  split
  · rename_i keyword
    simpa using IsEscaped.keyword (List.contains_iff_mem.1 keyword) .nil
  · exact of_not_mem absent

theorem intercalate {xs : List String} (each : ∀ x ∈ xs, IsEscaped x.toList) :
    IsEscaped (".".intercalate xs).toList := by
  induction xs with
  | nil => exact .nil
  | cons x xs ih =>
    obtain ⟨first, others⟩ := List.forall_mem_cons.1 each
    cases xs with
    | nil => rwa [String.intercalate_singleton]
    | cons y ys =>
      rw [String.intercalate_cons_cons, String.toList_append, String.toList_append]
      exact (first.append (of_not_mem (by decide))).append (ih others)

theorem dottedName {p : String} (absent : '`' ∉ p.toList) : IsEscaped (dottedName p).toList := by
  refine intercalate fun x mem => ?_
  obtain ⟨s, segment, rfl⟩ := List.mem_map.1 mem
  exact identifier fun mem => absent (mem_of_mem_segments segment _ mem).1

/-- All identifiers in such characters are plain, or could be. -/
theorem isWord_of_name (h : IsEscaped cs) {t : Token} (mem : t ∈ cut cs) {s : String}
    (named : t.name? = some s) : IsWord s := by
  -- Each step takes layout or a token off the front, and no token ends inside of backticks.
  suffices ∀ start : Nat, IsWord s from this 0
  intro start
  induction start, cs using lexemes.induct with
  | case1 start => simp at mem
  | case2 start c rest layout ih =>
    rw [cut_layout layout] at mem
    cases h with
    | plain other rest => exact ih rest mem
    | keyword hard rest => exact absurd layout (by decide)
  | case3 start c rest dense ih =>
    rw [cut_token dense] at mem
    have whole := h
    rw [← Token.characters_next c rest] at whole
    cases h with
    | plain other inner =>
      have later := whole.of_append (Token.backtick_not_mem_next other)
      rcases List.mem_cons.1 mem with rfl | more
      · cases first : (Token.next c rest).1 with
        | word x =>
          cases first ▸ named
          exact isWord_of_next first
        | quoted x => exact absurd (quoted_of_next first).1 other
        | _ => cases first ▸ named
      · exact ih later more
    | @keyword x cs hard inner =>
      have word := isWord_of_mem_hardKeywords hard
      have next := Token.next_quoted word.ne_empty (word.not_mem (by decide)) cs
      rw [next] at mem ih
      rcases List.mem_cons.1 mem with rfl | more
      · cases named
        exact word
      · exact ih inner more

end IsEscaped

/-! ### Escaped names -/

section

variable {c : ClassName} {ps : List String}

/-- The segments of a class that can be written plainly, joined. -/
theorem escapedName_eq (package : c.package = ".".intercalate ps)
    (words : ∀ s ∈ ps ++ c.names, IsWord s) :
    escapedName c = ".".intercalate ((ps ++ c.names).map identifier) := by
  cases ps with
  | nil => rw [escapedName, package, String.intercalate_nil, if_pos rfl, List.nil_append,
      List.nil_append]
  | cons p ps =>
    have before : ∀ s ∈ p :: ps, IsWord s := fun s mem => words s (List.mem_append_left _ mem)
    have named := intercalate_ne_empty (before p (List.mem_cons_self ..)).ne_empty ps
    have some : c.names.map identifier ≠ [] := by simp [ClassName.names]
    rw [escapedName, package, if_neg named, dottedName_intercalate (by simp) before,
      List.singleton_append, String.intercalate_cons_of_ne_nil some, List.map_append,
      String.intercalate_append_of_ne_nil (by simp) some]

theorem isEscaped_escapedName (package : c.package = ".".intercalate ps)
    (plain : ∀ s ∈ ps ++ c.names, '`' ∉ s.toList) : IsEscaped (escapedName c).toList := by
  have absent : '`' ∉ c.package.toList := by
    rw [package]
    intro mem
    rcases mem_of_mem_intercalate mem with dot | ⟨s, among, mem⟩
    · exact absurd dot (by decide)
    · exact plain s (List.mem_append_left _ among) mem
  refine IsEscaped.intercalate fun x mem => ?_
  rcases List.mem_append.1 mem with front | mem
  · split at front
    · cases front
    · rw [List.mem_singleton.1 front]
      exact .dottedName absent
  · obtain ⟨s, among, rfl⟩ := List.mem_map.1 mem
    exact .identifier (plain s (List.mem_append_right _ among))

/-- A class is read from its escaped name with the segments it has exactly when these can be written
plainly. -/
theorem reads_escapedName_iff (package : c.package = ".".intercalate ps)
    (plain : ∀ s ∈ ps ++ c.names, '`' ∉ s.toList) :
    ((∃ c', ClassName.parse (escapedName c) = .ok c') ∧
        identifiers (escapedName c) = ps ++ c.names) ↔ ∀ s ∈ ps ++ c.names, IsWord s := by
  constructor
  · rintro ⟨-, same⟩ s mem
    obtain ⟨t, among, named⟩ := List.mem_filterMap.1 (same ▸ mem)
    exact (isEscaped_escapedName package plain).isWord_of_name among named
  · intro words
    obtain ⟨first, rest, segments⟩ := c.exists_cons ps
    rw [escapedName_eq package words, segments]
    rw [segments] at words
    exact ⟨⟨_, parse_escaped_segments words⟩,
      identifiers_of_chain (cut_escaped words) (stand_identifierToken (first :: rest))⟩

end

/-- Escaping undoes what reading did to the identifiers of a class exactly when all of them are plain
identifiers without their backticks; then the escaped name is read as the class. The same holds of
the spelling in a file, which leaves out the package of a class that claims its simple name. -/
theorem escapes_undone_iff {text : String} {c : ClassName} (read : ClassName.parse text = .ok c) :
    (((∃ c', ClassName.parse (escapedName c) = .ok c') ∧
        identifiers (escapedName c) = identifiers text) ↔ ∀ s ∈ identifiers text, IsWord s) ∧
      ((∀ s ∈ identifiers text, IsWord s) → ClassName.parse (escapedName c) = .ok c) ∧
      ∀ i : Imports,
        let segments := if i.claims c.container then c.names else identifiers text
        ((∃ c', ClassName.parse (i.spell c) = .ok c') ∧ identifiers (i.spell c) = segments) ↔
          ∀ s ∈ segments, IsWord s := by
  obtain ⟨ps, segments, package, -⟩ := ClassName.exists_identifiers_of_parse read
  have plain : ∀ s ∈ ps ++ c.names, '`' ∉ s.toList := fun s mem =>
    (name_of_mem_identifiers (segments ▸ mem)).2
  have full := reads_escapedName_iff package plain
  rw [segments]
  refine ⟨full, fun words => ?_, fun i => ?_⟩
  · obtain ⟨⟨c', again⟩, same⟩ := full.2 words
    obtain rfl := ClassName.eq_of_identifiers_eq read again (segments.trans same.symm)
    exact again
  · rw [spell_eq_escapedName]
    by_cases claimed : i.claims c.container
    · have short : i.written c = { c with package := "" } := if_pos (by simp [claimed])
      rw [if_pos claimed, short]
      have default : ({ c with package := "" } : ClassName).package = ".".intercalate [] := rfl
      exact reads_escapedName_iff default fun s mem => plain s (List.mem_append_right _ mem)
    · have same : i.written c = c := by
        unfold Imports.written
        split
        · rename_i alone
          have default : c.package = "" := by simpa [claimed] using alone
          rw [← default]
        · rfl
      rwa [if_neg claimed, same]

/-- A package with a hard keyword in it, and a simple name that needs no backticks. -/
theorem escapes_undone_keyword :
    ClassName.parse "com. `in`.`Outer`" = .ok (.topLevel "com.in" "Outer") ∧
      escapedName (.topLevel "com.in" "Outer") = "com.`in`.Outer" ∧
      ClassName.parse "com.`in`.Outer" = .ok (.topLevel "com.in" "Outer") := by
  have read : ClassName.parse "com. `in`.`Outer`" = .ok (.topLevel "com.in" "Outer") := by
    decide +kernel
  have escaped : escapedName (.topLevel "com.in" "Outer") = "com.`in`.Outer" := by decide +kernel
  have named : identifiers "com. `in`.`Outer`" = identifiers "com.in.Outer" := by decide +kernel
  have absent : '`' ∉ "com.in.Outer".toList := by decide
  have words : ∀ s ∈ identifiers "com. `in`.`Outer`", IsWord s := fun s mem =>
    isWord_of_mem_identifiers absent (named ▸ mem)
  exact ⟨read, escaped, escaped ▸ (escapes_undone_iff read).2.1 words⟩

/-- A segment with a blank in it is written so that nothing can be read, and one with a dot in it so
that two are read. -/
theorem escapes_not_undone :
    ClassName.parse "com.`my test`.Api" = .ok (.topLevel "com.my test" "Api") ∧
      (∀ c, ClassName.parse (escapedName (.topLevel "com.my test" "Api")) ≠ .ok c) ∧
      ClassName.parse "com.`a.b`.Api" = .ok (.topLevel "com.a.b" "Api") ∧
      identifiers "com.`a.b`.Api" = ["com", "a.b", "Api"] ∧
      identifiers (escapedName (.topLevel "com.a.b" "Api")) = ["com", "a", "b", "Api"] := by
  have refused :
      (ClassName.parse (escapedName (.topLevel "com.my test" "Api"))).toOption = none := by
    decide +kernel
  refine ⟨by decide +kernel, fun c read => ?_, by decide +kernel, by decide +kernel,
    by decide +kernel⟩
  rw [read] at refused
  cases refused

end AssistedInjection.Source
