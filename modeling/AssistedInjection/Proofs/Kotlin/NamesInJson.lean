import AssistedInjection.Proofs.Kotlin.NamesFromParts
import AssistedInjection.Proofs.Manifest

/-!
Class names that come back from JSON. One that its canonical name leads back to comes back in any
case. Another is written in parts, and read back the package is kept as it is written and the simple
names lose their backticks and layout; so it comes back if there is none to lose.

    class name               written                                       comes back
    com.test  Outer          "com.test.Outer"                              always
    com.My.`in`  Outer       {"package": "com.My.`in`", "names": [..]}     if the package is dotted
    com.test  `Outer`        {"package": "com.test", "names": [..]}        never: as Outer
-/

namespace AssistedInjection.Kotlin

open Grammar

namespace ClassName

/-- A simple name is read as itself exactly when it is a plain identifier. -/
theorem parseSimple_self_iff {s : String} : parseSimple s = .ok s ↔ IsWord s := by
  rw [parseSimple_eq_ok_iff]
  constructor
  · rintro ⟨t, single, named⟩
    have mem : t ∈ tokens s := single ▸ List.mem_singleton_self t
    exact (plain_cut (name_of_mem_cut mem named).2 t mem s named).2
  · intro word
    exact ⟨.word s, word.cut, rfl⟩

/-- A class is made of its own parts exactly when its package is a dotted name, if it is not the
default one, and its simple names are plain identifiers. -/
theorem ofParts_self_iff {c : ClassName} :
    ofParts c.package c.names = .ok c ↔
      (c.package = "" ∨ ∃ x, readWhole .qualifiedName dotted c.package = .ok x) ∧
        ∀ s ∈ c.names, IsWord s := by
  simp only [ofParts_eq_ok_iff, true_and, List.forall₂_same, parseSimple_self_iff]

theorem ofString_compact_iff {c : ClassName} :
    form.ofString c.toJson.compact = .ok c ↔ ofJson c.toJson = .ok c :=
  (Json.Form.ofString_compact_iff form_writesWhole c).trans (@form_readsBack_iff 125 c)

/-- A class that is made of plain identifiers for its simple names has them as they are. -/
theorem isWord_of_ofParts {p : String} {names : List String} {c : ClassName}
    (made : ofParts p names = .ok c) (plain : ∀ x ∈ names, '`' ∉ x.toList) :
    ∀ s ∈ c.names, IsWord s := by
  obtain ⟨-, -, simple⟩ := ofParts_eq_ok_iff.1 made
  intro s mem
  obtain ⟨x, among, read⟩ := exists_of_forall₂ simple s mem
  obtain ⟨t, single, named⟩ := parseSimple_eq_ok_iff.1 read
  exact (plain_cut (plain x among) t (single ▸ List.mem_singleton_self t : t ∈ tokens x) s named).2

/-- A class comes back from its JSON exactly when its canonical name leads back to it, or its
package is the default one or a dotted name and all its simple names are plain identifiers. So do
all classes that are made of parts without escaped simple names, and all that are read from a text
without backticks. -/
theorem reads_back_from_json (c : ClassName) :
    (form.ofString c.toJson.compact = .ok c ↔
      c.parsesBack ∨
        (c.package = "" ∨ ∃ x, readWhole .qualifiedName dotted c.package = .ok x) ∧
          ∀ s ∈ c.names, IsWord s) ∧
    (∀ p names, (∀ x ∈ names, '`' ∉ x.toList) → ofParts p names = .ok c →
      form.ofString c.toJson.compact = .ok c) ∧
    ∀ text, '`' ∉ text.toList → parse text = .ok c → form.ofString c.toJson.compact = .ok c := by
  have back : form.ofString c.toJson.compact = .ok c ↔
      c.parsesBack ∨
        (c.package = "" ∨ ∃ x, readWhole .qualifiedName dotted c.package = .ok x) ∧
          ∀ s ∈ c.names, IsWord s := by
    rw [ofString_compact_iff, ← ofParts_self_iff]
    by_cases whole : c.parsesBack
    · exact iff_of_true (ofJson_toJson_of_parsesBack whole) (.inl whole)
    · rw [ofJson_toJson_iff_of_not_parsesBack whole, or_iff_right whole]
  refine ⟨back, fun p names plain made => ?_, fun text absent read => ?_⟩
  · obtain ⟨accepted, rfl, -⟩ := ofParts_eq_ok_iff.1 made
    exact back.2 (.inr ⟨accepted, isWord_of_ofParts made plain⟩)
  · have spells := parse_eq_ok_iff.1 read
    exact back.2 (.inl (parsesBack_iff.2 (spells.madeOf.words (plain_cut absent))))

/-- A class whose package stays escaped, and one whose package loses its layout. -/
theorem reads_back_from_json_escaped_package :
    let kept : ClassName := ⟨"com. `in`", "Outer", ["Inner"]⟩
    let read : ClassName := ⟨"com.test", "Outer", []⟩
    ofParts "com. `in`" ["Outer", " Inner "] = .ok kept ∧
      form.ofString kept.toJson.compact = .ok kept ∧
      parse " com . test.Outer" = .ok read ∧ form.ofString read.toJson.compact = .ok read := by
  intro kept read
  have made : ofParts "com. `in`" ["Outer", " Inner "] = .ok kept := by decide +kernel
  have parsed : parse " com . test.Outer" = .ok read := by decide +kernel
  exact ⟨made, (reads_back_from_json kept).2.1 _ _ (by decide) made, parsed,
    (reads_back_from_json read).2.2 _ (by decide) parsed⟩

end ClassName

end AssistedInjection.Kotlin
