import AssistedInjection.Proofs.Kotlin.NamesFromParts
import AssistedInjection.Proofs.Source.Spelling

/-!
The classes that read back from their canonical names. The name is cut where the convention has a
class begin, so it gives the class back if the convention has put the package where it is; and then
all segments are plain identifiers, since nothing in a canonical name is escaped.

    com.test | Outer | Inner     reads back
    com.test | api               reads back: no capital, and the last segment
    com.test | api | Inner       comes back as com.test.api | Inner
    com | Test.Outer             comes back as com | Test | Outer
-/

namespace AssistedInjection.Kotlin.ClassName

open Source

/-- The segments of the package; the default one has none. -/
def packageSegments (c : ClassName) : List String :=
  if c.package = "" then [] else segments c.package

theorem intercalate_packageSegments (c : ClassName) :
    ".".intercalate c.packageSegments = c.package := by
  unfold packageSegments
  split
  · rename_i default
    rw [default, String.intercalate_nil]
  · exact intercalate_segments c.package

/-- A package of plain identifiers has these for its segments. -/
theorem packageSegments_eq {c : ClassName} {ps : List String}
    (package : c.package = ".".intercalate ps) (words : ∀ s ∈ ps, IsWord s) :
    c.packageSegments = ps := by
  rw [packageSegments, package]
  cases ps with
  | nil => rw [String.intercalate_nil, if_pos rfl]
  | cons p ps =>
    rw [if_neg (intercalate_ne_empty (words p (List.mem_cons_self ..)).ne_empty ps)]
    exact segments_intercalate (by simp) fun s mem => (words s mem).not_mem (by decide)

/-- The classes that read back are those whose segments are plain identifiers, cut where the
convention has it. -/
theorem parsesBack_iff_byConvention {c : ClassName} :
    c.parsesBack ↔ ByConvention c.packageSegments c := by
  constructor
  · intro back
    obtain ⟨ps, h⟩ := exists_byConvention back
    rwa [packageSegments_eq h.package fun s mem => h.words s (List.mem_append_left _ mem)]
  · intro h
    obtain ⟨first, rest, segments⟩ := c.exists_cons c.packageSegments
    exact parsesBack_iff.2 ⟨first, rest, segments ▸ h.words, (h.ofSegments segments).symm⟩

/-- Without backticks, a text that is read as a class is its canonical name, but for the layout. -/
theorem toList_canonical_of_parse {text : String} {c : ClassName} (absent : '`' ∉ text.toList)
    (read : parse text = .ok c) : c.canonical.toList = text.toList.filter (!isLayout ·) := by
  obtain ⟨first, rest, s, ss, split, stand, -⟩ := parse_eq_ok_iff.1 read
  have plain : ∀ ch ∈ c.canonical.toList, ch ≠ '`' ∧ ¬ isLayout ch := by
    rw [canonical_of_parse read]
    exact plain_intercalate fun x mem => isWord_of_mem_identifiers absent mem
  have same : cut c.canonical.toList = cut text.toList := by
    rw [canonical_of_parse read]
    exact cut_intercalate_identifiers split stand absent
  rw [← filter_eq_of_cut_eq same (fun mem => (plain _ mem).1 rfl) absent,
    filter_eq_self_of_plain plain]

/-- A class reads back from its canonical name exactly when its segments are plain identifiers and
case tells where it begins: no segment of the package starts with a capital and the outermost class
does, or nothing does and the class is nested in no other. A text without backticks that is read as
a class is the canonical name of the class, but for the layout, and the class reads back. -/
theorem parsesBack_iff_capitals :
    (∀ c : ClassName, c.parsesBack ↔
      (∀ s ∈ c.packageSegments ++ c.names, IsWord s) ∧
        ((∀ s ∈ c.packageSegments, ¬ startsClass s) ∧ startsClass c.outermost ∨
          c.nested = [] ∧ ∀ s ∈ c.outermost :: c.packageSegments, ¬ startsClass s)) ∧
    ∀ text c, '`' ∉ text.toList → parse text = .ok c →
      c.canonical = .ofList (text.toList.filter (!isLayout ·)) ∧ c.parsesBack := by
  refine ⟨fun c => ?_, fun text c absent read => ⟨?_, ?_⟩⟩
  · rw [parsesBack_iff_byConvention]
    constructor
    · intro h
      refine ⟨h.words, ?_⟩
      by_cases capital : startsClass c.outermost
      · exact .inl ⟨h.lower, capital⟩
      · exact .inr ⟨h.capital.resolve_left capital, List.forall_mem_cons.2 ⟨capital, h.lower⟩⟩
    · rintro ⟨words, ⟨lower, capital⟩ | ⟨top, lower⟩⟩
      · exact ⟨words, c.intercalate_packageSegments.symm, lower, .inl capital⟩
      · obtain ⟨-, lower⟩ := List.forall_mem_cons.1 lower
        exact ⟨words, c.intercalate_packageSegments.symm, lower, .inr top⟩
  · rw [← toList_canonical_of_parse absent read, String.ofList_toList]
  · have spells := parse_eq_ok_iff.1 read
    exact parsesBack_iff.2 (spells.madeOf.words (plain_cut absent))

/-- A class with a dot inside a name does not read back, and a text with layout in it reads as the
class that is written without. -/
theorem parsesBack_iff_capitals_hidden_dot :
    ¬ (ClassName.topLevel "com" "Test.Outer").parsesBack ∧
      parse " com\n. test.Outer .inner" = .ok ⟨"com.test", "Outer", ["inner"]⟩ ∧
      (⟨"com.test", "Outer", ["inner"]⟩ : ClassName).parsesBack := by
  have read : parse " com\n. test.Outer .inner" = .ok ⟨"com.test", "Outer", ["inner"]⟩ := by
    decide +kernel
  refine ⟨fun back => ?_, read, (parsesBack_iff_capitals.2 _ _ (by decide) read).2⟩
  have word := ((parsesBack_iff_capitals.1 _).1 back).1 "Test.Outer" (by decide +kernel)
  exact word.not_mem (c := '.') (by decide) (by decide)

end AssistedInjection.Kotlin.ClassName
