import AssistedInjection.Proofs.Kotlin.Completeness
import AssistedInjection.Proofs.Kotlin.Reprinting
import AssistedInjection.Proofs.Source.Segments

/-!
Types and their texts. A text that spells the classes of a type is read as the type with the classes
that are meant; and the types that are read back from their own texts are those whose classes read
back, and in which no receiver could be taken for the keyword.

    (suspend.A) -> b.B      read back
    suspend.A.() -> b.B     refused: nothing can follow the keyword with a dot
-/

namespace AssistedInjection.Kotlin

open Grammar

/-- A type is read back from any text that spells its classes, as the type with the classes that are
meant. -/
theorem TypeExpr.parse_write {spelling : ClassName → String} {meant : ClassName → ClassName}
    {t : TypeExpr} (readable : Readable (spelledTokens spelling) meant t) :
    parse (t.write spelling) = .ok (t.mapNames meant) := by
  have printed : tokens (t.write spelling) = layout (spelledTokens spelling) t.pieces :=
    tokens_write fun c mem => (readable.spells c mem).whole
  rw [parse_eq_ok_iff, printed]
  exact readable.prints.spells

/-! ### Class names in full -/

/-- The first token of a name that reads back is its first segment. -/
theorem head?_inFull {c : ClassName} (back : c.parsesBack) :
    (inFull c).head? = (Source.segments c.canonical).head?.map .word := by
  obtain ⟨first, rest, words, rfl⟩ := ClassName.parsesBack_iff.1 back
  have canonical := ClassName.canonical_ofSegments fun s mem => (words s mem).ne_empty
  have segments : Source.segments (ClassName.ofSegments first rest).canonical = first :: rest := by
    rw [canonical]
    exact Source.segments_intercalate (by simp) fun s mem => (words s mem).not_mem (by decide)
  rw [segments, inFull, spelledTokens, canonical, ClassName.cut_words words]
  rfl

theorem head?_inFull_ne_suspend_iff {c : ClassName} (back : c.parsesBack) :
    (inFull c).head? ≠ some (.word "suspend") ↔
      (Source.segments c.canonical).head? ≠ some "suspend" := by
  rw [head?_inFull back]
  cases (Source.segments c.canonical).head? <;> simp

namespace TypeExpr

variable {t : TypeExpr}

theorem mem_classNames_of_leadingClass? {c : ClassName} (leading : c ∈ t.leadingClass?) :
    c ∈ t.classNames := by
  rcases t with _ | ⟨_ | ⟨d, as, q⟩ | _, ps, t, q, _ | _⟩ <;> cases leading
  exact mem_classNames_functionType.2 (.inl ⟨_, rfl, mem_classNames_classType.2 (.inl rfl)⟩)

/-- There are no backticks in the text of a type without some in the names of its classes. -/
theorem not_mem_text (plain : ∀ c ∈ t.classNames, '`' ∉ c.canonical.toList) :
    '`' ∉ t.text.toList := by
  have fixed : ∀ s ∈ fixedTexts, '`' ∉ s.toList := by decide
  intro mem
  rw [text, write, String.toList_join, List.mem_flatMap] at mem
  obtain ⟨_, among, mem⟩ := mem
  obtain ⟨p, piece, rfl⟩ := List.mem_map.1 among
  have among := t.among_pieces p piece
  cases p with
  | text s => exact fixed s among mem
  | name c => exact plain c among mem

/-- Types that are read from their own texts have classes that read back: the classes are made of
identifiers in the text, so they have no backticks in their names; then the text has none either,
and all identifiers in it are plain. -/
theorem plain_of_covers (covers : CoversType (tokens t.text) t) :
    Plain (tokens t.text) ∧ ∀ c ∈ t.classNames, c.parsesBack := by
  have plain : Plain (tokens t.text) :=
    plain_cut (not_mem_text fun c mem => (covers.made c mem).not_mem_canonical)
  exact ⟨plain, fun c mem => ClassName.parsesBack_iff.2 ((covers.made c mem).words plain)⟩

/-- The types that are read back from their own texts: every class reads back from its canonical
name, and no function type that has no keyword has as its receiver a class whose name begins with
`suspend`. -/
theorem parse_text_eq_ok_iff (t : TypeExpr) :
    parse t.text = .ok t ↔
      (∀ c ∈ t.classNames, c.parsesBack) ∧
        ∀ u ∈ t.parts, ∀ c ∈ u.leadingClass?,
          (Source.segments c.canonical).head? ≠ some "suspend" := by
  have back (all : ∀ c ∈ t.classNames, c.parsesBack) {u : TypeExpr} (part : u ∈ t.parts)
      {c : ClassName} (leading : c ∈ u.leadingClass?) : c.parsesBack :=
    all c (mem_classNames_of_mem_parts part (mem_classNames_of_leadingClass? leading))
  constructor
  · intro read
    obtain ⟨used, split, covers⟩ := covers_type _ _ _ _ (readWhole_eq_ok_iff.1 read)
    obtain rfl : tokens t.text = used := by rw [split, List.append_nil]
    obtain ⟨plain, all⟩ := plain_of_covers covers
    -- What was read is what is printed, so nothing was lost on the way, not even a keyword.
    have printed : tokens t.text = layout inFull t.pieces :=
      tokens_write fun c mem => (ClassName.parsesBack_iff_spells.1 (all c mem)).whole
    refine ⟨all, fun u part c leading => ?_⟩
    exact (head?_inFull_ne_suspend_iff (back all part leading)).1
      (covers.same plain printed u part c leading)
  · rintro ⟨all, clear⟩
    have readable : Readable inFull id t :=
      ⟨fun c mem => ClassName.parsesBack_iff_spells.1 (all c mem), fun u part c leading =>
        (head?_inFull_ne_suspend_iff (back all part leading)).2 (clear u part c leading)⟩
    rw [text, parse_write readable, mapNames_eq_self (f := id) fun c _ => rfl]

example :
    (parse "(suspend.A) -> b.B").toOption
        = some (.arrow [.ofClass (.topLevel "suspend" "A")] (.ofClass (.topLevel "b" "B"))) ∧
      (parse "suspend.A.() -> b.B").toOption = none := by
  decide +kernel

end TypeExpr

end AssistedInjection.Kotlin
