import AssistedInjection.Proofs.Source.Literals
import AssistedInjection.Proofs.Source.Resolution

/-!
Lines of source. Text without quotes and line breaks stays on one line, and so does the spelling of
a class whose names are such; lines that are written one below the other are found again, whatever
stands behind them.

    unlines ["import a.B", ""]  ++  "@C ..."     ──▶     "import a.B"   ""   "@C ..."
-/

namespace AssistedInjection.Source

open Kotlin

/-! ### Text without quotes and line breaks -/

/-- Text without quotes and line breaks. -/
def IsBare (s : String) : Prop := ∀ c ∈ s.toList, c ≠ '"' ∧ ¬ isLineBreak c

instance (s : String) : Decidable (IsBare s) := List.decidableBAll _ s.toList

/-- A class whose package and simple names are free of quotes and line breaks. -/
def IsBareClass (c : ClassName) : Prop := ∀ s ∈ c.package :: c.names, IsBare s

instance (c : ClassName) : Decidable (IsBareClass c) :=
  inferInstanceAs (Decidable (∀ s ∈ c.package :: c.names, _))

theorem isBare_append {s t : String} : IsBare (s ++ t) ↔ IsBare s ∧ IsBare t := by
  simp only [IsBare, String.toList_append, List.forall_mem_append]

/-- A plain identifier is bare. -/
theorem isBare_of_isWord {s : String} (word : IsWord s) : IsBare s := by
  intro c mem
  constructor
  · rintro rfl
    exact word.not_mem (by decide) mem
  · intro lineBreak
    refine not_isLayout_of_continuesWord (word.continues c mem) ?_
    simp only [isLineBreak, isLayout, Bool.or_eq_true] at lineBreak ⊢
    tauto

theorem IsBare.intercalate {ss : List String} (each : ∀ s ∈ ss, IsBare s) :
    IsBare (".".intercalate ss) := by
  intro c mem
  rcases mem_of_mem_intercalate mem with rfl | ⟨s, among, mem⟩
  · decide
  · exact each s among c mem

theorem IsBare.identifier {s : String} (bare : IsBare s) : IsBare (identifier s) := by
  have tick : IsBare "`" := by decide
  unfold Source.identifier
  split
  · exact isBare_append.2 ⟨isBare_append.2 ⟨tick, bare⟩, tick⟩
  · exact bare

theorem IsBare.dottedName {s : String} (bare : IsBare s) : IsBare (dottedName s) := by
  refine .intercalate fun t mem => ?_
  obtain ⟨segment, among, rfl⟩ := List.mem_map.1 mem
  exact IsBare.identifier fun c mem => bare c (mem_of_mem_segments among c mem).1

namespace IsBareClass

variable {c : ClassName}

theorem of_parsesBack (back : c.parsesBack) : IsBareClass c := by
  obtain ⟨ps, h⟩ := exists_byConvention back
  have word : ∀ s ∈ ps ++ c.names, IsBare s := fun s mem => isBare_of_isWord (h.words s mem)
  obtain ⟨package, names⟩ := List.forall_mem_append.1 word
  exact List.forall_mem_cons.2 ⟨h.package ▸ .intercalate package, names⟩

theorem container (bare : IsBareClass c) : IsBareClass c.container := by
  intro s mem
  refine bare s ?_
  simp only [ClassName.container, ClassName.topLevel, ClassName.names, List.mem_cons] at mem ⊢
  exact mem.imp_right fun single => .inl (by simpa using single)

theorem canonical (bare : IsBareClass c) : IsBare c.canonical := by
  refine .intercalate fun s mem => bare s ?_
  split at mem
  · exact List.mem_cons_of_mem _ mem
  · exact mem

theorem simpleName (bare : IsBareClass c) : IsBare c.simpleName :=
  bare _ (List.mem_cons_of_mem _ c.simpleName_mem_names)

theorem spell (bare : IsBareClass c) (i : Imports) : IsBare (i.spell c) := by
  have simple : IsBare (".".intercalate (c.names.map identifier)) := by
    refine .intercalate fun t mem => ?_
    obtain ⟨s, among, rfl⟩ := List.mem_map.1 mem
    exact (bare s (List.mem_cons_of_mem _ among)).identifier
  have package : IsBare (dottedName c.package) := (bare _ (List.mem_cons_self ..)).dottedName
  unfold Imports.spell
  split
  · exact simple
  · exact isBare_append.2 ⟨isBare_append.2 ⟨package, by decide⟩, simple⟩

end IsBareClass

/-! ### Lines -/

/-- The lines of a text. -/
def linesOf (cs : List Char) : List (List Char) := cs.splitOnP isLineBreak

/-- Lines one below the other, each with a line break at its end. -/
def unlines (ls : List String) : String := String.join (ls.map (· ++ "\n"))

theorem unlines_cons (l : String) (ls : List String) :
    unlines (l :: ls) = l ++ "\n" ++ unlines ls := by
  simp [unlines]

theorem unlines_append (ls ls' : List String) :
    unlines (ls ++ ls') = unlines ls ++ unlines ls' := by
  simp [unlines]

/-- A line ends at the first line break. -/
theorem linesOf_cons {line : List Char} (whole : ∀ c ∈ line, ¬ isLineBreak c) (rest : List Char) :
    linesOf (line ++ '\n' :: rest) = line :: linesOf rest := by
  have plain : ∀ c ∈ line, isLineBreak c = false := fun c mem => Bool.eq_false_iff.2 (whole c mem)
  exact List.splitOnP_append_cons_of_forall_mem plain '\n' (by decide) rest

theorem linesOf_unlines {ls : List String} (bare : ∀ l ∈ ls, IsBare l) (rest : List Char) :
    linesOf ((unlines ls).toList ++ rest) = ls.map String.toList ++ linesOf rest := by
  induction ls with
  | nil => rfl
  | cons l ls ih =>
    obtain ⟨first, others⟩ := List.forall_mem_cons.1 bare
    have split : (unlines (l :: ls)).toList ++ rest
        = l.toList ++ '\n' :: ((unlines ls).toList ++ rest) := by
      simp [unlines_cons]
    rw [split, linesOf_cons fun c mem => (first c mem).2, ih others, List.map_cons,
      List.cons_append]

end AssistedInjection.Source
