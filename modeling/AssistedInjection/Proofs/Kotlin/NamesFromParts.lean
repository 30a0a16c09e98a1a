import AssistedInjection.Proofs.Checks
import AssistedInjection.Proofs.Kotlin.Characters
import AssistedInjection.Proofs.Kotlin.Names

/-!
Class names from a package and simple names, beside class names from one text. Either way the
backticks and the layout of a simple name are dropped; those of a package are dropped only by
reading it as part of the text.

    "com.`in`", "`Foo`"       from parts   ──▶   com.`in`   Foo
    "com.`in`.`Foo`"          as one text  ──▶   com.in     Foo
-/

namespace AssistedInjection.Kotlin

open Checks Grammar

/-- The identifiers in a text, without their backticks. -/
def identifiers (text : String) : List String := (tokens text).filterMap Token.name?

/-- A dotted name is read as its identifiers. -/
theorem identifiers_of_chain {text : String} {first : Token} {rest : List Token}
    (split : tokens text = chain first rest) {ss : List String}
    (stand : Stand (first :: rest) ss) : identifiers text = ss := by
  obtain ⟨s, ss, name, names, rfl⟩ := List.forall₂_cons_left_iff.1 stand
  have more : (rest.flatMap fun t => [Token.dot, t]).filterMap Token.name? = ss := by
    clear split stand
    induction names with
    | nil => rfl
    | cons named _ ih =>
      rw [List.flatMap_cons, List.filterMap_append, ih, List.filterMap_cons_none rfl,
        List.filterMap_cons_some named]
      rfl
  rw [identifiers, split, chain, List.filterMap_cons_some name, more]

/-- Identifiers are not empty and have no backticks in them. -/
theorem name_of_mem_identifiers {text s : String} (mem : s ∈ identifiers text) :
    s ≠ "" ∧ '`' ∉ s.toList := by
  obtain ⟨t, among, named⟩ := List.mem_filterMap.1 mem
  exact name_of_mem_cut among named

/-- Without backticks in the text, the identifiers are plain ones. -/
theorem isWord_of_mem_identifiers {text s : String} (absent : '`' ∉ text.toList)
    (mem : s ∈ identifiers text) : IsWord s := by
  obtain ⟨t, among, named⟩ := List.mem_filterMap.1 mem
  exact (plain_cut absent t among s named).2

/-- Nothing marks plain identifiers that are joined by dots. -/
theorem plain_intercalate {ss : List String} (words : ∀ s ∈ ss, IsWord s) :
    ∀ ch ∈ (".".intercalate ss).toList, ch ≠ '`' ∧ ¬ isLayout ch := by
  intro ch mem
  rcases mem_of_mem_intercalate mem with rfl | ⟨s, among, mem⟩
  · decide
  · refine ⟨?_, not_isLayout_of_continuesWord ((words s among).continues ch mem)⟩
    rintro rfl
    exact (words s among).not_mem (by decide) mem

/-- The identifiers of a dotted name that nothing is escaped in, joined by dots, have the tokens of
the name. -/
theorem cut_intercalate_identifiers {text : String} {first : Token} {rest : List Token}
    (split : tokens text = chain first rest) {s : String} {ss : List String}
    (stand : Stand (first :: rest) (s :: ss)) (absent : '`' ∉ text.toList) :
    cut (".".intercalate (identifiers text)).toList = tokens text := by
  have named := identifiers_of_chain split stand
  have words : ∀ x ∈ s :: ss, IsWord x := fun x mem =>
    isWord_of_mem_identifiers absent (named ▸ mem)
  have plain : Plain (first :: rest) := fun t mem =>
    plain_cut absent t (split ▸ mem_chain mem : t ∈ tokens text)
  have written : first :: rest = (s :: ss).map .word := (plain.stand stand).1
  obtain ⟨rfl, rfl⟩ := List.cons.inj written
  rw [named, ClassName.cut_words words, split]

/-- A dotted name is its identifiers joined by dots exactly when nothing is escaped in it and there
is no layout. -/
theorem intercalate_identifiers_eq_iff {text : String} {x : String × List String}
    (read : readWhole .qualifiedName dotted text = .ok x) :
    ".".intercalate (identifiers text) = text ↔
      ∀ ch ∈ text.toList, ch ≠ '`' ∧ ¬ isLayout ch := by
  constructor
  · intro joined
    have absent : '`' ∉ text.toList := by
      rw [← joined]
      intro mem
      rcases mem_of_mem_intercalate mem with dot | ⟨s, among, mem⟩
      · exact absurd dot (by decide)
      · exact (name_of_mem_identifiers among).2 mem
    rw [← joined]
    exact plain_intercalate fun s mem => isWord_of_mem_identifiers absent mem
  · -- Both texts are nothing but their tokens, and these are the same.
    intro plain
    have absent : '`' ∉ text.toList := fun mem => (plain _ mem).1 rfl
    obtain ⟨first, rest, split, stand⟩ := readWhole_dotted_eq_ok_iff.1 read
    have joined : ∀ ch ∈ (".".intercalate (identifiers text)).toList, ch ≠ '`' ∧ ¬ isLayout ch :=
      plain_intercalate fun s mem => isWord_of_mem_identifiers absent mem
    rw [← String.toList_inj]
    exact eq_of_cut_eq (cut_intercalate_identifiers split stand absent) joined plain

namespace ClassName

/-- The identifiers of a text that is read as a class are the segments of its package and its simple
names, cut where the class begins. -/
theorem exists_identifiers_of_parse {text : String} {c : ClassName} (read : parse text = .ok c) :
    ∃ ps, identifiers text = ps ++ c.names ∧ c.package = ".".intercalate ps ∧
      (∀ s ∈ ps, ¬ startsClass s) ∧ (startsClass c.outermost ∨ c.nested = []) := by
  obtain ⟨first, rest, s, ss, split, stand, rfl⟩ := parse_eq_ok_iff.1 read
  obtain ⟨ps, segments, package, lower, begins⟩ := exists_segments s ss
  exact ⟨ps, (identifiers_of_chain split stand).trans segments.symm, package, lower, begins⟩

/-- Texts with the same identifiers are read as the same class. -/
theorem eq_of_identifiers_eq {text text' : String} {c c' : ClassName} (read : parse text = .ok c)
    (read' : parse text' = .ok c') (same : identifiers text = identifiers text') : c = c' := by
  obtain ⟨_, _, s, ss, split, stand, rfl⟩ := parse_eq_ok_iff.1 read
  obtain ⟨_, _, s', ss', split', stand', rfl⟩ := parse_eq_ok_iff.1 read'
  rw [identifiers_of_chain split stand, identifiers_of_chain split' stand'] at same
  obtain ⟨rfl, rfl⟩ := List.cons.inj same
  rfl

/-- The canonical name of a class that is read from a text is the identifiers of the text, joined by
dots. -/
theorem canonical_of_parse {text : String} {c : ClassName} (read : parse text = .ok c) :
    c.canonical = ".".intercalate (identifiers text) := by
  obtain ⟨first, rest, s, ss, split, stand, rfl⟩ := parse_eq_ok_iff.1 read
  have named := identifiers_of_chain split stand
  rw [named, canonical_ofSegments fun x mem => (name_of_mem_identifiers (named ▸ mem)).1]

/-- A package can be the default one, or any dotted name. -/
theorem checkPackage_eq_ok_iff {p : String} :
    checkPackage p = .ok () ↔ p = "" ∨ ∃ x, readWhole .qualifiedName dotted p = .ok x := by
  unfold checkPackage
  by_cases default : p = ""
  · simp [default, pure, Except.pure]
  · rw [if_pos default, bind_eq_ok_iff]
    simp [default, pure_eq_ok_iff]

/-- A class is made of parts exactly when they can be read: the package is kept as it is written,
and of the simple names their identifiers. -/
theorem ofParts_eq_ok_iff {p : String} {names : List String} {c : ClassName} :
    ofParts p names = .ok c ↔
      (p = "" ∨ ∃ x, readWhole .qualifiedName dotted p = .ok x) ∧ c.package = p ∧
        List.Forall₂ (fun text s => parseSimple text = .ok s) names c.names := by
  rw [ofParts, bind_eq_ok_iff, ← checkPackage_eq_ok_iff]
  simp only [bind_eq_ok_iff, mapM_eq_ok_iff]
  obtain ⟨package, outermost, nested⟩ := c
  constructor
  · rintro ⟨⟨⟩, checked, _ | ⟨s, ss⟩, read, made⟩
    · cases made
    · cases made
      exact ⟨checked, rfl, read⟩
  · rintro ⟨checked, rfl, read⟩
    exact ⟨(), checked, _, read, rfl⟩

/-- Simple names are texts of one identifier each. -/
theorem exists_single {xs ss : List String}
    (read : List.Forall₂ (fun x s => parseSimple x = .ok s) xs ss) :
    ∃ ts, Single xs ts ∧ Stand ts ss := by
  induction read with
  | nil => exact ⟨[], .nil, .nil⟩
  | cons first _ ih =>
    obtain ⟨t, single, named⟩ := parseSimple_eq_ok_iff.1 first
    obtain ⟨ts, singles, stand⟩ := ih
    exact ⟨t :: ts, .cons single singles, .cons named stand⟩

/-- One text for a package and simple names that make a class is read as the package's identifiers
and the same simple names, if case tells where the class begins. -/
theorem parse_joined {p : String} {names : List String} {c : ClassName} (some : p ≠ "")
    (made : ofParts p names = .ok c) (lower : ∀ s ∈ identifiers p, ¬ startsClass s)
    (capital : startsClass c.outermost) :
    parse (".".intercalate (p :: names))
      = .ok ⟨".".intercalate (identifiers p), c.outermost, c.nested⟩ := by
  obtain ⟨accepted, -, simple⟩ := ofParts_eq_ok_iff.1 made
  obtain ⟨x, read⟩ := accepted.resolve_left some
  obtain ⟨first, rest, split, stand⟩ := readWhole_dotted_eq_ok_iff.1 read
  obtain ⟨ts, single, standing⟩ := exists_single simple
  have whole : ∀ y ∈ p :: names, ∀ c, .stray c ∉ cut y.toList := by
    have package : Spells (tokens p) (ofSegments x.1 x.2) :=
      ⟨first, rest, x.1, x.2, split, stand, rfl⟩
    refine List.forall_mem_cons.2 ⟨package.whole, whole_of_single single fun t mem => ?_⟩
    obtain ⟨s, -, named⟩ := exists_of_forall₂ standing.flip t mem
    rw [named, Option.isSome_some]
  -- The simple names go on with the chain that the package begins.
  have tokens : tokens (".".intercalate (p :: names)) = chain first (rest ++ ts) := by
    rw [chain_append, ← split, ← flatMap_single single]
    exact cut_joined whole
  have together : Stand (first :: (rest ++ ts)) (x.1 :: (x.2 ++ c.names)) :=
    List.rel_append stand standing
  rw [identifiers_of_chain split stand] at lower ⊢
  refine parse_eq_ok_iff.2 ⟨first, rest ++ ts, x.1, x.2 ++ c.names, tokens, together, ?_⟩
  exact (ofSegments_eq (c := ⟨_, c.outermost, c.nested⟩) rfl lower (.inl capital) rfl).symm

/-- A class that is made of parts is read from one text, as itself exactly when nothing in the
package is escaped and there is no layout in it; how its simple names are written does not matter.
Otherwise the text names another class, in the package of the plain identifiers. -/
theorem parse_joined_parts {p : String} {names : List String} {c : ClassName} (some : p ≠ "")
    (made : ofParts p names = .ok c) (lower : ∀ s ∈ identifiers p, ¬ startsClass s)
    (capital : startsClass c.outermost) :
    parse (".".intercalate (p :: names))
        = .ok ⟨".".intercalate (identifiers p), c.outermost, c.nested⟩ ∧
      (parse (".".intercalate (p :: names)) = ofParts p names ↔
        ∀ ch ∈ p.toList, ch ≠ '`' ∧ ¬ isLayout ch) := by
  obtain ⟨accepted, package, -⟩ := ofParts_eq_ok_iff.1 made
  obtain ⟨x, read⟩ := accepted.resolve_left some
  have joined := parse_joined some made lower capital
  refine ⟨joined, ?_⟩
  rw [joined, made, ← intercalate_identifiers_eq_iff read]
  obtain ⟨_, outermost, nested⟩ := c
  obtain rfl := package
  simp

/-- A package with layout in it and an escaped simple name. -/
theorem parse_joined_parts_escaped :
    ofParts "com . test" [" `Outer`", "in"] = .ok ⟨"com . test", "Outer", ["in"]⟩ ∧
      parse "com . test. `Outer`.in" = .ok ⟨"com.test", "Outer", ["in"]⟩ := by
  have made : ofParts "com . test" [" `Outer`", "in"] = .ok ⟨"com . test", "Outer", ["in"]⟩ := by
    decide +kernel
  have named : identifiers "com . test" = ["com", "test"] := by decide +kernel
  have joined := (parse_joined_parts (by decide) made (by rw [named]; decide) (by decide)).1
  rw [named] at joined
  exact ⟨made, joined⟩

/-- An escaped segment of a package stays escaped when the class is made of parts, and does not when
it is read from one text. -/
theorem ofParts_ne_parse_joined :
    ofParts "com.`in`" ["Foo"] = .ok ⟨"com.`in`", "Foo", []⟩ ∧
      (∀ s ∈ identifiers "com.`in`", ¬ startsClass s) ∧ startsClass "Foo" ∧
      parse (".".intercalate ["com.`in`", "Foo"]) = .ok ⟨"com.in", "Foo", []⟩ ∧
      ofParts "com.`in`" ["Foo"] ≠ parse (".".intercalate ["com.`in`", "Foo"]) := by
  have made : ofParts "com.`in`" ["Foo"] = .ok ⟨"com.`in`", "Foo", []⟩ := by decide +kernel
  have read : parse (".".intercalate ["com.`in`", "Foo"]) = .ok ⟨"com.in", "Foo", []⟩ := by
    decide +kernel
  have named : identifiers "com.`in`" = ["com", "in"] := by decide +kernel
  refine ⟨made, by rw [named]; decide, by decide, read, ?_⟩
  rw [made, read]
  decide

end ClassName

end AssistedInjection.Kotlin
