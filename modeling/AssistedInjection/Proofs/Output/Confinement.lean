import AssistedInjection.Proofs.Kotlin.NamesFromParts
import AssistedInjection.Proofs.Output.Place
import AssistedInjection.Source.Factory

/-!
Where files of classes that were read from texts can go. An identifier in backticks can have slashes
in it, and these come through to the path, where they may lead anywhere:

    com.`a.b`.`My Api`     out/com/a/b/My Api_AssistedFactory.kt     below the root
    com.`/tmp/Api`         /tmp/Api_AssistedFactory.kt               another root
    `../Api`               out/../Api_AssistedFactory.kt             beside the root

Nothing else can go wrong: without a slash in the package and the innermost simple name the file is
below the root, and a write leaves everything as it is that is not.
-/

namespace AssistedInjection.Output

open Source Kotlin

/-! ### Steps down -/

theorem toList_prefix_extend {base s : String} (h : IsComponent s) :
    base.toList <+: (extend base s).toList := by
  have relative : s.toList.head? ≠ some '/' := fun first => h.slash (List.mem_of_head? first)
  unfold extend
  rw [if_neg relative]
  split
  · rw [String.toList_append]
    exact List.prefix_append ..
  · rw [String.append_assoc, String.toList_append]
    exact List.prefix_append ..

/-- The path of steps down from a root begins with the root. -/
theorem toList_prefix_foldl_extend {ss : List String} (down : ∀ s ∈ ss, IsComponent s)
    (root : String) : root.toList <+: (ss.foldl extend root).toList := by
  induction ss generalizing root with
  | nil => exact List.prefix_rfl
  | cons s ss ih =>
    obtain ⟨first, rest⟩ := List.forall_mem_cons.1 down
    exact (toList_prefix_extend first).trans (ih rest _)

/-- A slash in a package is in one of its directories. -/
theorem not_mem_of_directories {p : String} {c : Char} (other : c ≠ '.')
    (each : ∀ s ∈ directories p, c ∉ s.toList) : c ∉ p.toList := by
  intro mem
  rw [← intercalate_segments p] at mem
  rcases mem_of_mem_intercalate mem with dot | ⟨s, segment, mem⟩
  · exact other dot
  · refine each s (List.mem_filter.2 ⟨segment, ?_⟩) mem
    rw [decide_eq_true_iff]
    rintro rfl
    cases mem

/-- Only slashes can lead anywhere but down. -/
theorem isComponent_steps_iff {f : GeneratedFile} :
    (∀ s ∈ steps f, IsComponent s) ↔ '/' ∉ f.package.toList ∧ '/' ∉ f.typeName.toList := by
  constructor
  · intro down
    obtain ⟨package, name⟩ := List.forall_mem_append.1 down
    refine ⟨not_mem_of_directories (by decide) fun s mem => (package s mem).slash, fun mem => ?_⟩
    refine (List.forall_mem_singleton.1 name).slash ?_
    rw [GeneratedFile.fileName, String.toList_append]
    exact List.mem_append_left _ mem
  · rintro ⟨package, name⟩
    exact isComponent_of_mem_steps package name

/-- Writing a file that is below the root leaves what other places hold, above the root and beside
it. -/
theorem contentOf?_filer_write_of_not_prefix {f : GeneratedFile}
    (down : ∀ s ∈ steps f, IsComponent s) {filer : Filer} {place : List String}
    (outside : ¬ placeOf filer.root <+: place) :
    (Filer.write f filer).2.tree.contentOf? place = filer.tree.contentOf? place := by
  refine contentOf?_filer_write f filer fun same => outside ?_
  rw [same, placeOf_pathFor down]
  exact List.prefix_append ..

/-! ### Factories -/

theorem slash_not_mem_factoryName_iff {c : ClassName} :
    '/' ∉ (factoryName c).outermost.toList ↔ '/' ∉ c.simpleName.toList := by
  have plain : '/' ∉ suffix.toList := by decide
  simp [factoryName, ClassName.topLevel, plain]

/-- Segments of a package without dots inside of them are its directories. -/
theorem directories_intercalate {ps : List String} (named : ∀ s ∈ ps, s ≠ "")
    (plain : ∀ s ∈ ps, '.' ∉ s.toList) : directories (".".intercalate ps) = ps := by
  cases ps with
  | nil => decide
  | cons p ps =>
    rw [directories, segments_intercalate (by simp) plain, List.filter_eq_self]
    simpa using named

/-- The factory of a class that is read from a text goes to the directories of its package and a
file named for its innermost simple name, each of these a component below the root, exactly when
neither has a slash in it. Then the path begins with the root, its place is below that of the root,
and writing there leaves all other places as they are. Identifiers without dots inside of them take
one directory each. -/
theorem below_root_iff_no_slash {text : String} {c : ClassName}
    (read : ClassName.parse text = .ok c) {p : Plan} (annotated : p.annotated = c) (m : Markers)
    (root : String) :
    let f := render p m
    let way := directories c.package ++ [c.simpleName ++ "_AssistedFactory.kt"]
    ((components (pathFor root f) = components root ++ way ∧ ∀ s ∈ way, IsComponent s) ↔
        '/' ∉ c.package.toList ∧ '/' ∉ c.simpleName.toList) ∧
      ('/' ∉ c.package.toList → '/' ∉ c.simpleName.toList →
        root.toList <+: (pathFor root f).toList ∧ placeOf (pathFor root f) = placeOf root ++ way ∧
        ∀ filer : Filer, filer.root = root → ∀ place, ¬ placeOf root <+: place →
          (Filer.write f filer).2.tree.contentOf? place = filer.tree.contentOf? place) ∧
      ((∀ s ∈ identifiers text, '.' ∉ s.toList) →
        directories c.package ++ c.names = identifiers text) := by
  intro f way
  subst annotated
  have stepsOf : steps f = way := by
    change directories p.annotated.package ++ [p.annotated.simpleName ++ suffix ++ ".kt"] = way
    rw [String.append_assoc]
    rfl
  have slashes : (∀ s ∈ way, IsComponent s) ↔
      '/' ∉ p.annotated.package.toList ∧ '/' ∉ p.annotated.simpleName.toList := by
    rw [← stepsOf, isComponent_steps_iff, ← slash_not_mem_factoryName_iff]
    rfl
  refine ⟨⟨fun h => slashes.1 h.2, fun h => ?_⟩, fun package name => ?_, fun dots => ?_⟩
  · have down := slashes.2 h
    rw [← stepsOf] at down ⊢
    exact ⟨components_pathFor down root, down⟩
  · have down := slashes.2 ⟨package, name⟩
    rw [← stepsOf] at down ⊢
    refine ⟨?_, placeOf_pathFor down root, ?_⟩
    · rw [pathFor_eq_foldl]
      exact toList_prefix_foldl_extend down root
    · rintro filer rfl place outside
      exact contentOf?_filer_write_of_not_prefix down outside
  · obtain ⟨ps, segments, package, -⟩ := ClassName.exists_identifiers_of_parse read
    have among : ∀ s ∈ ps, s ∈ identifiers text :=
      fun s mem => segments ▸ List.mem_append_left _ mem
    rw [segments, package, directories_intercalate (fun s mem =>
      (name_of_mem_identifiers (among s mem)).1) fun s mem => dots s (among s mem)]

/-- A plan for a class, with a factory method that takes nothing. -/
def simplePlan (c : ClassName) : Plan where
  annotated := c
  scope := .topLevel "com.test" "Scope"
  bound := ⟨.topLevel "com.test" "Factory", .interface⟩
  method := ⟨"create", []⟩
  origin := none

/-- A class with a dot inside a segment of its package and a blank in its name. -/
theorem below_root_escaped :
    let c : ClassName := ⟨"com.a.b", "Outer", ["My Api"]⟩
    ClassName.parse "com.`a.b`.Outer.`My Api`" = .ok c ∧
      '/' ∉ c.package.toList ∧ '/' ∉ c.simpleName.toList ∧
      placeOf (pathFor "out/" (render (simplePlan c) .standard))
        = ["out", "com", "a", "b", "My Api_AssistedFactory.kt"] := by
  intro c
  have read : ClassName.parse "com.`a.b`.Outer.`My Api`" = .ok c := by decide +kernel
  have package : '/' ∉ c.package.toList := by decide
  have name : '/' ∉ c.simpleName.toList := by decide
  have below :=
    (below_root_iff_no_slash read (p := simplePlan c) rfl .standard "out/").2.1 package name
  exact ⟨read, package, name, below.2.1.trans (by decide +kernel)⟩

/-- A slash in the name of a class leads to another root, or out of it again. -/
theorem outside_root_of_slash :
    ClassName.parse "com.`/tmp/Api`" = .ok (.topLevel "com" "/tmp/Api") ∧
      pathFor "out" (render (simplePlan (.topLevel "com" "/tmp/Api")) .standard)
        = "/tmp/Api_AssistedFactory.kt" ∧
      ClassName.parse "`../Api`" = .ok (.topLevel "" "../Api") ∧
      pathFor "out" (render (simplePlan (.topLevel "" "../Api")) .standard)
        = "out/../Api_AssistedFactory.kt" ∧
      ¬ placeOf "out" <+: placeOf "/tmp/Api_AssistedFactory.kt" ∧
      ¬ placeOf "out" <+: placeOf "out/../Api_AssistedFactory.kt" := by
  decide +kernel

end AssistedInjection.Output
