import AssistedInjection.Proofs.Source.Resolution
import AssistedInjection.Source.Factory

/-!
Which classes a file imports. Of the outermost classes further away that share a simple name, the
first by canonical name claims it, unless a class near has it; no other order has a part in this. So
imports and spellings depend on the set of the classes that are mentioned, and the order in which a
method takes its parameters shows in the lines of the parameters and nowhere else.

    mentioned     y.B    kotlin.C    x.B    gen.A    a.C    x.B.D    x.Own
    near          gen.Own    gen.A
    far           a.C    kotlin.C    x.B    x.B    x.Own    y.B
    first         a.C                x.B
-/

namespace AssistedInjection.Source

open Kotlin

/-! ### Canonical names -/

/-- Among outermost classes of one simple name, the canonical name tells the package. -/
theorem package_eq_of_canonical_eq {p q n : String}
    (same : (ClassName.topLevel p n).canonical = (ClassName.topLevel q n).canonical) : p = q := by
  have length (p : String) : (ClassName.topLevel p n).canonical.length
      = if p = "" then n.length else p.length + 1 + n.length := by
    have dot : ".".length = 1 := rfl
    by_cases empty : p = "" <;>
      simp [ClassName.canonical, ClassName.topLevel, ClassName.names, empty, dot]
  have lengths := congrArg String.length same
  rw [length, length] at lengths
  by_cases hp : p = "" <;> by_cases hq : q = ""
  · rw [hp, hq]
  · rw [if_pos hp, if_neg hq] at lengths
    omega
  · rw [if_neg hp, if_pos hq] at lengths
    omega
  · have ends : p ++ "." ++ n = q ++ "." ++ n := by
      simpa [ClassName.canonical, ClassName.topLevel, ClassName.names, hp, hq] using same
    exact (String.append_left_inj ".").1 ((String.append_left_inj n).1 ends)

/-- Sorted texts without repetitions are in strict order. -/
theorem pairwise_lt_eraseDups : ∀ {l : List String}, l.Pairwise (· ≤ ·) →
    l.eraseDups.Pairwise (· < ·)
  | [], _ => .nil
  | a :: as, sorted => by
    obtain ⟨first, rest⟩ := List.pairwise_cons.1 sorted
    rw [List.eraseDups_cons]
    refine List.pairwise_cons.2 ⟨fun b mem => ?_, pairwise_lt_eraseDups (rest.filter _)⟩
    obtain ⟨among, other⟩ := List.mem_filter.1 (List.mem_eraseDups.1 mem)
    exact Std.lt_of_le_of_ne (first b among) fun same => by simp [same] at other
termination_by l => l.length
decreasing_by
  exact Nat.lt_succ_of_le (List.length_filter_le ..)

namespace Imports

variable {package own : String} {mentioned mentioned' : List ClassName} {c d e : ClassName}

/-! ### Claims -/

theorem pairwise_far : (ofMentioned package own mentioned).far.Pairwise
    fun d e => d.canonical ≤ e.canonical := by
  have sorted : (outermost mentioned).Pairwise fun d e => d.canonical ≤ e.canonical := by
    have total : ∀ d e : ClassName,
        decide (d.canonical ≤ e.canonical) || decide (e.canonical ≤ d.canonical) := by
      intro d e
      simpa using String.le_total d.canonical e.canonical
    have trans : ∀ c d e : ClassName, decide (c.canonical ≤ d.canonical) →
        decide (d.canonical ≤ e.canonical) → decide (c.canonical ≤ e.canonical) := by
      intro c d e
      simpa using String.le_trans
    simpa [outermost] using Order.pairwise_sortBy total trans (mentioned.map ClassName.container)
  simpa [ofMentioned, List.partition_eq_filter_filter] using sorted.filter _

theorem eq_topLevel_of_mem_container (mem : d ∈ mentioned.map ClassName.container) :
    d = .topLevel d.package d.outermost := by
  obtain ⟨c, -, rfl⟩ := List.mem_map.1 mem
  rfl

/-- Outermost classes that share their simple name are told apart by their canonical names. -/
theorem eq_of_canonical_eq (hd : d ∈ mentioned.map ClassName.container)
    (he : e ∈ mentioned.map ClassName.container) (named : d.outermost = e.outermost)
    (same : d.canonical = e.canonical) : d = e := by
  have hd := eq_topLevel_of_mem_container hd
  have he := eq_topLevel_of_mem_container he
  rw [hd, he, named] at same
  rw [hd, he, named, package_eq_of_canonical_eq same]

/-- Only classes that are near or far claim simple names. -/
theorem mem_of_claims (claims : (ofMentioned package own mentioned).claims d) :
    d ∈ (ofMentioned package own mentioned).near ∨
      d ∈ (ofMentioned package own mentioned).far := by
  rw [claims_iff, claimant?] at claims
  exact List.mem_append.1 (List.mem_of_find?_eq_some claims)

/-- Of the classes further away that share a simple name, the first by canonical name claims it. -/
theorem canonical_le_of_claims (hd : d ∈ (ofMentioned package own mentioned).far)
    (claims : (ofMentioned package own mentioned).claims d)
    (he : e ∈ (ofMentioned package own mentioned).far) (named : e.outermost = d.outermost) :
    d.canonical ≤ e.canonical := by
  have nothing : (ofMentioned package own mentioned).near.find? (·.outermost = d.outermost)
      = none := by
    simpa using fun _ near => outermost_ne_of_claims hd claims near
  rw [claims_iff, claimant?, List.find?_append, nothing, Option.none_or] at claims
  obtain ⟨-, before, after, split, others⟩ := List.find?_eq_some_iff_append.1 claims
  have sorted : (ofMentioned package own mentioned).far.Pairwise
      fun d e => d.canonical ≤ e.canonical := pairwise_far
  rw [split] at sorted he
  rcases List.mem_append.1 he with he | he
  · simpa [named] using others e he
  · obtain ⟨-, sorted, -⟩ := List.pairwise_append.1 sorted
    rcases List.mem_cons.1 he with rfl | he
    · exact String.le_refl _
    · exact (List.pairwise_cons.1 sorted).1 e he

/-- A class further away claims its simple name where no class near has it and no other one further
away has it and comes first. -/
theorem claims_iff_of_mem_far (far : d ∈ (ofMentioned package own mentioned).far) :
    (ofMentioned package own mentioned).claims d ↔
      (∀ e ∈ (ofMentioned package own mentioned).near, e.outermost ≠ d.outermost) ∧
        ∀ e ∈ (ofMentioned package own mentioned).far, e.outermost = d.outermost →
          d.canonical ≤ e.canonical := by
  constructor
  · intro claims
    exact ⟨fun _ near => outermost_ne_of_claims far claims near,
      fun _ mem named => canonical_le_of_claims far claims mem named⟩
  · rintro ⟨free, first⟩
    obtain ⟨a, claims, named⟩ := exists_claims (List.mem_append_right _ far)
    have far' : a ∈ (ofMentioned package own mentioned).far :=
      (mem_of_claims claims).resolve_left fun near => free a near named
    have same := String.le_antisymm (canonical_le_of_claims far' claims far named.symm)
      (first a far' named)
    exact eq_of_canonical_eq (mem_far.1 far').1 (mem_far.1 far).1 named same ▸ claims

/-- Which classes claim their names depends on which classes are mentioned. -/
theorem claims_congr (same : ∀ c, c ∈ mentioned' ↔ c ∈ mentioned) (d : ClassName) :
    (ofMentioned package own mentioned').claims d = (ofMentioned package own mentioned).claims d := by
  have container (d : ClassName) :
      d ∈ mentioned'.map ClassName.container ↔ d ∈ mentioned.map ClassName.container := by
    simp only [List.mem_map, same]
  have near (d : ClassName) : d ∈ (ofMentioned package own mentioned').near ↔
      d ∈ (ofMentioned package own mentioned).near := by
    rw [mem_near, mem_near, container]
  have far (d : ClassName) : d ∈ (ofMentioned package own mentioned').far ↔
      d ∈ (ofMentioned package own mentioned).far := by
    rw [mem_far, mem_far, container]
  rw [Bool.eq_iff_iff]
  by_cases hn : d ∈ (ofMentioned package own mentioned).near
  · exact iff_of_true (claims_of_mem_near ((near d).2 hn)) (claims_of_mem_near hn)
  by_cases hf : d ∈ (ofMentioned package own mentioned).far
  · rw [claims_iff_of_mem_far hf, claims_iff_of_mem_far ((far d).2 hf)]
    simp only [near, far]
  · refine iff_of_false (fun claims => ?_) fun claims => ?_
    · rcases mem_of_claims claims with mem | mem
      · exact hn ((near d).1 mem)
      · exact hf ((far d).1 mem)
    · rcases mem_of_claims claims with mem | mem
      · exact hn mem
      · exact hf mem

/-! ### Imports -/

/-- An outermost class that a file imports: it is mentioned, it is further away and not visible
without an import, no class near has its simple name, and no other one further away has it and
comes first by canonical name. -/
structure IsImported (package own : String) (mentioned : List ClassName) (c : ClassName) :
    Prop where
  among : c ∈ mentioned.map ClassName.container
  outside : c.package ≠ package
  needed : c.package ≠ "" ∧ c.package ≠ "kotlin"
  free : c.outermost ≠ own ∧
    ∀ d ∈ mentioned.map ClassName.container, d.package = package → d.outermost ≠ c.outermost
  first : ∀ d ∈ mentioned.map ClassName.container, d.package ≠ package →
    d.outermost = c.outermost → c.canonical ≤ d.canonical

theorem isImported_iff : IsImported package own mentioned c ↔
    c ∈ (ofMentioned package own mentioned).far ∧
      (ofMentioned package own mentioned).claims c ∧ needsImport c := by
  have needed : needsImport c ↔ c.package ≠ "" ∧ c.package ≠ "kotlin" := by simp [needsImport]
  constructor
  · rintro ⟨among, outside, visible, free, first⟩
    have far : c ∈ (ofMentioned package own mentioned).far := mem_far.2 ⟨among, outside⟩
    refine ⟨far, (claims_iff_of_mem_far far).2 ⟨fun e near => ?_, fun e mem => ?_⟩, needed.2 visible⟩
    · rcases mem_near.1 near with rfl | ⟨mem, inside⟩
      · exact Ne.symm free.1
      · exact free.2 e mem inside
    · exact first e (mem_far.1 mem).1 (mem_far.1 mem).2
  · rintro ⟨far, claims, visible⟩
    obtain ⟨free, first⟩ := (claims_iff_of_mem_far far).1 claims
    refine ⟨(mem_far.1 far).1, (mem_far.1 far).2, needed.1 visible, ⟨?_, ?_⟩, ?_⟩
    · exact Ne.symm (free _ (mem_near.2 (.inl rfl)))
    · exact fun d mem inside => free d (mem_near.2 (.inr ⟨mem, inside⟩))
    · exact fun d mem outside => first d (mem_far.2 ⟨mem, outside⟩)

theorem mem_imported {s : String} : s ∈ (ofMentioned package own mentioned).imported ↔
    ∃ c, IsImported package own mentioned c ∧ c.canonical = s := by
  simp [imported, isImported_iff, and_assoc]

theorem pairwise_imported : (ofMentioned package own mentioned).imported.Pairwise (· < ·) := by
  refine pairwise_lt_eraseDups (List.pairwise_map.2 ?_)
  exact pairwise_far.filter _

theorem imported_congr (same : ∀ c, c ∈ mentioned' ↔ c ∈ mentioned) :
    (ofMentioned package own mentioned').imported
      = (ofMentioned package own mentioned).imported := by
  have far (c : ClassName) : c ∈ (ofMentioned package own mentioned').far ↔
      c ∈ (ofMentioned package own mentioned).far := by
    simp only [mem_far, List.mem_map, same]
  have members (s : String) : s ∈ (ofMentioned package own mentioned').imported ↔
      s ∈ (ofMentioned package own mentioned).imported := by
    simp only [mem_imported, isImported_iff, far, claims_congr same]
  have nodup {mentioned : List ClassName} :
      (ofMentioned package own mentioned).imported.Nodup :=
    pairwise_imported.imp fun before same => by
      rw [same] at before
      exact Std.lt_irrefl before
  refine ((List.perm_ext_iff_of_nodup nodup nodup).2 members).eq_of_pairwise ?_
    pairwise_imported pairwise_imported
  intro a b _ _ before after
  exact absurd (Std.lt_trans before after) Std.lt_irrefl

theorem spell_congr (same : ∀ c, c ∈ mentioned' ↔ c ∈ mentioned) :
    (ofMentioned package own mentioned').spell = (ofMentioned package own mentioned).spell := by
  funext c
  rw [spell, spell, claims_congr same]

end Imports

/-! ### Parameters in another order -/

/-- The plan with other parameters of the method. -/
def withParameters (p : Plan) (ps : List FactoryParameter) : Plan :=
  { p with method.parameters := ps }

section

variable {p : Plan} {ps : List FactoryParameter} (perm : ps.Perm p.method.parameters) (m : Markers)

include perm

theorem mem_mentioned_withParameters (c : ClassName) :
    c ∈ mentioned (withParameters p ps) m ↔ c ∈ mentioned p m := by
  have keyed : isKeyed (withParameters p ps) = isKeyed p := perm.any_eq
  have types : c ∈ ps.flatMap (·.type.classNames) ↔
      c ∈ p.method.parameters.flatMap (·.type.classNames) := (perm.flatMap_right _).mem_iff
  simp only [mentioned, keyed, List.mem_append]
  exact or_congr_right types

/-- A plan with the parameters in another order imports and spells the same. -/
theorem importsOf_withParameters :
    (importsOf (withParameters p ps) m).lines = (importsOf p m).lines ∧
      (importsOf (withParameters p ps) m).spell = (importsOf p m).spell := by
  have same := mem_mentioned_withParameters perm m
  exact ⟨congrArg (List.map dottedName) (Imports.imported_congr same), Imports.spell_congr same⟩

/-- Only the lines of the method tell in which order the parameters are. -/
theorem content_withParameters :
    content (withParameters p ps) m
      = header ++ packageLine (factoryName p.annotated).package ++ importLines (importsOf p m) ++
          annotationLines p m (importsOf p m) ++ typeLine p (importsOf p m) ++
          methodLines (withParameters p ps) m (importsOf p m) ++ "\x7d\n" := by
  obtain ⟨lines, spell⟩ := importsOf_withParameters perm m
  let i := importsOf (withParameters p ps) m
  have imports : importLines i = importLines (importsOf p m) := by
    rw [importLines, importLines, lines]
  have annotations : annotationLines p m i = annotationLines p m (importsOf p m) := by
    rw [annotationLines, annotationLines, spell]
  have type : typeLine p i = typeLine p (importsOf p m) := by
    rw [typeLine, typeLine, spell]
  have key : keyAnnotation m i = keyAnnotation m (importsOf p m) := by
    funext k
    cases k <;> simp only [i, keyAnnotation, spell]
  have parameter : parameterLine m i = parameterLine m (importsOf p m) := by
    funext q
    rw [parameterLine, parameterLine, key, spell]
  have method : methodLines (withParameters p ps) m i
      = methodLines (withParameters p ps) m (importsOf p m) := by
    rw [methodLines, methodLines, parameter, spell]
  rw [← imports, ← annotations, ← type, ← method]
  rfl

end

/-- Whatever the order of the parameters, their lines stand together and the rest is the same. -/
theorem exists_around_parameters (p : Plan) (m : Markers) :
    ∃ before after, ∀ ps : List FactoryParameter, ps.Perm p.method.parameters →
      content (withParameters p ps) m
        = before ++ String.join (ps.map (parameterLine m (importsOf p m))) ++ after := by
  let i := importsOf p m
  let start := header ++ packageLine (factoryName p.annotated).package ++ importLines i ++
    annotationLines p m i ++ typeLine p i ++ "  " ++ modifiers p.bound.kind ++ " fun " ++
    identifier p.method.name ++ "("
  let result := "): " ++ i.spell p.annotated ++ "\n" ++ "\x7d\n"
  cases parameters : p.method.parameters with
  | nil =>
    refine ⟨start, result, fun ps perm => ?_⟩
    obtain rfl := List.perm_nil.1 perm
    rw [content_withParameters (parameters ▸ perm)]
    simp [methodLines, withParameters, start, result, i, String.append_assoc,
      -String.reduceAppend]
  | cons q qs =>
    refine ⟨start ++ "\n", "  " ++ result, fun ps perm => ?_⟩
    have some : ps.isEmpty = false := by
      cases ps with
      | nil => exact absurd (List.nil_perm.1 perm) (List.cons_ne_nil q qs)
      | cons => rfl
    rw [content_withParameters (parameters ▸ perm)]
    simp [methodLines, withParameters, some, start, result, i, String.append_assoc,
      -String.reduceAppend]

/-- The import lines of a file are the canonical names of the classes to be imported, each once and
in strict order before they are escaped. They and the spellings of all classes rest on the set of
the classes mentioned; so the files of two plans that differ in the order of the parameters differ
in the order of the parameters' lines. -/
theorem imports_regardless_of_order (package own : String) (mentioned : List ClassName) :
    let i := Imports.ofMentioned package own mentioned
    (∃ names : List String, i.lines = names.map dottedName ∧ names.Pairwise (· < ·) ∧
        ∀ s, s ∈ names ↔ ∃ c, Imports.IsImported package own mentioned c ∧ c.canonical = s) ∧
      (∀ mentioned', (∀ c, c ∈ mentioned' ↔ c ∈ mentioned) →
        (Imports.ofMentioned package own mentioned').lines = i.lines ∧
          ∀ c, (Imports.ofMentioned package own mentioned').spell c = i.spell c) ∧
      ∀ (p : Plan) (m : Markers), ∃ before after,
        ∀ ps : List FactoryParameter, ps.Perm p.method.parameters →
          render (withParameters p ps) m =
            { render p m with
              content := before ++ String.join (ps.map (parameterLine m (importsOf p m))) ++
                after } := by
  intro i
  refine ⟨⟨i.imported, rfl, Imports.pairwise_imported, fun s => Imports.mem_imported⟩,
    fun mentioned' same => ⟨?_, fun c => ?_⟩, fun p m => ?_⟩
  · exact congrArg (List.map dottedName) (Imports.imported_congr same)
  · rw [Imports.spell_congr same]
  · obtain ⟨before, after, around⟩ := exists_around_parameters p m
    refine ⟨before, after, fun ps perm => ?_⟩
    rw [← around ps perm]
    rfl

/-- A plan whose method takes two classes of one simple name, the later one by canonical name
first. -/
def clashingPlan : Plan where
  annotated := .topLevel "com.test" "Api"
  scope := .topLevel "com.test" "Scope"
  bound := ⟨.topLevel "com.test" "Factory", .interface⟩
  method := ⟨"create",
    [⟨"second", .ofClass (.topLevel "com.b" "Value"), none, "second"⟩,
      ⟨"first", .ofClass ⟨"com.a", "Value", ["Inner"]⟩, none, "first"⟩]⟩
  origin := none

/-- The two parameters in either order: the same class is imported, and the other one is spelled in
full. -/
theorem imports_regardless_of_order_clashing :
    let m := Markers.standard
    let swapped := withParameters clashingPlan clashingPlan.method.parameters.reverse
    (importsOf clashingPlan m).lines = ["com.a.Value",
        "com.squareup.anvil.annotations.ContributesBinding", "dagger.assisted.AssistedFactory"] ∧
      (∀ c, c ∈ mentioned swapped m ↔ c ∈ mentioned clashingPlan m) ∧
      (importsOf swapped m).lines = (importsOf clashingPlan m).lines ∧
      clashingPlan.method.parameters.reverse.Perm clashingPlan.method.parameters ∧
      ∃ before after,
        (render clashingPlan m).content
            = before ++ "    second: com.b.Value,\n    first: Value.Inner,\n" ++ after ∧
          (render swapped m).content
            = before ++ "    first: Value.Inner,\n    second: com.b.Value,\n" ++ after := by
  intro m swapped
  obtain ⟨-, sameClasses, plans⟩ := imports_regardless_of_order "com.test" "Api_AssistedFactory"
    (mentioned clashingPlan m)
  have perm := List.reverse_perm clashingPlan.method.parameters
  have same := mem_mentioned_withParameters perm m
  obtain ⟨before, after, around⟩ := plans clashingPlan m
  have lines : clashingPlan.method.parameters.map (parameterLine m (importsOf clashingPlan m))
      = ["    second: com.b.Value,\n", "    first: Value.Inner,\n"] := by decide +kernel
  refine ⟨by decide +kernel, same, (sameClasses _ same).1, perm, before, after, ?_, ?_⟩
  · have given := congrArg GeneratedFile.content (around _ (.refl _))
    rw [lines] at given
    exact given
  · have given := congrArg GeneratedFile.content (around _ perm)
    rw [List.map_reverse, lines] at given
    exact given

end AssistedInjection.Source
