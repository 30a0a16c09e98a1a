import AssistedInjection.Proofs.Source.Spelling

/-!
Names in a file stand for the classes they were written for. Outermost classes of one simple name
share one claim to it; whoever holds the claim is where a reader of the file looks for the name.

    mentioned        claims       import          a reader finds
    gen.Own          Own          (own type)      Own in the package of the file
    gen.A, x.A       gen.A        (near)          A in the package of the file
    x.B, y.B         x.B          import x.B      B where it is imported from
    kotlin.C         kotlin.C     (not needed)    C in kotlin, as nothing else has the name
-/

namespace AssistedInjection.Source

open Kotlin

/-! ### Reading a file -/

/-- What decides which classes the names in a file stand for. -/
structure FileScope where
  package : String
  /-- The type that the file declares. -/
  own : String
  /-- The import lines, without the word `import`. -/
  imports : List String
  /-- The classes that the file refers to. -/
  mentioned : List ClassName

namespace FileScope

/-- The class that an import line ending in a simple name imports. -/
def imported? (f : FileScope) (name : String) : Option ClassName :=
  (f.imports.filterMap fun line => (ClassName.parse line).toOption).find? (·.simpleName = name)

/-- Whether the package of the file is known to have an outermost class of a simple name. -/
def hasNear (f : FileScope) (name : String) : Prop :=
  name = f.own ∨ .topLevel f.package name ∈ f.mentioned.map ClassName.container

instance (f : FileScope) (name : String) : Decidable (f.hasNear name) :=
  inferInstanceAs (Decidable (_ ∨ _))

/-- The class that a simple name stands for. -/
def lookUp (f : FileScope) (name : String) : ClassName :=
  match f.imported? name with
  | some c => c
  | none => .topLevel (if f.hasNear name then f.package else "kotlin") name

/-- The class that a name stands for: one with a package stands for itself, one without is looked up
by its outermost name. -/
def resolve (f : FileScope) (c : ClassName) : ClassName :=
  if c.package = "" then
    { f.lookUp c.outermost with nested := (f.lookUp c.outermost).nested ++ c.nested }
  else c

end FileScope

/-! ### Claims -/

namespace Imports

variable {package own : String} {mentioned : List ClassName}

section

variable {i : Imports} {c d : ClassName}

theorem claims_iff : i.claims d ↔ i.claimant? d.outermost = some d := by
  rw [claims, beq_iff_eq]

theorem claims_unique (hc : i.claims c) (hd : i.claims d) (same : c.outermost = d.outermost) :
    c = d := by
  rw [claims_iff] at hc hd
  rw [same, hd] at hc
  exact (Option.some.inj hc).symm

/-- The name of each class that may claim it is claimed. -/
theorem exists_claims (mem : c ∈ i.near ++ i.far) :
    ∃ d, i.claims d ∧ d.outermost = c.outermost := by
  cases found : i.claimant? c.outermost with
  | none =>
    have nobody := List.find?_eq_none.1 found c mem
    exact absurd (decide_eq_true rfl) nobody
  | some d =>
    have named : d.outermost = c.outermost := by simpa using List.find?_some found
    exact ⟨d, claims_iff.2 (named.symm ▸ found), named⟩

end

variable {d e : ClassName}

theorem mem_near : d ∈ (ofMentioned package own mentioned).near ↔
    d = .topLevel package own ∨ d ∈ mentioned.map ClassName.container ∧ d.package = package := by
  simp [ofMentioned, outermost, Order.mem_sortBy]

theorem mem_far : d ∈ (ofMentioned package own mentioned).far ↔
    d ∈ mentioned.map ClassName.container ∧ d.package ≠ package := by
  simp [ofMentioned, outermost, Order.mem_sortBy]

/-- The classes near are told apart by their simple names. -/
theorem eq_topLevel_of_mem_near (mem : d ∈ (ofMentioned package own mentioned).near) :
    d = .topLevel package d.outermost := by
  rcases mem_near.1 mem with rfl | ⟨among, rfl⟩
  · rfl
  · obtain ⟨c, -, rfl⟩ := List.mem_map.1 among
    rfl

theorem package_of_mem_near (mem : d ∈ (ofMentioned package own mentioned).near) :
    d.package = package := by
  rw [eq_topLevel_of_mem_near mem]
  rfl

/-- The classes near come first, and so they claim their names. -/
theorem claims_of_mem_near (mem : d ∈ (ofMentioned package own mentioned).near) :
    (ofMentioned package own mentioned).claims d := by
  rw [claims_iff, claimant?, List.find?_append]
  cases found : (ofMentioned package own mentioned).near.find? (·.outermost = d.outermost) with
  | none => simpa using List.find?_eq_none.1 found d mem
  | some e =>
    have same : e.outermost = d.outermost := by simpa using List.find?_some found
    have near := eq_topLevel_of_mem_near (List.mem_of_find?_eq_some found)
    rw [Option.some_or, near, same, ← eq_topLevel_of_mem_near mem]

/-- A class further away claims its name only if no class near has it. -/
theorem outermost_ne_of_claims (far : d ∈ (ofMentioned package own mentioned).far)
    (claims : (ofMentioned package own mentioned).claims d)
    (near : e ∈ (ofMentioned package own mentioned).near) : e.outermost ≠ d.outermost := by
  intro named
  obtain rfl := claims_unique (claims_of_mem_near near) claims named
  exact (mem_far.1 far).2 (package_of_mem_near near)

theorem mem_lines {line : String} : line ∈ (ofMentioned package own mentioned).lines ↔
    ∃ d ∈ (ofMentioned package own mentioned).far,
      ((ofMentioned package own mentioned).claims d ∧ needsImport d) ∧
        dottedName d.canonical = line := by
  simp [lines, imported, and_assoc]

end Imports

/-! ### Looking names up -/

/-- The scope of a file that declares a type of a package and mentions some classes. -/
def fileScope (package own : String) (mentioned : List ClassName) : FileScope where
  package := package
  own := own
  imports := (Imports.ofMentioned package own mentioned).lines
  mentioned := mentioned

section

variable {package own : String} {mentioned : List ClassName} {c d : ClassName} {name : String}

open Imports

theorem hasNear_iff : (fileScope package own mentioned).hasNear name ↔
    .topLevel package name ∈ (ofMentioned package own mentioned).near := by
  rw [mem_near, FileScope.hasNear]
  simp [fileScope, ClassName.topLevel]

theorem not_hasNear_of_claims (far : d ∈ (ofMentioned package own mentioned).far)
    (claims : (ofMentioned package own mentioned).claims d) :
    ¬ (fileScope package own mentioned).hasNear d.outermost :=
  fun near => outermost_ne_of_claims far claims (hasNear_iff.1 near) rfl

/-- The import of an outermost class is read as this class. -/
theorem parse_dottedName_canonical (back : ∀ c ∈ mentioned, c.parsesBack)
    (far : d ∈ (ofMentioned package own mentioned).far) :
    ClassName.parse (dottedName d.canonical) = .ok d ∧ d.nested = [] := by
  obtain ⟨c, mem, rfl⟩ := List.mem_map.1 (mem_far.1 far).1
  obtain ⟨ps, h⟩ := exists_byConvention (back c mem)
  exact ⟨h.container.dottedName_canonical ▸ h.container.parse_escaped, rfl⟩

/-- The class that is found imported under a simple name is the one that claims the name, if that
one is further away and needs to be imported. -/
theorem imported?_eq_some_iff (back : ∀ c ∈ mentioned, c.parsesBack) :
    (fileScope package own mentioned).imported? name = some d ↔
      d ∈ (ofMentioned package own mentioned).far ∧
        ((ofMentioned package own mentioned).claims d ∧ needsImport d) ∧ d.outermost = name := by
  let imports := (ofMentioned package own mentioned).lines.filterMap fun line =>
    (ClassName.parse line).toOption
  have mem_imports {e : ClassName} : e ∈ imports ↔ e ∈ (ofMentioned package own mentioned).far ∧
      (ofMentioned package own mentioned).claims e ∧ needsImport e := by
    simp only [imports, List.mem_filterMap, mem_lines]
    constructor
    · rintro ⟨line, ⟨e', far, claims, rfl⟩, read⟩
      rw [(parse_dottedName_canonical back far).1] at read
      cases read
      exact ⟨far, claims⟩
    · rintro ⟨far, claims⟩
      refine ⟨_, ⟨e, far, claims, rfl⟩, ?_⟩
      rw [(parse_dottedName_canonical back far).1]
      rfl
  have simple {e : ClassName} (mem : e ∈ imports) : e.simpleName = e.outermost := by
    rw [ClassName.simpleName, (parse_dottedName_canonical back (mem_imports.1 mem).1).2,
      List.getLastD_nil]
  have sound {e : ClassName} (found : imports.find? (·.simpleName = name) = some e) :
      e ∈ imports ∧ e.outermost = name := by
    have mem := List.mem_of_find?_eq_some found
    exact ⟨mem, simple mem ▸ by simpa using List.find?_some found⟩
  change imports.find? (·.simpleName = name) = some d ↔ _
  constructor
  · intro found
    obtain ⟨mem, named⟩ := sound found
    exact ⟨(mem_imports.1 mem).1, (mem_imports.1 mem).2, named⟩
  · rintro ⟨far, needed, rfl⟩
    have mem := mem_imports.2 ⟨far, needed⟩
    cases found : imports.find? (·.simpleName = d.outermost) with
    | none => simpa [simple mem] using List.find?_eq_none.1 found d mem
    | some e =>
      obtain ⟨among, named⟩ := sound found
      rw [claims_unique (mem_imports.1 among).2.1 needed.1 named]

/-- A class that claims its simple name is found under it. -/
theorem lookUp_outermost (back : ∀ c ∈ mentioned, c.parsesBack) (mem : c ∈ mentioned)
    (reachable : c.package ≠ "" ∨ package = "")
    (claims : (ofMentioned package own mentioned).claims c.container) :
    (fileScope package own mentioned).lookUp c.outermost = c.container := by
  have among : c.container ∈ mentioned.map ClassName.container := List.mem_map_of_mem mem
  unfold FileScope.lookUp
  split
  · rename_i d found
    obtain ⟨-, ⟨claims', -⟩, named⟩ := (imported?_eq_some_iff back).1 found
    exact claims_unique claims' claims named
  · rename_i none
    -- A class that is not imported is near, or it is one of the package that needs no imports.
    by_cases near : c.package = package
    · have hasNear : (fileScope package own mentioned).hasNear c.outermost :=
        .inr (near ▸ among)
      rw [if_pos hasNear]
      exact near ▸ rfl
    · have far : c.container ∈ (ofMentioned package own mentioned).far :=
        mem_far.2 ⟨among, near⟩
      have notNear : ¬ (fileScope package own mentioned).hasNear c.outermost :=
        not_hasNear_of_claims (d := c.container) far claims
      have needless : ¬ needsImport c.container := fun needed => by
        cases none.symm.trans ((imported?_eq_some_iff back).2 ⟨far, ⟨claims, needed⟩, rfl⟩)
      have named : c.package ≠ "" := fun empty =>
        near (empty.trans (reachable.resolve_left (· empty)).symm)
      have kotlin : c.package = "kotlin" := by
        have plain : (c.package ≠ "" && c.package ≠ "kotlin") = false :=
          Bool.not_eq_true _ ▸ needless
        simpa [named] using plain
      rw [if_neg notNear]
      exact kotlin ▸ rfl

/-- A class of the default package can only be near, where it claims its name. -/
theorem claims_of_package_eq_empty (mem : c ∈ mentioned) (reachable : c.package ≠ "" ∨ package = "")
    (empty : c.package = "") : (ofMentioned package own mentioned).claims c.container := by
  have near : c.package = package := empty.trans (reachable.resolve_left (· empty)).symm
  exact claims_of_mem_near (mem_near.2 (.inr ⟨List.mem_map_of_mem mem, near⟩))

/-- The name that is written for a class stands for the class. -/
theorem resolve_written (back : ∀ c ∈ mentioned, c.parsesBack) (mem : c ∈ mentioned)
    (reachable : c.package ≠ "" ∨ package = "") :
    (fileScope package own mentioned).resolve ((ofMentioned package own mentioned).written c)
      = c := by
  unfold written
  split
  · rename_i short
    have claims : (ofMentioned package own mentioned).claims c.container := by
      rcases Bool.or_eq_true_iff.1 short with claims | empty
      · exact claims
      · exact claims_of_package_eq_empty mem reachable (of_decide_eq_true empty)
    rw [FileScope.resolve, if_pos rfl, lookUp_outermost back mem reachable claims]
    rfl
  · rename_i full
    have named : c.package ≠ "" := fun empty => full (by simp [empty])
    rw [FileScope.resolve, if_neg named]

end

end AssistedInjection.Source
