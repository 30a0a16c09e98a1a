import AssistedInjection.Proofs.Output.Place
import AssistedInjection.Proofs.Rounds.History
import AssistedInjection.Proofs.Validation.Plans

/-!
Which generated files can meet. A file is named for the package and the innermost simple name of its
class, so two classes nested in different ones, but called alike, get one file between them:

    com.test.First.Api   ──▶  com/test/Api_AssistedFactory.kt  ◀──   com.test.Second.Api

Unless a name holds a slash, that is the only way to meet. In any run, files of classes that differ
in package or innermost name go to different places, and writing one leaves the other as it is.
-/

namespace AssistedInjection.Rounds

open Kotlin Declaration Validation Source Output Checks

/-- Two classes whose factories are called alike. -/
def NamedAlike (n n' : ClassName) : Prop :=
  n.package = n'.package ∧ n.simpleName = n'.simpleName

/-- A file that carries the name of the factory of a class. -/
def NamedFor (n : ClassName) (f : GeneratedFile) : Prop :=
  f.package = n.package ∧ f.typeName = n.simpleName ++ suffix

/-- Classes that are nested in no other are called alike only if they are the same. -/
theorem NamedAlike.eq_of_topLevel {n n' : ClassName} (alike : NamedAlike n n') (h : n.nested = [])
    (h' : n'.nested = []) : n = n' := by
  obtain ⟨package, simple⟩ := alike
  rw [ClassName.simpleName, ClassName.simpleName, h, h'] at simple
  cases n
  cases n'
  simp_all

/-- A plan is for the class that was validated and comes from its source. -/
theorem plan_of_validate {m : Markers} {find : Lookup} {c : ClassDeclaration} {plan : Plan}
    (accepted : validate m find c = .ok plan) :
    plan.annotated = c.name ∧ plan.origin = c.source := by
  obtain ⟨_, _, _, _, h⟩ := validate_eq_ok_iff.1 accepted
  exact ⟨h.annotated, h.origin⟩

theorem validate_of_judge {m : Markers} {first second : Lookup} {c : ClassDeclaration}
    {plan : Plan} (judged : judge m first second c = .planned plan) :
    validate m second c = .ok plan := by
  unfold judge at judged
  split at judged
  · split at judged
    · rename_i accepted
      cases judged
      exact accepted
    · cases judged
    · cases judged
  · cases judged

section

variable {σ ε : Type} {m : Markers} {r : Resolver} {write : Sink σ ε} {n : ClassName}
  {f : GeneratedFile}

theorem Progress.planned_of_event? {p : Progress σ ε} {c : ClassDeclaration}
    (event : p.event? m r write c = some (.written n f)) :
    c.name = n ∧ ∃ i plan, validate m (r.answer i) c = .ok plan ∧ render plan m = f := by
  unfold event? at event
  split at event
  · cases event
  · rw [Option.some.injEq] at event
    unfold Outcome.event at event
    split at event
    · cases event
    · cases event
    · rename_i plan judged
      split at event
      · cases event
        exact ⟨rfl, _, plan, validate_of_judge judged, rfl⟩
      · cases event

/-- Every file that a round writes was planned for a candidate. -/
theorem Progress.planned_of_trace (cs : List ClassDeclaration) (p : Progress σ ε)
    (mem : .written n f ∈ p.trace m r write cs) :
    ∃ c ∈ cs, c.name = n ∧ ∃ i plan, validate m (r.answer i) c = .ok plan ∧ render plan m = f := by
  induction cs generalizing p with
  | nil => cases mem
  | cons c cs ih =>
    rcases List.mem_append.1 mem with now | later
    · exact ⟨c, List.mem_cons_self .., planned_of_event? (Option.mem_toList.1 now)⟩
    · obtain ⟨c', mem, planned⟩ := ih _ later
      exact ⟨c', List.mem_cons_of_mem _ mem, planned⟩

/-- Every file that a round writes is named for its class. -/
theorem Progress.namedFor_of_trace (cs : List ClassDeclaration) (p : Progress σ ε)
    (mem : .written n f ∈ p.trace m r write cs) : NamedFor n f := by
  obtain ⟨c, -, rfl, i, plan, accepted, rfl⟩ := p.planned_of_trace cs mem
  rw [← (plan_of_validate accepted).1]
  exact ⟨rfl, rfl⟩

/-- Every file that a run writes is named for its class. -/
theorem History.namedFor_of_run (as : List (Action σ ε)) {h : History σ}
    (named : .written n f ∈ h.log → NamedFor n f) (mem : .written n f ∈ (h.run as).log) :
    NamedFor n f := by
  rcases mem_log_run as mem with old | ⟨r, write, -, s, store, -, new⟩
  · exact named old
  · exact Progress.namedFor_of_trace _ _ new

end

/-- Files named for classes carry one name exactly when the classes are called alike. -/
theorem NamedFor.same_iff {n n' : ClassName} {f f' : GeneratedFile} (h : NamedFor n f)
    (h' : NamedFor n' f') :
    (f.package = f'.package ∧ f.typeName = f'.typeName) ↔ NamedAlike n n' := by
  rw [h.1, h.2, h'.1, h'.2, NamedAlike]
  simp

namespace History

variable {σ ε : Type}

/-- Two files of a run carry one package and name exactly when their classes share package and
innermost name, which two top-level classes never do. Where packages and names make components of a
path, the files then go to one path, and else to different places, so that writing one leaves what
the other holds. -/
theorem replaced_only_if_named_alike (m : Markers) (store : σ) (as : List (Action σ ε))
    {n n' : ClassName} {f f' : GeneratedFile}
    (written : .written n f ∈ ((start (.start m) store).run as).log)
    (written' : .written n' f' ∈ ((start (.start m) store).run as).log) :
    ((f.package = f'.package ∧ f.typeName = f'.typeName) ↔ NamedAlike n n') ∧
      (NamedAlike n n' → n.nested = [] → n'.nested = [] → n = n') ∧
      (Placeable f → Placeable f' →
        (∀ root, pathFor root f = pathFor root f' ↔ NamedAlike n n') ∧
        (¬ NamedAlike n n' → ∀ filer : Filer,
          (Filer.write f' filer).2.tree.contentOf? (placeOf (pathFor filer.root f))
            = filer.tree.contentOf? (placeOf (pathFor filer.root f)))) := by
  have named : NamedFor n f := namedFor_of_run as (fun old => by cases old) written
  have named' : NamedFor n' f' := namedFor_of_run as (fun old => by cases old) written'
  have alike := named.same_iff named'
  refine ⟨alike, NamedAlike.eq_of_topLevel,
    fun h h' => ⟨fun root => ⟨fun same => ?_, fun same => ?_⟩, fun apart filer => ?_⟩⟩
  · rw [← alike, ← h.placeOf_pathFor_eq_iff h' root, same]
  · obtain ⟨package, name⟩ := alike.2 same
    rw [pathFor, pathFor, GeneratedFile.fileName, GeneratedFile.fileName, package, name]
  · refine contentOf?_filer_write f' filer fun same => apart ?_
    exact alike.1 ((h.placeOf_pathFor_eq_iff h' filer.root).1 same)

open Sample in
/-- A build of two components, called as given, that take no parameters. -/
def pair (first second : ClassName) : SymbolTable :=
  .ofList [factory [], { component "First" [] with name := first },
    { component "Second" [] with name := second }]

open Sample in
/-- What one round over two such components writes. -/
def written (first second : ClassName) : List (ClassName × GeneratedFile) :=
  writes ((start (.start .standard) []).run
    [.process (.ofTable (pair first second)) unlimited]).log

open Sample in
/-- Two components called alike get one file, and so do two of which one has a slash in its name. -/
theorem one_file_for_two :
    ((written ((name "First").inside "Api") ((name "Second").inside "Api")).map
        fun w => (w.1, w.2.package, w.2.typeName, pathFor "" w.2))
      = [((name "First").inside "Api", "com.test", "Api_AssistedFactory",
            "com/test/Api_AssistedFactory.kt"),
          ((name "Second").inside "Api", "com.test", "Api_AssistedFactory",
            "com/test/Api_AssistedFactory.kt")] ∧
    ((written (.topLevel "com" "test/Api") (name "Api")).map fun w => (w.1, pathFor "" w.2))
      = [(.topLevel "com" "test/Api", "com/test/Api_AssistedFactory.kt"),
          (name "Api", "com/test/Api_AssistedFactory.kt")] := by
  decide +kernel

open Sample in
/-- Two components of one outer class that differ in their innermost names. -/
theorem replaced_only_if_named_alike_in_one_class :
    ∃ f f' : GeneratedFile,
      written ((name "First").inside "Api") ((name "First").inside "Service")
          = [((name "First").inside "Api", f), ((name "First").inside "Service", f')] ∧
        Placeable f ∧ Placeable f' ∧ pathFor "out" f ≠ pathFor "out" f' ∧
        ∀ filer : Filer,
          (Filer.write f' filer).2.tree.contentOf? (placeOf (pathFor filer.root f))
            = filer.tree.contentOf? (placeOf (pathFor filer.root f)) := by
  let n := (name "First").inside "Api"
  let n' := (name "First").inside "Service"
  let f := ((written n n').get ⟨0, by decide⟩).2
  let f' := ((written n n').get ⟨1, by decide⟩).2
  have both : written n n' = [(n, f), (n', f')] := by rfl
  have first : (n, f) ∈ written n n' := by simp [both]
  have second : (n', f') ∈ written n n' := by simp [both]
  have placeable : Placeable f := ⟨by decide, by decide, by decide⟩
  have placeable' : Placeable f' := ⟨by decide, by decide, by decide⟩
  have apart : ¬ NamedAlike n n' := fun alike => absurd alike.2 (by decide)
  obtain ⟨-, -, places⟩ := replaced_only_if_named_alike .standard []
    [.process (.ofTable (pair n n')) unlimited] (mem_writes.1 first) (mem_writes.1 second)
  obtain ⟨paths, kept⟩ := places placeable placeable'
  exact ⟨f, f', both, placeable, placeable', (paths "out").not.2 apart, kept apart⟩

end History

end AssistedInjection.Rounds
