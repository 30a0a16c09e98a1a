import AssistedInjection.Proofs.Output.Overwriting
import AssistedInjection.Proofs.Rounds.Candidates

/-!
What a filer says it has written, against what there is. Over any rounds the list of dependencies
grows with the emitted classes, and the regular files are those from before with the files of that
list written over them:

    emitted        First                Second               (Third was refused)
    dependencies   out/First….kt        out/Second….kt
    files          as before, then the first, then the second

A file system is asked for three things only: making directories changes no file, a write sets the
content of its file, and a failed write changes none. A tree that is kept in memory is one of those.
-/

namespace AssistedInjection.Output

open Kotlin Declaration Validation Source Rounds

/-! ### File systems -/

/-- A file system. A call that fails may leave it changed, too. -/
structure FileSystem (τ : Type) where
  makeDirectories : τ → String → Except String Unit × τ
  write : τ → String → String → Except String Unit × τ
  /-- The content of the regular file at a place. -/
  contentOf? : τ → List String → Option String

namespace FileSystem

variable {τ : Type}

/-- A file system in which only a write that succeeds changes a file, and only the one it is for. -/
structure Lawful (fs : FileSystem τ) : Prop where
  made : ∀ t path, fs.contentOf? (fs.makeDirectories t path).2 = fs.contentOf? t
  written : ∀ {t path content t'}, fs.write t path content = (.ok (), t') →
    fs.contentOf? t' = Function.update (fs.contentOf? t) (placeOf path) (some content)
  refused : ∀ {t path content reason t'}, fs.write t path content = (.error reason, t') →
    fs.contentOf? t' = fs.contentOf? t

/-- The trees that are kept in memory. -/
def inMemory : FileSystem FileTree where
  makeDirectories t path :=
    match t.makeDirectories path with
    | (t, true) => (.ok (), t)
    | (t, false) => (.error "cannot make the directory", t)
  write t path content :=
    match t.write path content with
    | some t => (.ok (), t)
    | none => (.error "cannot write the file", t)
  contentOf? := FileTree.contentOf?

theorem lawful_inMemory : inMemory.Lawful where
  made t path := by
    have same := contentOf?_makeDirectories t path
    unfold inMemory
    dsimp only
    split
    · rename_i made
      rwa [made] at same
    · rename_i made
      rwa [made] at same
  written {t path content t'} wrote := by
    unfold inMemory at wrote
    dsimp only at wrote
    split at wrote
    · rename_i written
      cases wrote
      exact contentOf?_write written
    · cases wrote
  refused {t path content reason t'} failed := by
    unfold inMemory at failed
    dsimp only at failed
    split at failed
    · cases failed
    · cases failed
      rfl

/-- A filer in a file system: where it writes, and what it has written from which source. -/
structure Desk (τ : Type) where
  root : String
  tree : τ
  dependencies : List (String × Option String)

/-- Writes a file into the directory of its package, which is made first. -/
def file (fs : FileSystem τ) : Sink (Desk τ) WriteError := fun file desk =>
  let path := pathFor desk.root file
  match fs.makeDirectories desk.tree (parent path) with
  | (.error reason, tree) => (.error ⟨parent path, reason⟩, { desk with tree })
  | (.ok (), tree) =>
    match fs.write tree path file.content with
    | (.error reason, tree) => (.error ⟨path, reason⟩, { desk with tree })
    | (.ok (), tree) =>
      (.ok (), { desk with tree, dependencies := desk.dependencies ++ [(path, file.origin)] })

end FileSystem

/-! ### What a filer shows -/

/-- What a filer shows of itself: where it writes, what it has written from which source, and what
the regular files hold. -/
structure Ledger where
  root : String
  dependencies : List (String × Option String)
  contentOf? : List String → Option String

namespace Ledger

/-- The ledger with one more file. -/
def enter (l : Ledger) (f : GeneratedFile) : Ledger :=
  { l with
    dependencies := l.dependencies ++ [(pathFor l.root f, f.origin)]
    contentOf? := Function.update l.contentOf? (placeOf (pathFor l.root f)) (some f.content) }

theorem foldl_enter (fs : List GeneratedFile) (l : Ledger) :
    fs.foldl enter l =
      { l with
        dependencies := l.dependencies ++ fs.map fun f => (pathFor l.root f, f.origin)
        contentOf? := fs.foldl
          (fun look f => Function.update look (placeOf (pathFor l.root f)) (some f.content))
          l.contentOf? } := by
  induction fs generalizing l with
  | nil => simp
  | cons f fs ih =>
    rw [List.foldl_cons, ih]
    simp [enter]

end Ledger

/-- The ledger of a running filer. -/
def Filer.ledger (filer : Filer) : Ledger :=
  ⟨filer.root, filer.dependencies, filer.tree.contentOf?⟩

/-- Whether a running filer can make the directories of a path. -/
def Filer.makes (filer : Filer) (path : String) : Bool := (filer.tree.makeDirectories path).2

namespace FileSystem

variable {τ : Type}

/-- The ledger of a filer in a file system. -/
def ledger (fs : FileSystem τ) (d : Desk τ) : Ledger :=
  ⟨d.root, d.dependencies, fs.contentOf? d.tree⟩

/-- Whether a filer in a file system can make the directories of a path. -/
def makes (fs : FileSystem τ) (d : Desk τ) (path : String) : Bool :=
  (fs.makeDirectories d.tree path).1.isOk

end FileSystem

/-- A sink that enters each file it writes in its ledger. If it fails, it enters nothing and names
the directory that it could not make, or else the file. -/
structure Filing {σ : Type} (write : Sink σ WriteError) (ledger : σ → Ledger)
    (makes : σ → String → Bool) : Prop where
  tracks : write.Tracks ledger Ledger.enter
  blames : ∀ {f store e store'}, write f store = (.error e, store') →
    e.path = if makes store (parent (pathFor (ledger store).root f))
      then pathFor (ledger store).root f else parent (pathFor (ledger store).root f)

namespace FileSystem

variable {τ : Type} (fs : FileSystem τ)

theorem file_eq_ok {f : GeneratedFile} {d d' : Desk τ} (done : fs.file f d = (.ok (), d')) :
    ∃ made tree, fs.makeDirectories d.tree (parent (pathFor d.root f)) = (.ok (), made) ∧
      fs.write made (pathFor d.root f) f.content = (.ok (), tree) ∧
      d' = { d with tree, dependencies := d.dependencies ++ [(pathFor d.root f, f.origin)] } := by
  unfold file at done
  rcases made : fs.makeDirectories d.tree (parent (pathFor d.root f)) with ⟨⟨reason⟩ | ⟨⟨⟩⟩, tree⟩
  · simp [made] at done
  · rcases wrote : fs.write tree (pathFor d.root f) f.content with ⟨⟨reason⟩ | ⟨⟨⟩⟩, tree'⟩
    · simp [made, wrote] at done
    · simp only [made, wrote, Prod.mk.injEq, true_and] at done
      exact ⟨tree, tree', rfl, wrote, done.symm⟩

theorem file_eq_error {f : GeneratedFile} {d d' : Desk τ} {e : WriteError}
    (failed : fs.file f d = (.error e, d')) :
    (∃ tree reason, fs.makeDirectories d.tree (parent (pathFor d.root f)) = (.error reason, tree) ∧
        e.path = parent (pathFor d.root f) ∧ d' = { d with tree }) ∨
      ∃ made tree reason,
        fs.makeDirectories d.tree (parent (pathFor d.root f)) = (.ok (), made) ∧
        fs.write made (pathFor d.root f) f.content = (.error reason, tree) ∧
        e.path = pathFor d.root f ∧ d' = { d with tree } := by
  unfold file at failed
  rcases made : fs.makeDirectories d.tree (parent (pathFor d.root f)) with ⟨⟨reason⟩ | ⟨⟨⟩⟩, tree⟩
  · simp only [made, Prod.mk.injEq, Except.error.injEq] at failed
    obtain ⟨blame, left⟩ := failed
    exact .inl ⟨tree, reason, rfl, by rw [← blame], left.symm⟩
  · rcases wrote : fs.write tree (pathFor d.root f) f.content with ⟨⟨reason⟩ | ⟨⟨⟩⟩, tree'⟩
    · simp only [made, wrote, Prod.mk.injEq, Except.error.injEq] at failed
      obtain ⟨blame, left⟩ := failed
      exact .inr ⟨tree, tree', reason, rfl, wrote, by rw [← blame], left.symm⟩
    · simp [made, wrote] at failed

variable {fs}

theorem Lawful.filing (lawful : fs.Lawful) : Filing fs.file fs.ledger fs.makes := by
  have kept {t t' : τ} {path : String} {done : Except String Unit}
      (made : fs.makeDirectories t path = (done, t')) : fs.contentOf? t' = fs.contentOf? t := by
    rw [← lawful.made t path, made]
  refine ⟨⟨fun done => ?_, fun failed => ?_⟩, fun failed => ?_⟩
  · obtain ⟨t, t', made, wrote, rfl⟩ := fs.file_eq_ok done
    simp only [ledger, Ledger.enter, lawful.written wrote, kept made]
  · rcases fs.file_eq_error failed with ⟨t, _, made, -, rfl⟩ | ⟨t, t', _, made, wrote, -, rfl⟩
    · simp only [ledger, kept made]
    · simp only [ledger, lawful.refused wrote, kept made]
  · rcases fs.file_eq_error failed with ⟨t, _, made, path, -⟩ | ⟨t, t', _, made, wrote, path, -⟩
    · simp [ledger, makes, made, path, Except.isOk, Except.toBool]
    · simp [ledger, makes, made, path, Except.isOk, Except.toBool]

end FileSystem

namespace Filer

/-- A running filer as one of a file system that is kept in memory. -/
def desk (filer : Filer) : FileSystem.Desk FileTree :=
  ⟨filer.root, filer.tree, filer.dependencies⟩

theorem file_desk (f : GeneratedFile) (filer : Filer) :
    FileSystem.inMemory.file f filer.desk
      = ((Filer.write f filer).1, (Filer.write f filer).2.desk) := by
  unfold Filer.write FileSystem.file
  dsimp only [FileSystem.inMemory, desk]
  rcases filer.tree.makeDirectories (parent (pathFor filer.root f)) with ⟨tree, _ | _⟩
  · rfl
  · dsimp only
    cases tree.write (pathFor filer.root f) f.content <;> rfl

theorem makes_desk (filer : Filer) (path : String) :
    FileSystem.inMemory.makes filer.desk path = filer.makes path := by
  simp only [FileSystem.makes, FileSystem.inMemory, desk, makes]
  rcases filer.tree.makeDirectories path with ⟨tree, _ | _⟩ <;> rfl

theorem filing : Filing Filer.write Filer.ledger Filer.makes := by
  have whole := FileSystem.lawful_inMemory.filing
  refine ⟨⟨fun {f filer filer'} done => ?_, fun {f filer e filer'} failed => ?_⟩,
    fun {f filer e filer'} failed => ?_⟩
  · exact whole.tracks.written (by rw [file_desk, done])
  · exact whole.tracks.refused (e := e) (by rw [file_desk, failed])
  · rw [← makes_desk]
    exact whole.blames (by rw [file_desk, failed])

end Filer

/-! ### Rounds -/

/-- The file that a class is to have by some table: its factory, which comes from its source. -/
def FactoryOf (m : Markers) (tables : List SymbolTable) (n : ClassName) (f : GeneratedFile) : Prop :=
  ∃ t ∈ tables, ∃ c ∈ t.annotatedWith m.contributesAssistedFactory, c.name = n ∧
    f.origin = c.source ∧ ∃ plan, validate m t.get? c = .ok plan ∧ f = render plan m

/-- A ledger that is in step with the emitted classes: from one ledger to another exactly their
files were entered, one for each and in the same order. -/
structure InStep (m : Markers) (tables : List SymbolTable) (old new : Ledger)
    (emitted : List ClassName) (files : List GeneratedFile) : Prop where
  once : emitted.Nodup
  factories : List.Forall₂ (FactoryOf m tables) emitted files
  dependencies : new.dependencies
    = old.dependencies ++ files.map fun f => (pathFor old.root f, f.origin)
  contents : new.contentOf? = files.foldl
    (fun look f => Function.update look (placeOf (pathFor old.root f)) (some f.content))
    old.contentOf?

section

variable {σ : Type} {write : Sink σ WriteError} {ledger : σ → Ledger} {makes : σ → String → Bool}
  {m : Markers}

/-- Rounds over tables, with one session and one store. -/
def rounds (write : Sink σ WriteError) (m : Markers) (tables : List SymbolTable) (store : σ) :
    History σ :=
  (History.start (.start m) store).run (tables.map fun t => .process (.ofTable t) write)

theorem factoryOf_of_rounds {tables : List SymbolTable} {store : σ} {n : ClassName}
    {f : GeneratedFile} (mem : .written n f ∈ (rounds write m tables store).log) :
    FactoryOf m tables n f := by
  rcases History.mem_log_run _ mem with old | ⟨r, write', round, s, store', markers, traced⟩
  · cases old
  · obtain ⟨t, among, same⟩ := List.mem_map.1 round
    cases same
    obtain ⟨c, candidate, named, _, plan, accepted, rendered⟩ :=
      Progress.planned_of_trace _ _ traced
    have begun : s.markers = m := markers
    rw [begun] at candidate accepted rendered
    subst rendered
    exact ⟨t, among, c, candidate, named, (plan_of_validate accepted).2, plan, accepted, rfl⟩

/-- After any rounds the ledger is in step with the emitted classes. -/
theorem inStep_rounds (filing : Filing write ledger makes) (tables : List SymbolTable)
    (store : σ) :
    let h := rounds write m tables store
    ∃ files, InStep m tables (ledger store) (ledger h.store) h.session.emitted files := by
  intro h
  have balanced : h.Balanced := History.balanced_run _ (History.balanced_start m store)
  have tracked : ledger h.store
      = ((writes h.log).map (·.2)).foldl Ledger.enter (ledger store) := by
    refine History.view_rounds (fun a mem => ?_) _ store
    obtain ⟨t, -, rfl⟩ := List.mem_map.1 mem
    exact ⟨_, _, rfl, filing.tracks⟩
  rw [Ledger.foldl_enter] at tracked
  refine ⟨(writes h.log).map (·.2), ?_, ?_, by rw [tracked], by rw [tracked]⟩
  · exact (List.nodup_append.1 (List.nodup_append.1 balanced.once).1).1
  · rw [balanced.emitted, List.forall₂_map_left_iff, List.forall₂_map_right_iff,
      List.forall₂_same]
    exact fun w mem => factoryOf_of_rounds (mem_writes.1 mem)

/-- What stopped a round over a table that ended in an error: the file of one class, which is not
emitted. The ledger is what it was before that file, and the error names the directory that could
not be made or else the file. -/
def StoppedBy (write : Sink σ WriteError) (ledger : σ → Ledger) (makes : σ → String → Bool)
    (m : Markers) (t : SymbolTable) (next : Session.RoundResult σ WriteError) (e : WriteError) :
    Prop :=
  ∃ c ∈ t.annotatedWith m.contributesAssistedFactory, ∃ plan last,
    validate m t.get? c = .ok plan ∧ c.name ∉ next.session.emitted ∧
      write (render plan m) last = (.error e, next.store) ∧ ledger next.store = ledger last ∧
      let path := pathFor (ledger last).root (render plan m)
      e.path = if makes last (parent path) then path else parent path

theorem stoppedBy_of_error (filing : Filing write ledger makes) {s : Session} {t : SymbolTable}
    {store : σ} {e : WriteError}
    (failed : (s.process (.ofTable t) write store).outcome = .error e) :
    StoppedBy write ledger makes s.markers t (s.process (.ofTable t) write store) e := by
  have ended : (s.progress (.ofTable t) write store).failure = some e := by
    unfold Session.process at failed
    dsimp only at failed
    split at failed
    · rename_i e' ended
      cases failed
      exact ended
    · cases failed
  obtain ⟨before, c, after, plan, offered, stops⟩ := Progress.foldl_failure rfl ended
  have candidate : c ∈ t.annotatedWith s.markers.contributesAssistedFactory := by
    have mem : c ∈ before ++ c :: after := by simp
    rwa [← offered] at mem
  have missing : c.name ∉ (s.process (.ofTable t) write store).session.emitted := by
    have emitted := congrArg Progress.emitted stops.left
    intro there
    refine stops.new (List.mem_append_left _ (List.mem_append_right _ ?_))
    rw [← emitted]
    exact there
  exact ⟨c, candidate, plan, _, validate_of_judge stops.planned, missing, stops.refused,
    filing.tracks.refused stops.refused, filing.blames stops.refused⟩

variable (write ledger makes) in
/-- The books of a filer are right after rounds over some tables, and after each they go on to be
so: whatever stops a round leaves them in step with the emitted classes. -/
def KeepsBooks (m : Markers) (tables : List SymbolTable) (store : σ) : Prop :=
  let h := rounds write m tables store
  (∃ files, InStep m tables (ledger store) (ledger h.store) h.session.emitted files) ∧
    ∀ t e, (h.session.process (.ofTable t) write h.store).outcome = .error e →
      StoppedBy write ledger makes m t (h.session.process (.ofTable t) write h.store) e

theorem Filing.keepsBooks (filing : Filing write ledger makes) (m : Markers)
    (tables : List SymbolTable) (store : σ) : KeepsBooks write ledger makes m tables store := by
  have markers : (rounds write m tables store).session.markers = m := History.markers_run ..
  refine ⟨inStep_rounds filing tables store, fun t e failed => ?_⟩
  have stopped := stoppedBy_of_error filing failed
  rwa [markers] at stopped

end

/-- Over any rounds, in any tree and in any lawful file system, the dependencies of a filer are the
files of the emitted classes, in order, and the regular files are the initial ones with those
written over them. A round that ends in an error adds nothing for the file that failed. -/
theorem dependencies_follow_emitted (m : Markers) (tables : List SymbolTable) (root : String) :
    (∀ tree, KeepsBooks Filer.write Filer.ledger Filer.makes m tables (.ofTree root tree)) ∧
      ∀ (τ : Type) (fs : FileSystem τ), fs.Lawful → ∀ tree,
        KeepsBooks fs.file fs.ledger fs.makes m tables ⟨root, tree, []⟩ :=
  ⟨fun _ => Filer.filing.keepsBooks .., fun _ _ lawful _ => lawful.filing.keepsBooks ..⟩

open Sample in
/-- A directory that has the name of the second file. -/
theorem dependencies_follow_emitted_blocked :
    let blocked := "out/com/test/First_AssistedFactory.kt"
    let tree := (FileTree.empty.makeDirectories blocked).1
    let table := mixed (standardType "Long")
    let h := rounds Filer.write .standard [table] (.ofTree "out" tree)
    let next := h.session.process (.ofTable table) Filer.write h.store
    let e : WriteError := ⟨blocked, "cannot write the file"⟩
    h.session.emitted = [name "Late"] ∧
      h.store.dependencies = [("out/com/test/Late_AssistedFactory.kt", some "Api.kt")] ∧
      (∃ files, InStep .standard [table] (Filer.ofTree "out" tree).ledger h.store.ledger
        h.session.emitted files) ∧
      next.outcome = .error e ∧
      StoppedBy Filer.write Filer.ledger Filer.makes .standard table next e ∧
      KeepsBooks FileSystem.inMemory.file FileSystem.inMemory.ledger FileSystem.inMemory.makes
        .standard [table] ⟨"out", tree, []⟩ := by
  intro blocked tree table h next e
  have failed : next.outcome = .error e := by decide +kernel
  obtain ⟨running, any⟩ := dependencies_follow_emitted .standard [table] "out"
  obtain ⟨inStep, stopped⟩ := running tree
  exact ⟨by decide +kernel, by decide +kernel, inStep, failed, stopped table e failed,
    any _ _ FileSystem.lawful_inMemory tree⟩

end AssistedInjection.Output
