import AssistedInjection.Proofs.Rounds.History
import AssistedInjection.Proofs.Rounds.Outstanding
import AssistedInjection.Proofs.SymbolTable
import AssistedInjection.Proofs.Validation.Waiting

/-!
When types become known does not matter. Earlier rounds may see fewer classes and more unresolved
references than the last one, and so settle fewer classes, but each one that they settle they settle
as the last round would have done.

    round 1     A? deferred    B written    (C is not there yet)
    round 2     A  written                  C? deferred
    round 3                                 C  reported
    at once     A  written     B written    C  reported
-/

namespace AssistedInjection

open Kotlin Declaration Validation Source

/-- A table that an earlier round may see: its classes are those of the full table with some
references unresolved, and it declares the bound types of its candidates if the full table does. -/
structure SymbolTable.Anticipates (m : Markers) (early full : SymbolTable) : Prop where
  classes : ∀ c ∈ early.classes, ∃ c' ∈ full.classes, c.Obscures c'
  bounds : ∀ c ∈ early.annotatedWith m.contributesAssistedFactory, ∀ b, boundName? m c = some b →
    (b ∈ early.names ↔ b ∈ full.names)

/-- A table of the same classes with some references unresolved. -/
theorem SymbolTable.anticipates_of_forall₂ {early full : SymbolTable} (m : Markers)
    (h : List.Forall₂ ClassDeclaration.Obscures early.classes full.classes) :
    early.Anticipates m full := by
  have names : early.names = full.names := Checks.map_eq_map h fun c c' hc => hc.name
  refine ⟨fun c mem => ?_, fun _ _ b _ => by rw [names]⟩
  obtain ⟨i, here⟩ := List.getElem?_of_mem mem
  rcases Checks.rel_cases (Checks.getElem?_rel h i) with ⟨absent, -⟩ | ⟨d, c', found, found', hc⟩
  · rw [here] at absent
    cases absent
  · rw [here] at found
    cases found
    exact ⟨c', List.mem_of_getElem? found', hc⟩

namespace Rounds

section

variable {m : Markers} {early full : SymbolTable} (anticipates : early.Anticipates m full)
  {c : ClassDeclaration} (candidate : c ∈ early.annotatedWith m.contributesAssistedFactory)

include anticipates candidate

/-- A candidate's bound type is found in both tables or in none. -/
theorem bound_rel (b : ClassName) (named : boundName? m c = some b) :
    Option.Rel ClassDeclaration.Obscures (early.get? b) (full.get? b) := by
  have declared := anticipates.bounds c candidate b named
  cases found : early.get? b with
  | none =>
    have absent : full.get? b = none := by
      rw [SymbolTable.get?_eq_none_iff, ← declared, ← SymbolTable.get?_eq_none_iff, found]
    rw [absent]
    exact .none
  | some d =>
    obtain ⟨mem, here⟩ := SymbolTable.get?_eq_some_iff.1 found
    obtain ⟨d', mem', hd⟩ := anticipates.classes d mem
    have found' : full.get? b = some d' :=
      SymbolTable.get?_eq_some_iff.2 ⟨mem', hd.name ▸ here⟩
    rw [found']
    exact .some hd

/-- A candidate of an earlier round has to wait, or it is a candidate of the last round and judged
the same there. -/
theorem verdict_cases :
    (∃ unresolved, verdict m (.ofTable early) c = .deferred unresolved) ∨
      ∃ c' ∈ full.annotatedWith m.contributesAssistedFactory, c.name = c'.name ∧
        verdict m (.ofTable early) c = verdict m (.ofTable full) c' := by
  obtain ⟨mem, marked⟩ := List.mem_filter.1 candidate
  obtain ⟨c', mem', hc⟩ := anticipates.classes c mem
  cases ready : unresolvedReferences m early.get? c with
  | cons s ss =>
    refine .inl ⟨s :: ss, ?_⟩
    simp only [verdict, judge, Resolver.ofTable, ready]
  | nil =>
    obtain ⟨same, ready'⟩ :=
      sameChecks_of_obscures hc (bound_rel anticipates candidate) ready
    refine .inr ⟨c', List.mem_filter.2 ⟨mem', ?_⟩, hc.name, ?_⟩
    · exact (isSome_annotationFor? hc.annotations _).symm.trans marked
    · simp only [verdict, judge, Resolver.ofTable, ready, ready', validate_congr same]

end

/-- All that is to be done about a table. -/
def agenda (m : Markers) (t : SymbolTable) : List Event :=
  (Session.start m).outstanding (.ofTable t)

theorem agenda_eq {m : Markers} {t : SymbolTable} (distinct : t.names.Nodup) :
    agenda m t = (t.annotatedWith m.contributesAssistedFactory).map (due m (.ofTable t)) := by
  have names : ((t.annotatedWith m.contributesAssistedFactory).map (·.name)).Nodup :=
    distinct.sublist (List.filter_sublist.map _)
  rw [agenda, Session.outstanding]
  exact congrArg _ (fresh_eq_self names fun _ _ => List.not_mem_nil)

namespace History

/-- Logs that settle the same classes in the same way tell of the same writes and reports. -/
theorem Balanced.perm {σ : Type} {h h' : History σ} (balanced : h.Balanced)
    (balanced' : h'.Balanced)
    (same : ∀ e, (∀ d, e ≠ .deferred d) → (e ∈ h.log ↔ e ∈ h'.log)) :
    (writes h.log).Perm (writes h'.log) ∧ (reports h.log).Perm (reports h'.log) := by
  constructor
  · refine (List.perm_ext_iff_of_nodup balanced.nodup.1 balanced'.nodup.1).2 ?_
    rintro ⟨n, file⟩
    rw [mem_writes, mem_writes]
    exact same _ fun _ h => by cases h
  · refine (List.perm_ext_iff_of_nodup balanced.nodup.2 balanced'.nodup.2).2 ?_
    rintro ⟨n, d⟩
    rw [mem_reports, mem_reports]
    exact same _ fun _ h => by cases h

section

variable {σ ε : Type} {write : Sink σ ε} (reliable : write.Reliable) {m : Markers}
  {full : SymbolTable} (distinct : full.names.Nodup)

/-- A history in which every class was settled as the agenda of the full table says. -/
structure OnSchedule (m : Markers) (full : SymbolTable) (h : History σ) : Prop where
  markers : h.session.markers = m
  obeys : Obeys h.log (agenda m full)

include reliable

/-- The last round does what the earlier ones left to do. -/
theorem OnSchedule.last {h : History σ} (onSchedule : h.OnSchedule m full) (balanced : h.Balanced) :
    let later := h.act (.process (.ofTable full) write)
    later.log = h.log ++ leftover h.log (agenda m full) ∧
      later.session.pending = deferrals (agenda m full) := by
  have left : h.session.trace (.ofTable full) write h.store = leftover h.log (agenda m full) := by
    rw [h.session.trace_of_reliable (Resolver.isStable_ofTable full) write h.store reliable]
    refine Session.outstanding_eq_leftover onSchedule.markers (fun n => ?_) _
    rw [balanced.emitted, balanced.failed]
    rfl
  have names := (Session.start m).outstanding_names (.ofTable full)
  refine ⟨by rw [act, left], ?_⟩
  rw [act, Session.session_process, left]
  exact onSchedule.obeys.deferrals_leftover names

include distinct

/-- A round over an earlier table settles its classes as the last round would. -/
theorem OnSchedule.act {h : History σ} (onSchedule : h.OnSchedule m full) {early : SymbolTable}
    (anticipates : early.Anticipates m full) :
    (h.act (.process (.ofTable early) write)).OnSchedule m full := by
  have stable := Resolver.isStable_ofTable early
  refine ⟨onSchedule.markers, fun e mem => ?_⟩
  rcases List.mem_append.1 mem with before | now
  · exact onSchedule.obeys e before
  rw [h.session.trace_of_reliable stable write h.store reliable, Session.outstanding,
    onSchedule.markers] at now
  obtain ⟨c, taken, rfl⟩ := List.mem_map.1 now
  have candidate : c ∈ early.annotatedWith m.contributesAssistedFactory :=
    (mem_of_mem_fresh taken).1
  rcases verdict_cases anticipates candidate with
    ⟨unresolved, waits⟩ | ⟨c', candidate', named, same⟩
  · exact .inl ⟨⟨c.name, unresolved⟩, by rw [due, waits]; rfl⟩
  · refine .inr ?_
    rw [agenda_eq distinct, due, same, named]
    exact List.mem_map.2 ⟨c', candidate', rfl⟩

theorem OnSchedule.run {tables : List SymbolTable}
    (anticipates : ∀ t ∈ tables, t.Anticipates m full) {h : History σ}
    (onSchedule : h.OnSchedule m full) :
    (h.run (tables.map fun t => .process (.ofTable t) write)).OnSchedule m full := by
  induction tables generalizing h with
  | nil => exact onSchedule
  | cons t ts ih =>
    refine ih (fun t' mem => anticipates t' (List.mem_cons_of_mem _ mem)) ?_
    exact onSchedule.act reliable distinct (anticipates t (List.mem_cons_self ..))

omit distinct in
/-- Whatever tables the earlier rounds see, in the end the same classes have been written, with the
same files, and the same ones have been reported, with the same diagnostics, as in one round over
the full table; and the same ones are pending. -/
theorem settled_regardless_of_schedule (m : Markers) (tables : List SymbolTable)
    (classes : List ClassDeclaration)
    (anticipates : ∀ t ∈ tables, t.Anticipates m (SymbolTable.ofList classes)) (store : σ) :
    let round (t : SymbolTable) := Action.process (.ofTable t) write
    let staged := (start (.start m) store).run
      ((tables ++ [SymbolTable.ofList classes]).map round)
    let alone := (start (.start m) store).run [round (SymbolTable.ofList classes)]
    (writes staged.log).Perm (writes alone.log) ∧
      (reports staged.log).Perm (reports alone.log) ∧
      staged.session.emitted.Perm alone.session.emitted ∧
      staged.session.failed.Perm alone.session.failed ∧
      staged.session.pending = alone.session.pending ∧
      staged.diagnostics.Perm alone.diagnostics ∧
      ∀ files, Sink.Keeps write files → (files staged.store).Perm (files alone.store) := by
  have distinct := SymbolTable.nodup_names_ofList classes
  generalize SymbolTable.ofList classes = full at anticipates distinct ⊢
  intro round staged alone
  have fresh : (start (.start m) store).OnSchedule m full := ⟨rfl, fun _ mem => nomatch mem⟩
  -- the last round comes after rounds that kept to its agenda
  let early := (start (.start m) store).run (tables.map round)
  have onSchedule : early.OnSchedule m full := fresh.run reliable distinct anticipates
  have balanced : early.Balanced := balanced_run _ (balanced_start m store)
  have last : staged = early.act (round full) := by
    simp only [staged, early, run, List.map_append, List.foldl_append]
    rfl
  obtain ⟨log, pending⟩ := onSchedule.last reliable balanced
  rw [← last] at log pending
  obtain ⟨log', pending'⟩ := fresh.last reliable (balanced_start m store)
  have stagedBalanced : staged.Balanced := balanced_run _ (balanced_start m store)
  have aloneBalanced : alone.Balanced := balanced_run _ (balanced_start m store)
  have names := (Session.start m).outstanding_names (.ofTable full)
  obtain ⟨written, reported⟩ := stagedBalanced.perm aloneBalanced fun e settles => by
    rw [log, onSchedule.obeys.mem_append_leftover_iff names settles]
    exact (log' ▸ fresh.obeys.mem_append_leftover_iff names settles).symm
  refine ⟨written, reported, ?_, ?_, pending.trans pending'.symm, ?_, fun files keeps => ?_⟩
  · rw [stagedBalanced.emitted, aloneBalanced.emitted]
    exact written.map _
  · rw [stagedBalanced.failed, aloneBalanced.failed]
    exact reported.map _
  · rw [stagedBalanced.diagnostics, aloneBalanced.diagnostics]
    exact reported.map _
  · have kept (ts : List SymbolTable) :
        ∀ a ∈ ts.map round, ∃ r w, a = .process r w ∧ Sink.Keeps w files := by
      intro a mem
      obtain ⟨t, -, rfl⟩ := List.mem_map.1 mem
      exact ⟨_, write, rfl, keeps⟩
    have gained := files_rounds (kept (tables ++ [full])) (.start m) store
    have gained' := files_rounds (kept [full]) (.start m) store
    rw [gained, show files alone.store = _ from gained']
    exact (written.map _).append_left _

end

open Sample in
theorem component_obscures (simple : String) {ps ps' : List Parameter}
    (h : List.Forall₂ Parameter.Obscures ps ps') :
    (component simple ps).Obscures (component simple ps') :=
  { ClassDeclaration.Obscures.refl (component simple ps) with
    constructors :=
      .cons ⟨rfl, h, .none, List.forall₂_same.2 fun a _ => .refl a, rfl⟩ .nil }

open Sample in
/-- A component whose parameter's type comes in late is written last instead of first. -/
theorem settled_regardless_of_late_type :
    let early := mixed (.unresolved "Later")
    let full := mixed (standardType "Long")
    let round (t : SymbolTable) := Action.process (.ofTable t) unlimited
    let staged := (start (.start .standard) []).run ([early, full].map round)
    let alone := (start (.start .standard) []).run [round full]
    Sink.Reliable unlimited ∧ early.Anticipates .standard full ∧
      staged.session.emitted = [name "First", name "Second", name "Late"] ∧
      alone.session.emitted = [name "Late", name "First", name "Second"] ∧
      (writes staged.log).Perm (writes alone.log) ∧
      (reports staged.log).Perm (reports alone.log) ∧
      staged.session.pending = alone.session.pending := by
  have reliable : Sink.Reliable unlimited := fun _ _ => rfl
  have late : (component "Late" [assisted "id" (.unresolved "Later")]).Obscures
      (component "Late" [assisted "id" (standardType "Long")]) :=
    component_obscures _ (.cons ⟨rfl, .inr ⟨_, rfl⟩, List.forall₂_same.2 fun a _ => .refl a⟩ .nil)
  have others : List.Forall₂ ClassDeclaration.Obscures ready ready :=
    List.forall₂_same.2 fun c _ => .refl c
  have anticipates : SymbolTable.Anticipates .standard (mixed (.unresolved "Later"))
      (mixed (standardType "Long")) :=
    SymbolTable.anticipates_of_forall₂ _ (.cons (.refl _) (.cons late others))
  have each : ∀ t ∈ [mixed (.unresolved "Later")],
      t.Anticipates .standard (mixed (standardType "Long")) := by
    intro t mem
    obtain rfl := List.mem_singleton.1 mem
    exact anticipates
  obtain ⟨written, reported, -, -, pending, -⟩ :=
    settled_regardless_of_schedule reliable .standard _ _ each []
  exact ⟨reliable, anticipates, by decide, by decide, written, reported, pending⟩

end History

end Rounds

end AssistedInjection
