import AssistedInjection.Proofs.Sample

/-!
The history of a session: rounds with any resolvers and any sinks, in any order with the calls that
end or reset it. Whatever the resolvers answer and whichever writes fail, no class is settled twice:
it is written at most once, or else reported at most once, and what is pending is neither.
-/

namespace AssistedInjection.Rounds

open Kotlin Source

variable {σ ε : Type}

/-- What a host asks of a session. -/
inductive Action (σ ε : Type) where
  | process (r : Resolver) (write : Sink σ ε)
  | finish
  | reset

/-- A session with what was done in it since it was started or last reset. -/
structure History (σ : Type) where
  session : Session
  store : σ
  /-- The store as it was when the session was started or last reset. -/
  since : σ
  /-- What was handed to the reporter. -/
  diagnostics : List Diagnostic
  log : List Event

namespace History

/-- A session in which nothing has been done. -/
def start (s : Session) (store : σ) : History σ := ⟨s, store, store, [], []⟩

/-- The history one call later. -/
def act (h : History σ) : Action σ ε → History σ
  | .process r write =>
    let result := h.session.process r write h.store
    { h with
      session := result.session
      store := result.store
      diagnostics := h.diagnostics ++ result.diagnostics
      log := h.log ++ h.session.trace r write h.store }
  | .finish => { h with session := h.session.finish.2 }
  | .reset => start h.session.reset h.store

/-- The history some calls later. -/
def run (h : History σ) (as : List (Action σ ε)) : History σ := as.foldl act h

/-- The books of a session balance: its sets and its pending list agree with its log. -/
structure Balanced (h : History σ) : Prop where
  emitted : h.session.emitted = (writes h.log).map (·.1)
  failed : h.session.failed = (reports h.log).map (·.1)
  diagnostics : h.diagnostics = (reports h.log).map (·.2)
  once : (h.session.emitted ++ h.session.failed ++ h.session.pending.map (·.name)).Nodup

theorem balanced_start (m : Markers) (store : σ) : (start (.start m) store).Balanced := by
  constructor <;> simp [start, Session.start, writes, reports]

/-- A round keeps the books balanced: its events are about classes that are not settled yet. -/
theorem Balanced.process {h : History σ} (balanced : h.Balanced) (r : Resolver) (write : Sink σ ε) :
    (h.act (.process r write)).Balanced := by
  obtain ⟨distinct, fresh⟩ := h.session.trace_names r write h.store
  have new := nodup_concerned distinct
  simp only [act, Session.session_process]
  refine ⟨?_, ?_, ?_, ?_⟩
  · simp [balanced.emitted]
  · simp [balanced.failed]
  · simp [balanced.diagnostics, Session.diagnostics_process]
  · have before := (List.nodup_append.1 balanced.once).1
    have apart : (h.session.emitted ++ h.session.failed).Disjoint
        (concerned (h.session.trace r write h.store)) := by
      intro n old now
      obtain ⟨e, he, rfl⟩ := List.mem_map.1 (mem_names_of_concerned now)
      rcases List.mem_append.1 old with old | old
      · exact (fresh e he).1 old
      · exact (fresh e he).2 old
    have all := List.Nodup.append before new apart
    refine (List.Perm.nodup_iff ?_).1 all
    simp only [concerned, settled, List.append_assoc]
    refine .append_left _ ?_
    exact List.perm_append_comm_assoc ..

theorem Balanced.act {h : History σ} (balanced : h.Balanced) (a : Action σ ε) :
    (h.act a).Balanced := by
  cases a with
  | process r write => exact balanced.process r write
  | finish =>
    obtain ⟨emitted, failed, diagnostics, once⟩ := balanced
    refine ⟨emitted, failed, diagnostics, ?_⟩
    simpa [History.act, Session.finish] using (List.nodup_append.1 once).1
  | reset => exact balanced_start ..

theorem balanced_run (as : List (Action σ ε)) {h : History σ} (balanced : h.Balanced) :
    (h.run as).Balanced := by
  induction as generalizing h with
  | nil => exact balanced
  | cons a as ih => exact ih (balanced.act a)

/-- No write and no report is in the log twice. -/
theorem Balanced.nodup {h : History σ} (balanced : h.Balanced) :
    (writes h.log).Nodup ∧ (reports h.log).Nodup := by
  obtain ⟨settled, -, -⟩ := List.nodup_append'.1 balanced.once
  obtain ⟨emitted, failed, -⟩ := List.nodup_append'.1 settled
  rw [balanced.emitted] at emitted
  rw [balanced.failed] at failed
  exact ⟨emitted.of_map, failed.of_map⟩

theorem markers_act (h : History σ) (a : Action σ ε) :
    (h.act a).session.markers = h.session.markers := by
  cases a <;> rfl

theorem markers_run (as : List (Action σ ε)) (h : History σ) :
    (h.run as).session.markers = h.session.markers := by
  induction as generalizing h with
  | nil => rfl
  | cons a as ih =>
    exact (ih (h.act a)).trans (h.markers_act a)

/-- What is in the log was there before, or some round put it there. -/
theorem mem_log_run (as : List (Action σ ε)) {h : History σ} {e : Event}
    (mem : e ∈ (h.run as).log) :
    e ∈ h.log ∨ ∃ r write, .process r write ∈ as ∧ ∃ (s : Session) (store : σ),
      s.markers = h.session.markers ∧ e ∈ s.trace r write store := by
  induction as generalizing h with
  | nil => exact .inl mem
  | cons a as ih =>
    rcases ih mem with now | ⟨r, write, later, s, store, markers, traced⟩
    · cases a with
      | process r write =>
        rcases List.mem_append.1 now with old | new
        · exact .inl old
        · exact .inr ⟨r, write, List.mem_cons_self .., _, _, rfl, new⟩
      | finish => exact .inl now
      | reset => cases now
    · exact .inr ⟨r, write, List.mem_cons_of_mem _ later, s, store, markers.trans (h.markers_act a),
        traced⟩

/-- A view of the store changed by what the log says was written. -/
theorem view_run {α : Type} {view : σ → α} {add : α → GeneratedFile → α} (as : List (Action σ ε))
    {h : History σ} (tracks : ∀ r w, .process r w ∈ as → Sink.Tracks w view add)
    (told : view h.store = ((writes h.log).map (·.2)).foldl add (view h.since)) :
    view (h.run as).store
      = ((writes (h.run as).log).map (·.2)).foldl add (view (h.run as).since) := by
  induction as generalizing h with
  | nil => exact told
  | cons a as ih =>
    refine ih (fun r w mem => tracks r w (List.mem_cons_of_mem _ mem)) ?_
    cases a with
    | process r write =>
      have tracked := tracks r write (List.mem_cons_self ..)
      simp [act, Session.view_process _ _ _ _ tracked, told]
    | finish => exact told
    | reset => rfl

/-- A store that keeps its files holds what the log says was written. -/
theorem files_run {files : σ → List GeneratedFile} (as : List (Action σ ε)) {h : History σ}
    (keeps : ∀ r w, .process r w ∈ as → Sink.Keeps w files)
    (told : files h.store = files h.since ++ (writes h.log).map (·.2)) :
    files (h.run as).store = files (h.run as).since ++ (writes (h.run as).log).map (·.2) := by
  rw [← foldl_concat_eq_append] at told ⊢
  exact view_run as (fun r w mem => (keeps r w mem).tracks) told

/-- Rounds are counted from the same beginning. -/
theorem since_run {as : List (Action σ ε)} (rounds : ∀ a ∈ as, ∃ r w, a = .process r w)
    (h : History σ) : (h.run as).since = h.since := by
  induction as generalizing h with
  | nil => rfl
  | cons a as ih =>
    obtain ⟨r, w, rfl⟩ := rounds a (List.mem_cons_self ..)
    exact ih (fun a mem => rounds a (List.mem_cons_of_mem _ mem)) _

/-- How rounds change a view of the store. -/
theorem view_rounds {α : Type} {view : σ → α} {add : α → GeneratedFile → α}
    {as : List (Action σ ε)}
    (rounds : ∀ a ∈ as, ∃ r w, a = .process r w ∧ Sink.Tracks w view add) (s : Session)
    (store : σ) :
    view ((start s store).run as).store
      = ((writes ((start s store).run as).log).map (·.2)).foldl add (view store) := by
  have tracks : ∀ r w, .process r w ∈ as → Sink.Tracks w view add := by
    intro r w mem
    obtain ⟨r', w', same, tracked⟩ := rounds _ mem
    cases same
    exact tracked
  rw [view_run (h := start s store) as tracks rfl, since_run fun a mem => ?_]
  · rfl
  · obtain ⟨r, w, same, -⟩ := rounds a mem
    exact ⟨r, w, same⟩

/-- What rounds add to a store that keeps its files. -/
theorem files_rounds {files : σ → List GeneratedFile} {as : List (Action σ ε)}
    (rounds : ∀ a ∈ as, ∃ r w, a = .process r w ∧ Sink.Keeps w files) (s : Session) (store : σ) :
    files ((start s store).run as).store
      = files store ++ (writes ((start s store).run as).log).map (·.2) := by
  rw [← foldl_concat_eq_append]
  refine view_rounds (fun a mem => ?_) s store
  obtain ⟨r, w, same, keeps⟩ := rounds a mem
  exact ⟨r, w, same, keeps.tracks⟩

/-- After any calls, the emitted classes are those that were written and the failed ones those that
were reported. A class was written or reported at most once, and none of these is pending. The log
that says so tells what the reporter was handed and what a store that keeps its files took in. -/
theorem settled_at_most_once (m : Markers) (store : σ) (as : List (Action σ ε)) :
    let h := (start (.start m) store).run as
    (∀ n, n ∈ h.session.emitted ↔ ∃ file, .written n file ∈ h.log) ∧
      (∀ n, n ∈ h.session.failed ↔ ∃ d, .reported n d ∈ h.log) ∧
      (settled h.log).Nodup ∧
      h.session.emitted.Disjoint h.session.failed ∧
      h.session.emitted.Disjoint (h.session.pending.map (·.name)) ∧
      h.session.failed.Disjoint (h.session.pending.map (·.name)) ∧
      (h.session.pending.map (·.name)).Nodup ∧
      h.diagnostics = (reports h.log).map (·.2) ∧
      ∀ files, (∀ r w, .process r w ∈ as → Sink.Keeps w files) →
        files h.store = files h.since ++ (writes h.log).map (·.2) := by
  intro h
  have balanced : h.Balanced := balanced_run as (balanced_start m store)
  obtain ⟨once, pending, apart⟩ := List.nodup_append'.1 balanced.once
  obtain ⟨-, -, disjoint⟩ := List.nodup_append'.1 once
  refine ⟨fun n => ?_, fun n => ?_, ?_, disjoint, ?_, ?_, pending, balanced.diagnostics,
    fun files keeps => files_run as keeps (by simp [start, writes])⟩
  · rw [balanced.emitted]
    simp [mem_writes]
  · rw [balanced.failed]
    simp [mem_reports]
  · rw [settled, ← balanced.emitted, ← balanced.failed]
    exact once
  · exact fun n emitted => apart (List.mem_append_left _ emitted)
  · exact fun n failed => apart (List.mem_append_right _ failed)

open Sample in
/-- A store with room for one file refuses the second; when there is room, and the type that was
missing, the other two are written, and nothing is written or reported again. -/
theorem settled_at_most_once_in_full_store :
    let as : List (Action (List GeneratedFile) String) :=
      [.process (.ofTable (mixed (.unresolved "Later"))) (limited 1), .finish,
        .process (.ofTable (mixed (standardType "Long"))) unlimited]
    let h := (start (.start .standard) []).run as
    (∀ r w, .process r w ∈ as → Sink.Keeps w id) ∧
      h.session.emitted = [name "First", name "Late", name "Second"] ∧
      h.session.failed = [name "Bare"] ∧ h.session.pending = [] ∧
      (settled h.log).Nodup ∧ h.store = (writes h.log).map (·.2) := by
  intro as h
  have keeps : ∀ r w, .process r w ∈ as → Sink.Keeps w id := by
    intro r w mem
    simp only [as, List.mem_cons, Action.process.injEq, reduceCtorEq, List.not_mem_nil, or_false,
      false_or] at mem
    rcases mem with ⟨-, rfl⟩ | ⟨-, rfl⟩
    · exact keeps_limited 1
    · exact keeps_unlimited
  obtain ⟨-, -, once, -, -, -, -, -, files⟩ := settled_at_most_once .standard [] as
  exact ⟨keeps, by decide, by decide, by decide, once, files id keeps⟩

end History

end AssistedInjection.Rounds
