import AssistedInjection.Proofs.Rounds.History
import AssistedInjection.Proofs.Rounds.Outstanding

/-!
Recovery from failed writes. A round that a write ends has done a first part of what was due. While
the resolver keeps to its answers, what is left is just what the next round finds to do: whatever
was deferred before the failure comes up again, what was settled does not.

    due            written A   deferred B   written C   reported D
    this round     written A   deferred B   refused
    next round                 deferred B   written C   reported D
-/

namespace AssistedInjection.Rounds

open Kotlin Declaration Validation Source

variable {σ ε : Type}

/-- The resolver with other candidates. -/
def Resolver.limitedTo (r : Resolver) (cs : List ClassDeclaration) : Resolver :=
  { r with candidates := fun _ => cs }

namespace Progress

variable {m : Markers} {r : Resolver} {write : Sink σ ε}

theorem settle_store {p : Progress σ ε} {name : ClassName} {o : Outcome} {d : Deferred}
    (deferred : o.event m write p.store name = .deferred d) :
    (p.settle m write name o).store = p.store := by
  cases o with
  | deferred unresolved => rfl
  | invalid defect => rfl
  | planned plan =>
    simp only [Outcome.event] at deferred
    split at deferred <;> cases deferred

theorem store_step {p : Progress σ ε} {c : ClassDeclaration} {d : Deferred}
    (deferred : p.event? m r write c = some (.deferred d)) :
    (p.step m r write c).store = p.store := by
  unfold event? at deferred
  unfold step
  split at deferred
  · cases deferred
  · rename_i new
    rw [if_neg new]
    exact settle_store (p := { p with
      seen := p.seen ++ [c.name]
      asked := p.asked + questions m (r.answer p.asked) c }) (Option.some.inj deferred)

/-- Candidates that are only put off leave the store alone. -/
theorem store_foldl {cs : List ClassDeclaration} {p : Progress σ ε}
    (quiet : ∀ e ∈ p.trace m r write cs, ∃ d, e = .deferred d) :
    (cs.foldl (step m r write) p).store = p.store := by
  induction cs generalizing p with
  | nil => rfl
  | cons c cs ih =>
    rw [trace] at quiet
    rw [List.foldl_cons, ih fun e he => quiet e (List.mem_append_right _ he)]
    cases came : p.event? m r write c with
    | none => rw [step_eq_self came]
    | some e =>
      have first : e ∈ (p.event? m r write c).toList := by
        rw [came]
        exact List.mem_singleton_self e
      obtain ⟨d, rfl⟩ := quiet e (List.mem_append_left _ first)
      exact store_step came

end Progress

namespace Session

/-- Nothing that is outstanding can be settled, and all of it is pending. -/
structure Idle (s : Session) (r : Resolver) : Prop where
  settled : settled (s.outstanding r) = []
  pending : s.pending = deferrals (s.outstanding r)

/-- In an idle session all that is outstanding is to be put off. -/
theorem Idle.deferred {s : Session} {r : Resolver} (idle : s.Idle r) {e : Event}
    (mem : e ∈ s.outstanding r) : ∃ d, e = .deferred d := by
  have unsettled : e.name ∉ Rounds.settled (s.outstanding r) := by
    rw [idle.settled]
    exact List.not_mem_nil
  rw [mem_settled_iff, not_or] at unsettled
  cases e with
  | deferred d => exact ⟨d, rfl⟩
  | written n file => exact absurd ⟨file, mem⟩ unsettled.1
  | reported n d => exact absurd ⟨d, mem⟩ unsettled.2
  | refused n file =>
    obtain ⟨c, -, same⟩ := List.mem_map.1 mem
    exact (Outcome.due_ne_refused _ _ _ _ _ same).elim

variable {r : Resolver} (stable : r.IsStable) (s : Session) (write : Sink σ ε) (store : σ)

include stable in
/-- In an idle session a round only defers what is pending. -/
theorem process_of_idle (idle : s.Idle r) :
    s.process r write store =
      { session := { s with round := s.round + 1 }
        store
        diagnostics := []
        outcome := .ok ⟨s.round + 1, [], s.pending, []⟩ } := by
  rcases s.trace_cases stable write store with
    ⟨completed, traced⟩ | ⟨first, rest, n, file, begun, -⟩
  · obtain ⟨unwritten, unreported⟩ := settled_eq_nil_iff.1 idle.settled
    have kept : (s.process r write store).store = store :=
      Progress.store_foldl fun e mem => idle.deferred (traced ▸ mem)
    have session := s.session_process r write store
    have diagnostics := s.diagnostics_process r write store
    obtain ⟨report, ended⟩ : ∃ report, (s.process r write store).outcome = .ok report :=
      ⟨_, by rw [process, completed]⟩
    have told := s.report_process r write store ended
    rw [traced, unwritten, unreported, ← idle.pending] at session told
    rw [traced, unreported] at diagnostics
    simp only [List.map_nil, List.append_nil] at session told diagnostics
    rw [told] at ended
    calc s.process r write store
        = ⟨(s.process r write store).session, (s.process r write store).store,
            (s.process r write store).diagnostics, (s.process r write store).outcome⟩ := rfl
      _ = _ := by rw [session, kept, diagnostics, ended]
  · have mem : .written n file ∈ s.outstanding r := by
      rw [begun]
      exact List.mem_append_right _ (List.mem_cons_self ..)
    obtain ⟨d, deferred⟩ := idle.deferred mem
    cases deferred

/-- How a failed write ends a round: all that is done is what a round over the candidates before `c`
does, and then the factory of `c` is refused. -/
structure Interrupted (s : Session) (r : Resolver) (write : Sink σ ε) (store : σ) (e : ε)
    (before : List ClassDeclaration) (c : ClassDeclaration) (plan : Plan) (report : Report) :
    Prop where
  outcome : (s.process r write store).outcome = .error e
  offered : ∃ after, r.candidates s.markers.contributesAssistedFactory = before ++ c :: after
  completed : (s.process (r.limitedTo before) write store).outcome = .ok report
  planned : verdict s.markers r c = .planned plan
  refused : write (render plan s.markers) (s.process (r.limitedTo before) write store).store
    = (.error e, (s.process r write store).store)
  session : (s.process r write store).session
    = (s.process (r.limitedTo before) write store).session
  diagnostics : (s.process r write store).diagnostics
    = (s.process (r.limitedTo before) write store).diagnostics
  pending : (s.process r write store).session.pending = report.deferred
  unwritten : c.name ∉ (s.process r write store).session.emitted
  unreported : c.name ∉ (s.process r write store).session.failed

include stable in
/-- A round ends with a report if all its writes succeed, and else with the failure of the first
write that does not. -/
theorem completed_or_interrupted :
    (∃ report, (s.process r write store).outcome = .ok report ∧
        ∀ n file, .refused n file ∉ s.trace r write store) ∨
      ∃ e before c plan report, s.Interrupted r write store e before c plan report := by
  cases ended : (s.progress r write store).failure with
  | none =>
    refine .inl ⟨_, by rw [process, ended], fun n file mem => ?_⟩
    rw [s.trace_of_completed stable write store ended] at mem
    obtain ⟨c, -, same⟩ := List.mem_map.1 mem
    exact Outcome.due_ne_refused _ _ _ _ _ same
  | some e =>
    obtain ⟨before, c, after, plan, offered, stops⟩ := Progress.foldl_failure rfl ended
    have left : s.progress r write store = _ := stops.left
    have going : (s.progress (r.limitedTo before) write store).failure = none := stops.going
    have new : c.name ∉ (s.progress (r.limitedTo before) write store).done := stops.new
    simp only [Progress.done, List.mem_append, not_or] at new
    have session : (s.process r write store).session
        = (s.process (r.limitedTo before) write store).session := by
      simp only [process]
      rw [left]
      rfl
    refine .inr ⟨e, before, c, plan, (s.progress (r.limitedTo before) write store).report, ?_⟩
    constructor
    · rw [process, ended]
    · exact ⟨after, offered⟩
    · rw [process, going]
    · rw [← stops.planned, stable.judge_eq]
    · exact stops.refused
    · exact session
    · simp only [process]
      rw [left]
      rfl
    · rw [session]
      rfl
    · rw [session]
      exact new.1.2
    · rw [session]
      exact new.2

end Session

namespace History

/-- Two histories came to the same, one of them in more rounds. -/
structure Matches (late early : History σ) (more : Nat) : Prop where
  session : late.session = { early.session with round := early.session.round + more }
  writes : writes late.log = writes early.log
  reports : reports late.log = reports early.log
  diagnostics : late.diagnostics = early.diagnostics

theorem Matches.refl (h : History σ) : Matches h h 0 := ⟨rfl, rfl, rfl, rfl⟩

theorem Matches.trans {h h' h'' : History σ} {i j : Nat} (first : Matches h h' i)
    (second : Matches h' h'' j) : Matches h h'' (i + j) where
  session := by rw [first.session, second.session, Nat.add_comm i j, Nat.add_assoc]
  writes := first.writes.trans second.writes
  reports := first.reports.trans second.reports
  diagnostics := first.diagnostics.trans second.diagnostics

/-- A session stays idle whatever the number of rounds. -/
theorem Matches.idle {late early : History σ} {more : Nat} {r : Resolver}
    (h : Matches late early more) (idle : early.session.Idle r) : late.session.Idle r := by
  rw [h.session]
  exact ⟨idle.settled, idle.pending⟩

section

variable {r : Resolver} (stable : r.IsStable) {last : Sink σ ε} (reliable : last.Reliable)

include stable reliable in
/-- A round before one with a reliable sink makes no difference. -/
theorem act_absorbs (write : Sink σ ε) (h : History σ) :
    Matches ((h.act (.process r write)).act (.process r last)) (h.act (.process r last)) 1 := by
  obtain ⟨written, reported, deferred⟩ := h.session.outstanding_process stable write h.store
  have once := h.session.trace_of_reliable stable last h.store reliable
  have twice := (h.session.process r write h.store).session.trace_of_reliable stable last
    (h.session.process r write h.store).store reliable
  constructor
  · simp only [act]
    rw [Session.session_process _ r last, Session.session_process _ r last, once, twice, ← written,
      ← reported, ← deferred]
    generalize (h.session.process r write h.store).session.outstanding r = later
    rw [Session.session_process]
    simp only [List.map_append, List.append_assoc]
  · simp only [act, writes_append, once, twice, List.append_assoc, written]
  · simp only [act, reports_append, once, twice, List.append_assoc, reported]
  · simp only [act, Session.diagnostics_process, once, twice, ← reported, List.map_append,
      List.append_assoc]

include stable reliable in
/-- Rounds before one with a reliable sink make no difference. -/
theorem run_absorbs (failing : List (Sink σ ε)) (h : History σ) :
    Matches (h.run ((failing ++ [last]).map (.process r))) (h.run [.process r last])
      failing.length := by
  induction failing generalizing h with
  | nil => exact .refl _
  | cons w ws ih => exact (ih (h.act (.process r w))).trans (act_absorbs stable reliable w h)

include stable in
/-- In an idle session a round only counts. -/
theorem act_of_idle (write : Sink σ ε) {h : History σ} (idle : h.session.Idle r) :
    Matches (h.act (.process r write)) h 1 ∧ (h.act (.process r write)).store = h.store := by
  obtain ⟨unwritten, unreported⟩ := settled_eq_nil_iff.1 idle.settled
  obtain ⟨written, reported, -⟩ := h.session.outstanding_process stable write h.store
  rw [unwritten] at written
  rw [unreported] at reported
  have result := h.session.process_of_idle stable write h.store idle
  refine ⟨⟨?_, ?_, ?_, ?_⟩, by simp only [act, result]⟩
  · simp only [act, result]
  · simp only [act, writes_append, (List.append_eq_nil_iff.1 written).1, List.append_nil]
  · simp only [act, reports_append, (List.append_eq_nil_iff.1 reported).1, List.append_nil]
  · simp only [act, result, List.append_nil]

include stable in
/-- In an idle session rounds only count. -/
theorem run_of_idle (more : List (Sink σ ε)) {h : History σ} (idle : h.session.Idle r) :
    Matches (h.run (more.map (.process r))) h more.length ∧
      (h.run (more.map (.process r))).store = h.store := by
  induction more generalizing h with
  | nil => exact ⟨.refl h, rfl⟩
  | cons w ws ih =>
    obtain ⟨once, kept⟩ := act_of_idle stable w idle
    obtain ⟨rest, kept'⟩ := ih (once.idle idle)
    exact ⟨rest.trans once, kept'.trans kept⟩

include stable reliable in
/-- After a round with a reliable sink the session is idle. -/
theorem idle_of_reliable (h : History σ) : (h.act (.process r last)).session.Idle r := by
  obtain ⟨written, reported, deferred⟩ := h.session.outstanding_process stable last h.store
  have traced := h.session.trace_of_reliable stable last h.store reliable
  rw [traced] at written reported
  refine ⟨settled_eq_nil_iff.2 ⟨?_, ?_⟩, ?_⟩
  · exact List.append_right_eq_self.1 written
  · exact List.append_right_eq_self.1 reported
  · simp only [act]
    rw [deferred, Session.session_process, traced]

include stable reliable in
/-- Whatever number of rounds a failed write ended, after one more round with a reliable sink it is
as if there had been only that one: the files, the diagnostics and the session are the same, but for
the number of rounds. An interrupted round did what it would have done without the candidates from
the unwritten class on. Rounds that come later only defer again what is pending. -/
theorem recovers_after_failed_writes (failing : List (Sink σ ε)) (s : Session) (store : σ) :
    let whole := (start s store).run [.process r last]
    let broken := (start s store).run ((failing ++ [last]).map (.process r))
    (writes broken.log = writes whole.log ∧
      (∀ files, (∀ w ∈ last :: failing, Sink.Keeps w files) →
        files broken.store = files whole.store) ∧
      broken.diagnostics = whole.diagnostics ∧
      broken.session = { whole.session with round := whole.session.round + failing.length }) ∧
    (∀ (t : Session) (w : Sink σ ε) (kept : σ),
      (∃ report, (t.process r w kept).outcome = .ok report ∧
          ∀ n file, .refused n file ∉ t.trace r w kept) ∨
        ∃ e before c plan report, t.Interrupted r w kept e before c plan report) ∧
    ∀ more : List (Sink σ ε),
      let later := broken.run (more.map (.process r))
      later.store = broken.store ∧
        writes later.log = writes broken.log ∧
        later.diagnostics = broken.diagnostics ∧
        later.session = { broken.session with round := broken.session.round + more.length } ∧
        ∀ w : Sink σ ε, (later.session.process r w later.store).outcome
          = .ok ⟨later.session.round + 1, [], broken.session.pending, []⟩ := by
  intro whole broken
  have same : Matches broken whole failing.length := run_absorbs stable reliable failing _
  refine ⟨⟨same.writes, fun files keeps => ?_, same.diagnostics, same.session⟩,
    fun t w kept => t.completed_or_interrupted stable w kept, fun more => ?_⟩
  · have kept (ws : List (Sink σ ε)) (among : ∀ w ∈ ws, w ∈ last :: failing) :
        ∀ a ∈ ws.map (Action.process r), ∃ r' w, a = .process r' w ∧ Sink.Keeps w files := by
      intro a mem
      obtain ⟨w, offered, rfl⟩ := List.mem_map.1 mem
      exact ⟨r, w, rfl, keeps w (among w offered)⟩
    have gained := files_rounds (kept (failing ++ [last]) (by simp [or_comm])) s store
    have gained' := files_rounds (kept [last] (by simp)) s store
    rw [gained, same.writes]
    exact gained'.symm
  · have idle : broken.session.Idle r := same.idle (idle_of_reliable stable reliable _)
    obtain ⟨later, kept⟩ := run_of_idle stable more idle
    refine ⟨kept, later.writes, later.diagnostics, later.session, fun w => ?_⟩
    rw [Session.process_of_idle stable _ w _ (later.idle idle), later.session]

end

open Sample in
/-- With a store that has room for no file, then for one, then for all, the third round completes
what the first would have done. -/
theorem recovers_after_full_stores :
    let r := Resolver.ofTable (mixed (.unresolved "Later"))
    let whole := (start (.start .standard) []).run [.process r unlimited]
    let broken := (start (.start .standard) []).run
      [.process r (limited 0), .process r (limited 1), .process r unlimited]
    r.IsStable ∧ Sink.Reliable unlimited ∧
      (∀ w ∈ [unlimited, limited 0, limited 1], Sink.Keeps w id) ∧
      broken.store = whole.store ∧ broken.diagnostics = whole.diagnostics ∧
      broken.session = { whole.session with round := 3 } ∧
      whole.session.emitted = [name "First", name "Second"] ∧
      whole.session.failed = [name "Bare"] ∧
      whole.session.pending = [⟨name "Late", ["Later"]⟩] := by
  intro r whole broken
  have stable : r.IsStable := Resolver.isStable_ofTable _
  have reliable : Sink.Reliable unlimited := fun _ _ => rfl
  have keeps : ∀ w ∈ [unlimited, limited 0, limited 1], Sink.Keeps w id := by
    simp only [List.forall_mem_cons]
    exact ⟨keeps_unlimited, keeps_limited 0, keeps_limited 1, by simp⟩
  obtain ⟨⟨-, files, diagnostics, session⟩, -, -⟩ :=
    recovers_after_failed_writes stable reliable [limited 0, limited 1] (.start .standard) []
  exact ⟨stable, reliable, keeps, files id keeps, diagnostics, session, by decide, by decide,
    by decide⟩

end History

end AssistedInjection.Rounds
