import AssistedInjection.Proofs.Rounds.Candidates

/-!
What is left to do. A resolver that does not change its answers gives a session an agenda: one event
for each class that is not settled yet. What later rounds settle in its order is struck off.

    agenda      written A   deferred B   written C   reported D
    log         written A   deferred B
    leftover                deferred B   written C   reported D
-/

namespace AssistedInjection.Rounds

open Kotlin Declaration Validation Source

theorem mem_settled_iff {es : List Event} {n : ClassName} :
    n ∈ settled es ↔ (∃ file, .written n file ∈ es) ∨ ∃ d, .reported n d ∈ es := by
  simp only [settled, List.mem_append, List.mem_map, Prod.exists, exists_and_right, exists_eq_right,
    mem_writes, mem_reports]

theorem settled_eq_nil_iff {es : List Event} :
    settled es = [] ↔ writes es = [] ∧ reports es = [] := by
  simp only [settled, List.append_eq_nil_iff, List.map_eq_nil_iff]

/-- What is left of an agenda when the classes that a log settles are struck off. -/
def leftover (log agenda : List Event) : List Event := agenda.filter (·.name ∉ settled log)

theorem leftover_append (log es fs : List Event) :
    leftover log (es ++ fs) = leftover log es ++ leftover log fs := List.filter_append ..

/-- Nothing that a log settles is left of it. -/
theorem settled_leftover (log : List Event) : settled (leftover log log) = [] := by
  refine List.eq_nil_iff_forall_not_mem.2 fun n h => ?_
  rcases mem_settled_iff.1 h with ⟨file, mem⟩ | ⟨d, mem⟩
  · obtain ⟨mem, struck⟩ := List.mem_filter.1 mem
    exact of_decide_eq_true struck (mem_settled_iff.2 (.inl ⟨file, mem⟩))
  · obtain ⟨mem, struck⟩ := List.mem_filter.1 mem
    exact of_decide_eq_true struck (mem_settled_iff.2 (.inr ⟨d, mem⟩))

/-- The rest of an agenda is left when its first part is done. -/
theorem leftover_rest {first rest : List Event}
    (distinct : ((first ++ rest).map Event.name).Nodup) : leftover first rest = rest := by
  rw [List.map_append] at distinct
  have apart := (List.nodup_append'.1 distinct).2.2
  refine List.filter_eq_self.2 fun e he => decide_eq_true fun h => ?_
  exact apart (mem_names_of_concerned (List.mem_append_left _ h)) (List.mem_map_of_mem he)

/-- A log that settles classes in no other way than its agenda says. -/
def Obeys (log agenda : List Event) : Prop := ∀ e ∈ log, (∃ d, e = .deferred d) ∨ e ∈ agenda

section

variable {log agenda : List Event} (obeys : Obeys log agenda)
  (distinct : (agenda.map Event.name).Nodup)

include obeys distinct

/-- What is on the agenda for a settled class is how the log settled it. -/
theorem Obeys.mem_log {e : Event} (mem : e ∈ agenda) (done : e.name ∈ settled log) :
    e ∈ log ∧ ∀ d, e ≠ .deferred d := by
  have only : ∀ e' ∈ log, (∀ d, e' ≠ .deferred d) → e'.name = e.name → e' = e := by
    intro e' he' settles same
    have he' : e' ∈ agenda := (obeys e' he').resolve_left fun ⟨d, deferred⟩ => settles d deferred
    exact List.inj_on_of_nodup_map distinct he' mem same
  rcases mem_settled_iff.1 done with ⟨file, written⟩ | ⟨d, reported⟩
  · have same := only _ written (fun _ h => by cases h) rfl
    rw [← same]
    exact ⟨written, fun _ h => by cases h⟩
  · have same := only _ reported (fun _ h => by cases h) rfl
    rw [← same]
    exact ⟨reported, fun _ h => by cases h⟩

/-- Nothing that is to be put off is struck off. -/
theorem Obeys.deferrals_leftover : deferrals (leftover log agenda) = deferrals agenda := by
  rw [deferrals, leftover, List.filterMap_filter]
  refine List.filterMap_congr fun e he => ?_
  cases e with
  | deferred d =>
    have unsettled : d.name ∉ settled log := fun done =>
      (obeys.mem_log distinct he done).2 d rfl
    exact if_pos (decide_eq_true unsettled)
  | _ => exact ite_self _

/-- A log and what it leaves settle what the agenda settles, and in the same way. -/
theorem Obeys.mem_append_leftover_iff {e : Event} (settles : ∀ d, e ≠ .deferred d) :
    e ∈ log ++ leftover log agenda ↔ e ∈ agenda := by
  rw [List.mem_append]
  constructor
  · rintro (mem | mem)
    · exact (obeys e mem).resolve_left fun ⟨d, deferred⟩ => settles d deferred
    · exact (List.mem_filter.1 mem).1
  · intro mem
    by_cases done : e.name ∈ settled log
    · exact .inl (obeys.mem_log distinct mem done).1
    · exact .inr (List.mem_filter.2 ⟨mem, decide_eq_true done⟩)

end

namespace Session

/-- What a resolver that does not change its answers gives a session to do. -/
def outstanding (s : Session) (r : Resolver) : List Event :=
  (fresh (s.emitted ++ s.failed) (r.candidates s.markers.contributesAssistedFactory)).map
    (due s.markers r)

theorem outstanding_names (s : Session) (r : Resolver) :
    ((s.outstanding r).map Event.name).Nodup := by
  rw [outstanding, names_due]
  exact nodup_names_fresh ..

/-- What a session has settled since then is struck off. -/
theorem outstanding_eq_leftover {s t : Session} {log : List Event} (markers : t.markers = s.markers)
    (done : ∀ n, n ∈ t.emitted ++ t.failed ↔ n ∈ s.emitted ++ s.failed ++ settled log)
    (r : Resolver) : t.outstanding r = leftover log (s.outstanding r) := by
  rw [outstanding, markers, fresh_congr done, fresh_append_done, outstanding, leftover,
    List.filter_map]
  congr 2
  funext c
  simp

variable {σ ε : Type} {r : Resolver} (stable : r.IsStable) (s : Session) (write : Sink σ ε)
  (store : σ)

theorem done_opened : (s.opened store : Progress σ ε).done = s.emitted ++ s.failed := by
  simp [Progress.done, opened]

include stable in
/-- A round that no write ends does what is outstanding. -/
theorem trace_of_completed (completed : (s.progress r write store).failure = none) :
    s.trace r write store = s.outstanding r := by
  rw [trace, Progress.trace_of_completed stable completed, done_opened]
  rfl

include stable in
/-- A round does what is outstanding up to the end, or up to a class that it cannot write. -/
theorem trace_cases :
    ((s.progress r write store).failure = none ∧ s.trace r write store = s.outstanding r) ∨
      ∃ first rest n file, s.outstanding r = first ++ .written n file :: rest ∧
        s.trace r write store = first ++ [.refused n file] := by
  cases ended : (s.progress r write store).failure with
  | none => exact .inl ⟨rfl, s.trace_of_completed stable write store ended⟩
  | some e =>
    obtain ⟨before, c, after, plan, offered, stops⟩ := Progress.foldl_failure rfl ended
    obtain ⟨traced, taken⟩ := Progress.trace_of_stopped stable stops after
    rw [← offered, done_opened] at traced taken
    have written : due s.markers r c = .written c.name (render plan s.markers) := by
      rw [due, ← stable.judge_eq, stops.planned]
      rfl
    rw [outstanding, taken, List.map_append, List.map_cons, written]
    exact .inr ⟨_, _, _, _, rfl, traced⟩

include stable in
theorem trace_of_reliable (reliable : write.Reliable) :
    s.trace r write store = s.outstanding r :=
  s.trace_of_completed stable write store (Progress.completed_of_reliable reliable _ rfl)

include stable in
/-- A round settles a first part of what is outstanding. -/
theorem trace_prefix :
    ∃ first rest, s.outstanding r = first ++ rest ∧
      writes (s.trace r write store) = writes first ∧
      reports (s.trace r write store) = reports first := by
  rcases s.trace_cases stable write store with ⟨-, traced⟩ | ⟨first, rest, n, file, begun, traced⟩
  · exact ⟨_, [], (List.append_nil _).symm, by rw [traced], by rw [traced]⟩
  · refine ⟨first, _, begun, ?_, ?_⟩
    · rw [traced, writes_append]
      exact List.append_nil _
    · rw [traced, reports_append]
      exact List.append_nil _

include stable in
/-- What is outstanding after a round, together with what the round did, is what was outstanding
before it. What the round put off is still to be put off. -/
theorem outstanding_process :
    let later := (s.process r write store).session.outstanding r
    writes (s.trace r write store) ++ writes later = writes (s.outstanding r) ∧
      reports (s.trace r write store) ++ reports later = reports (s.outstanding r) ∧
      deferrals later = deferrals (s.outstanding r) := by
  intro later
  obtain ⟨first, rest, begun, written, reported⟩ := s.trace_prefix stable write store
  have distinct := s.outstanding_names r
  have struck : later = leftover first (s.outstanding r) := by
    have markers : (s.process r write store).session.markers = s.markers := rfl
    refine outstanding_eq_leftover markers (fun n => ?_) r
    rw [session_process, written, reported, settled]
    simp only [List.mem_append]
    tauto
  have obeys : Obeys first (s.outstanding r) := fun e he =>
    .inr (by rw [begun]; exact List.mem_append_left _ he)
  have rest_left : leftover first (s.outstanding r) = leftover first first ++ rest := by
    rw [begun] at distinct ⊢
    rw [leftover_append, leftover_rest distinct]
  have silent := settled_eq_nil_iff.1 (settled_leftover first)
  refine ⟨?_, ?_, ?_⟩
  · rw [struck, rest_left, begun, written, writes_append, writes_append, silent.1, List.nil_append]
  · rw [struck, rest_left, begun, reported, reports_append, reports_append, silent.2,
      List.nil_append]
  · rw [struck, obeys.deferrals_leftover distinct]

end Session

end AssistedInjection.Rounds
