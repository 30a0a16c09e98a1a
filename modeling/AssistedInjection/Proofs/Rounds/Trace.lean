import AssistedInjection.Rounds.Session
import Mathlib.Data.List.Nodup

/-!
What a round does, as a list of events: one for each candidate that is not passed over.

    candidates    A     B     A     C         D       E
    events        written     (A is passed over)
                        deferred    reported  refused (E is not reached)

All that a round changes can be read off its events, and no two of them are about one class. A store
that keeps its files holds those that were written and no other.
-/

namespace AssistedInjection.Rounds

open Kotlin Declaration Validation Source

/-- What came of a candidate. -/
inductive Event where
  | deferred (deferral : Deferred)
  | reported (name : ClassName) (diagnostic : Diagnostic)
  | written (name : ClassName) (file : GeneratedFile)
  /-- The write failed. -/
  | refused (name : ClassName) (file : GeneratedFile)
deriving DecidableEq

namespace Event

/-- The class that an event is about. -/
def name : Event → ClassName
  | deferred d => d.name
  | reported name _ | written name _ | refused name _ => name

/-- What was put off. -/
def deferral? : Event → Option Deferred
  | deferred d => some d
  | _ => none

/-- What was reported. -/
def report? : Event → Option (ClassName × Diagnostic)
  | reported name diagnostic => some (name, diagnostic)
  | _ => none

/-- What was written. -/
def write? : Event → Option (ClassName × GeneratedFile)
  | written name file => some (name, file)
  | _ => none

end Event

/-- What was put off in some events, in order. -/
def deferrals (es : List Event) : List Deferred := es.filterMap Event.deferral?

/-- What was reported in some events, in order. -/
def reports (es : List Event) : List (ClassName × Diagnostic) := es.filterMap Event.report?

/-- What was written in some events, in order. -/
def writes (es : List Event) : List (ClassName × GeneratedFile) := es.filterMap Event.write?

@[simp] theorem deferrals_append (es fs : List Event) :
    deferrals (es ++ fs) = deferrals es ++ deferrals fs := List.filterMap_append

@[simp] theorem reports_append (es fs : List Event) :
    reports (es ++ fs) = reports es ++ reports fs := List.filterMap_append

@[simp] theorem writes_append (es fs : List Event) :
    writes (es ++ fs) = writes es ++ writes fs := List.filterMap_append

/-- What only one event shows is shown when that event is there. -/
theorem mem_filterMap_iff {α : Type} {show? : Event → Option α} {a : α} {e : Event}
    (only : ∀ e', show? e' = some a ↔ e' = e) (es : List Event) :
    a ∈ es.filterMap show? ↔ e ∈ es := by
  rw [List.mem_filterMap]
  constructor
  · rintro ⟨e', mem, shown⟩
    rw [← (only e').1 shown]
    exact mem
  · exact fun mem => ⟨e, mem, (only e).2 rfl⟩

theorem mem_deferrals {es : List Event} {d : Deferred} : d ∈ deferrals es ↔ .deferred d ∈ es :=
  mem_filterMap_iff (fun e => by cases e <;> simp [Event.deferral?]) es

theorem mem_reports {es : List Event} {n : ClassName} {d : Diagnostic} :
    (n, d) ∈ reports es ↔ .reported n d ∈ es :=
  mem_filterMap_iff (fun e => by cases e <;> simp [Event.report?]) es

theorem mem_writes {es : List Event} {n : ClassName} {file : GeneratedFile} :
    (n, file) ∈ writes es ↔ .written n file ∈ es :=
  mem_filterMap_iff (fun e => by cases e <;> simp [Event.write?]) es

/-- The classes that some events settle: those written and those reported. -/
def settled (es : List Event) : List ClassName := (writes es).map (·.1) ++ (reports es).map (·.1)

/-- The classes that some events settle or put off. -/
def concerned (es : List Event) : List ClassName := settled es ++ (deferrals es).map (·.name)

theorem mem_names_of_concerned {es : List Event} {n : ClassName} (h : n ∈ concerned es) :
    n ∈ es.map Event.name := by
  simp only [concerned, settled, List.mem_append, List.mem_map] at h
  rcases h with (⟨⟨_, _⟩, mem, rfl⟩ | ⟨⟨_, _⟩, mem, rfl⟩) | ⟨_, mem, rfl⟩
  · exact List.mem_map.2 ⟨_, mem_writes.1 mem, rfl⟩
  · exact List.mem_map.2 ⟨_, mem_reports.1 mem, rfl⟩
  · exact List.mem_map.2 ⟨_, mem_deferrals.1 mem, rfl⟩

/-- Events about different classes settle or put off every class at most once. -/
theorem nodup_concerned {es : List Event} (distinct : (es.map Event.name).Nodup) :
    (concerned es).Nodup := by
  induction es with
  | nil => simp [concerned, settled, writes, reports, deferrals]
  | cons e es ih =>
    obtain ⟨new, rest⟩ := List.nodup_cons.1 distinct
    have apart : e.name ∉ concerned es := fun h => new (mem_names_of_concerned h)
    have once : (e.name :: concerned es).Nodup := List.nodup_cons.2 ⟨apart, ih rest⟩
    cases e with
    | deferred d => exact (List.perm_middle.nodup_iff).2 once
    | reported n d =>
      refine (List.Perm.nodup_iff ?_).2 once
      exact List.perm_middle.append_right _
    | written n file => exact once
    | refused n file => exact ih rest

/-- The event that an outcome comes to. -/
def Outcome.event {σ ε : Type} (m : Markers) (write : Sink σ ε) (store : σ) (name : ClassName) :
    Outcome → Event
  | .deferred unresolved => .deferred ⟨name, unresolved⟩
  | .invalid defect => .reported name ⟨defect.site, defect.message⟩
  | .planned plan =>
    match (write (render plan m) store).1 with
    | .ok () => .written name (render plan m)
    | .error _ => .refused name (render plan m)

theorem Outcome.event_name {σ ε : Type} {m : Markers} {write : Sink σ ε} (o : Outcome) (store : σ)
    (name : ClassName) : (o.event m write store name).name = name := by
  unfold Outcome.event
  split
  · rfl
  · rfl
  · split <;> rfl

/-- A store that shows the files it holds: a written one comes last, a refused one is not there. -/
structure Sink.Keeps {σ ε : Type} (write : Sink σ ε) (files : σ → List GeneratedFile) : Prop where
  written : ∀ {file store store'}, write file store = (.ok (), store') →
    files store' = files store ++ [file]
  refused : ∀ {file store e store'}, write file store = (.error e, store') →
    files store' = files store

/-- A view of a store that a written file changes in one way, and a refused one in none. -/
structure Sink.Tracks {σ ε α : Type} (write : Sink σ ε) (view : σ → α)
    (add : α → GeneratedFile → α) : Prop where
  written : ∀ {file store store'}, write file store = (.ok (), store') →
    view store' = add (view store) file
  refused : ∀ {file store e store'}, write file store = (.error e, store') →
    view store' = view store

theorem Sink.Keeps.tracks {σ ε : Type} {write : Sink σ ε} {files : σ → List GeneratedFile}
    (keeps : write.Keeps files) : write.Tracks files fun fs file => fs ++ [file] :=
  ⟨keeps.written, keeps.refused⟩

theorem foldl_concat_eq_append {α : Type} (as bs : List α) :
    bs.foldl (fun cs b => cs ++ [b]) as = as ++ bs := by
  rw [List.foldl_append_eq_append, ← List.flatMap_def, List.flatMap_singleton']

namespace Progress

variable {σ ε : Type}

/-- What handling a candidate comes to; nothing if it is passed over. -/
def event? (m : Markers) (r : Resolver) (write : Sink σ ε) (p : Progress σ ε)
    (c : ClassDeclaration) : Option Event :=
  if p.failure.isSome || p.isDone c.name then none
  else some ((judge m (r.answer p.asked) (r.answer (p.asked + 1)) c).event m write p.store c.name)

/-- The events of a round on its way through some candidates. -/
def trace (m : Markers) (r : Resolver) (write : Sink σ ε) (p : Progress σ ε) :
    List ClassDeclaration → List Event
  | [] => []
  | c :: cs => (p.event? m r write c).toList ++ trace m r write (p.step m r write c) cs

/-- A round went on from `p` to `q` by some events and by nothing else. -/
structure Follows (p q : Progress σ ε) (es : List Event) : Prop where
  seen : q.seen = p.seen ++ es.map Event.name
  emitted : q.emitted = p.emitted ++ (writes es).map (·.1)
  failed : q.failed = p.failed ++ (reports es).map (·.1)
  round : q.report.round = p.report.round
  generated : q.report.generated = p.report.generated ++ (writes es).map (·.1)
  deferred : q.report.deferred = p.report.deferred ++ deferrals es
  rejected : q.report.failed = p.report.failed ++ (reports es).map (·.1)
  diagnostics : q.diagnostics = p.diagnostics ++ (reports es).map (·.2)

theorem Follows.refl (p : Progress σ ε) : Follows p p [] := by
  constructor <;> simp [writes, reports, deferrals]

theorem Follows.trans {p q u : Progress σ ε} {es fs : List Event} (first : Follows p q es)
    (second : Follows q u fs) : Follows p u (es ++ fs) where
  seen := by rw [second.seen, first.seen]; simp
  emitted := by rw [second.emitted, first.emitted]; simp
  failed := by rw [second.failed, first.failed]; simp
  round := second.round.trans first.round
  generated := by rw [second.generated, first.generated]; simp
  deferred := by rw [second.deferred, first.deferred]; simp
  rejected := by rw [second.rejected, first.rejected]; simp
  diagnostics := by rw [second.diagnostics, first.diagnostics]; simp

theorem Follows.report_eq {p q : Progress σ ε} {es : List Event} (h : Follows p q es) :
    q.report =
      { round := p.report.round
        generated := p.report.generated ++ (writes es).map (·.1)
        deferred := p.report.deferred ++ deferrals es
        failed := p.report.failed ++ (reports es).map (·.1) } := by
  rw [← h.round, ← h.generated, ← h.deferred, ← h.rejected]

section

variable {m : Markers} {r : Resolver} {write : Sink σ ε}

theorem event?_eq_some {p : Progress σ ε} {c : ClassDeclaration} {e : Event}
    (h : p.event? m r write c = some e) : e.name = c.name ∧ p.isDone c.name = false := by
  unfold event? at h
  split at h
  · cases h
  · rename_i fresh
    cases h
    exact ⟨Outcome.event_name .., by simp_all⟩

/-- A candidate that is passed over changes nothing. -/
theorem step_eq_self {p : Progress σ ε} {c : ClassDeclaration} (h : p.event? m r write c = none) :
    p.step m r write c = p := by
  unfold event? at h
  unfold step
  split at h
  · rename_i passed
    rw [if_pos passed]
  · cases h

/-- Dealing with an outcome goes on by its event. -/
theorem settle_follows (p : Progress σ ε) (asked : Nat) (name : ClassName) (o : Outcome) :
    Follows p (settle { p with seen := p.seen ++ [name], asked } m write name o)
      [o.event m write p.store name] := by
  cases o with
  | deferred unresolved =>
    constructor <;> simp [settle, defer, Outcome.event, writes, reports, deferrals, Event.name,
      Event.write?, Event.report?, Event.deferral?]
  | invalid defect =>
    constructor <;> simp [settle, reject, Outcome.event, writes, reports, deferrals, Event.name,
      Event.write?, Event.report?, Event.deferral?]
  | planned plan =>
    simp only [settle, emit, Outcome.event]
    rcases write (render plan m) p.store with ⟨⟨e⟩ | ⟨⟨⟩⟩, store⟩ <;>
    constructor <;> simp [writes, reports, deferrals, Event.name, Event.write?, Event.report?,
      Event.deferral?]

/-- Handling a candidate goes on by its event. -/
theorem step_follows (p : Progress σ ε) (c : ClassDeclaration) :
    Follows p (p.step m r write c) (p.event? m r write c).toList := by
  unfold step event?
  split
  · exact .refl p
  · exact settle_follows ..

/-- Going through candidates goes on by their events. -/
theorem foldl_follows (cs : List ClassDeclaration) (p : Progress σ ε) :
    Follows p (cs.foldl (step m r write) p) (p.trace m r write cs) := by
  induction cs generalizing p with
  | nil => exact .refl p
  | cons c cs ih => exact (step_follows p c).trans (ih _)

/-- The events are about different classes, all of them new to the round and not done before it. -/
theorem trace_names (cs : List ClassDeclaration) (p : Progress σ ε) :
    ((p.trace m r write cs).map Event.name).Nodup ∧
      ∀ e ∈ p.trace m r write cs, e.name ∉ p.seen ∧ e.name ∉ p.emitted ∧ e.name ∉ p.failed := by
  induction cs generalizing p with
  | nil => simp [trace]
  | cons c cs ih =>
    obtain ⟨distinct, later⟩ := ih (p.step m r write c)
    have follows : Follows p (p.step m r write c) _ := step_follows p c
    rw [trace]
    cases h : p.event? m r write c with
    | none =>
      rw [step_eq_self h] at distinct later ⊢
      exact ⟨distinct, later⟩
    | some e =>
      obtain ⟨named, fresh⟩ := event?_eq_some h
      rw [follows.seen, follows.emitted, follows.failed, h] at later
      have apart : ∀ f ∈ trace m r write (p.step m r write c) cs,
          f.name ≠ e.name ∧ f.name ∉ p.seen ∧ f.name ∉ p.emitted ∧ f.name ∉ p.failed := by
        intro f hf
        obtain ⟨unseen, unwritten, unreported⟩ := later f hf
        simp only [List.mem_append, not_or] at unseen unwritten unreported
        exact ⟨by simpa using unseen.2, unseen.1, unwritten.1, unreported.1⟩
      constructor
      · simp only [Option.toList_some, List.singleton_append, List.map_cons, List.nodup_cons]
        refine ⟨fun twice => ?_, distinct⟩
        obtain ⟨f, hf, same⟩ := List.mem_map.1 twice
        exact (apart f hf).1 same
      · intro f hf
        rcases List.mem_append.1 hf with now | hf
        · obtain rfl : f = e := by simpa using now
          rw [named]
          simpa [isDone, not_or, and_assoc] using fresh
        · exact (apart f hf).2

section

variable {α : Type} {view : σ → α} {add : α → GeneratedFile → α} (tracks : write.Tracks view add)

include tracks

theorem view_settle (p : Progress σ ε) (name : ClassName) (o : Outcome) :
    view (p.settle m write name o).store
      = ((writes [o.event m write p.store name]).map (·.2)).foldl add (view p.store) := by
  cases o with
  | deferred unresolved => rfl
  | invalid defect => rfl
  | planned plan =>
    simp only [settle, emit, Outcome.event]
    rcases came : write (render plan m) p.store with ⟨⟨e⟩ | ⟨⟨⟩⟩, store⟩
    · exact tracks.refused came
    · exact tracks.written came

/-- A view of the store changes by the files that were written. -/
theorem view_foldl (cs : List ClassDeclaration) (p : Progress σ ε) :
    view (cs.foldl (step m r write) p).store
      = ((writes (p.trace m r write cs)).map (·.2)).foldl add (view p.store) := by
  induction cs generalizing p with
  | nil => rfl
  | cons c cs ih =>
    have first : view (p.step m r write c).store
        = ((writes (p.event? m r write c).toList).map (·.2)).foldl add (view p.store) := by
      unfold step event?
      split
      · rfl
      · exact view_settle tracks ..
    rw [List.foldl_cons, ih, first, trace, writes_append, List.map_append, List.foldl_append]

end

end

end Progress

namespace Session

variable {σ ε : Type}

/-- The events of a round. -/
def trace (s : Session) (r : Resolver) (write : Sink σ ε) (store : σ) : List Event :=
  (s.opened store).trace s.markers r write (r.candidates s.markers.contributesAssistedFactory)

variable (s : Session) (r : Resolver) (write : Sink σ ε) (store : σ)

theorem progress_follows :
    (s.opened store).Follows (s.progress r write store) (s.trace r write store) :=
  Progress.foldl_follows ..

/-- The session after a round, by the events of the round. -/
theorem session_process :
    (s.process r write store).session =
      { markers := s.markers
        round := s.round + 1
        emitted := s.emitted ++ (writes (s.trace r write store)).map (·.1)
        failed := s.failed ++ (reports (s.trace r write store)).map (·.1)
        pending := deferrals (s.trace r write store) } := by
  have follows := s.progress_follows r write store
  simp [process, follows.emitted, follows.failed, follows.deferred, opened]

/-- What a round hands to the reporter. -/
theorem diagnostics_process :
    (s.process r write store).diagnostics = (reports (s.trace r write store)).map (·.2) := by
  simp [process, (s.progress_follows r write store).diagnostics, opened]

/-- How a round changes a view of the store. -/
theorem view_process {α : Type} {view : σ → α} {add : α → GeneratedFile → α}
    (tracks : write.Tracks view add) :
    view (s.process r write store).store
      = ((writes (s.trace r write store)).map (·.2)).foldl add (view store) :=
  Progress.view_foldl tracks ..

/-- The report of a round that was not ended by a failed write. -/
theorem report_process {report : Report} (done : (s.process r write store).outcome = .ok report) :
    report =
      { round := s.round + 1
        generated := (writes (s.trace r write store)).map (·.1)
        deferred := deferrals (s.trace r write store)
        failed := (reports (s.trace r write store)).map (·.1) } := by
  have whole : (s.progress r write store).report = report := by
    simp only [process] at done
    split at done
    · cases done
    · exact Except.ok.inj done
  rw [← whole, (s.progress_follows r write store).report_eq]
  simp [opened]

/-- The events of a round are about different classes, none of them done before. -/
theorem trace_names :
    ((s.trace r write store).map Event.name).Nodup ∧
      ∀ e ∈ s.trace r write store, e.name ∉ s.emitted ∧ e.name ∉ s.failed := by
  obtain ⟨distinct, fresh⟩ := Progress.trace_names (m := s.markers) (r := r)
    (r.candidates s.markers.contributesAssistedFactory) (s.opened store)
  exact ⟨distinct, fun e he => (fresh e he).2⟩

end Session

end AssistedInjection.Rounds
