import AssistedInjection.Proofs.Rounds.Trace

/-!
Which candidates a round takes up, and what becomes of them when the resolver does not change its
answers and no write fails.

    done              B
    candidates        A   B   A   C   B   D
    fresh             A           C       D
    due             written    deferred reported

A round that no failed write ends does just what is due. Any other one does it up to a candidate
whose factory could not be written, and stops there.
-/

namespace AssistedInjection.Rounds

open Kotlin Declaration Validation Source

/-- The first candidate of each name, those that are done left out. -/
def fresh (done : List ClassName) : List ClassDeclaration → List ClassDeclaration
  | [] => []
  | c :: cs => if c.name ∈ done then fresh done cs else c :: fresh (c.name :: done) cs

theorem fresh_cons_of_mem {done : List ClassName} {c : ClassDeclaration} (h : c.name ∈ done)
    (cs : List ClassDeclaration) : fresh done (c :: cs) = fresh done cs := by
  rw [fresh, if_pos h]

theorem fresh_cons_of_not_mem {done : List ClassName} {c : ClassDeclaration} (h : c.name ∉ done)
    (cs : List ClassDeclaration) : fresh done (c :: cs) = c :: fresh (c.name :: done) cs := by
  rw [fresh, if_neg h]

/-- Neither order nor repetitions matter in what is done. -/
theorem fresh_congr {done done' : List ClassName} (same : ∀ n, n ∈ done ↔ n ∈ done')
    (cs : List ClassDeclaration) : fresh done cs = fresh done' cs := by
  induction cs generalizing done done' with
  | nil => rfl
  | cons c cs ih =>
    by_cases h : c.name ∈ done
    · rw [fresh_cons_of_mem h, fresh_cons_of_mem ((same _).1 h), ih same]
    · have same' : ∀ n, n ∈ c.name :: done ↔ n ∈ c.name :: done' := fun n => by
        rw [List.mem_cons, List.mem_cons, same n]
      rw [fresh_cons_of_not_mem h, fresh_cons_of_not_mem (mt (same _).2 h), ih same']

/-- What is done later on is struck off. -/
theorem fresh_append_done (done more : List ClassName) (cs : List ClassDeclaration) :
    fresh (done ++ more) cs = (fresh done cs).filter (·.name ∉ more) := by
  induction cs generalizing done with
  | nil => rfl
  | cons c cs ih =>
    by_cases old : c.name ∈ done
    · rw [fresh_cons_of_mem old, fresh_cons_of_mem (List.mem_append_left _ old), ih]
    · rw [fresh_cons_of_not_mem old]
      by_cases new : c.name ∈ more
      · rw [fresh_cons_of_mem (List.mem_append_right _ new),
          List.filter_cons_of_neg (by simp [new]), ← ih]
        refine fresh_congr (fun n => ?_) cs
        simp only [List.mem_append, List.mem_cons]
        constructor
        · rintro (h | h)
          · exact .inl (.inr h)
          · exact .inr h
        · rintro ((rfl | h) | h)
          · exact .inr new
          · exact .inl h
          · exact .inr h
      · rw [fresh_cons_of_not_mem (by simp [old, new]), List.filter_cons_of_pos (by simp [new]),
          ← ih, List.cons_append]

theorem mem_of_mem_fresh {done : List ClassName} {cs : List ClassDeclaration} {c : ClassDeclaration}
    (h : c ∈ fresh done cs) : c ∈ cs ∧ c.name ∉ done := by
  induction cs generalizing done with
  | nil => cases h
  | cons d cs ih =>
    by_cases old : d.name ∈ done
    · rw [fresh_cons_of_mem old] at h
      exact ⟨List.mem_cons_of_mem _ (ih h).1, (ih h).2⟩
    · rw [fresh_cons_of_not_mem old] at h
      rcases List.mem_cons.1 h with rfl | h
      · exact ⟨List.mem_cons_self .., old⟩
      · exact ⟨List.mem_cons_of_mem _ (ih h).1, fun h' => (ih h).2 (List.mem_cons_of_mem _ h')⟩

theorem nodup_names_fresh (done : List ClassName) (cs : List ClassDeclaration) :
    ((fresh done cs).map (·.name)).Nodup := by
  induction cs generalizing done with
  | nil => exact List.nodup_nil
  | cons c cs ih =>
    by_cases old : c.name ∈ done
    · rw [fresh_cons_of_mem old]
      exact ih done
    · rw [fresh_cons_of_not_mem old, List.map_cons, List.nodup_cons]
      refine ⟨fun twice => ?_, ih _⟩
      obtain ⟨d, mem, same⟩ := List.mem_map.1 twice
      exact (mem_of_mem_fresh mem).2 (by simp [same])

/-- New candidates of different names are all fresh. -/
theorem fresh_eq_self {done : List ClassName} {cs : List ClassDeclaration}
    (distinct : (cs.map (·.name)).Nodup) (new : ∀ c ∈ cs, c.name ∉ done) : fresh done cs = cs := by
  induction cs generalizing done with
  | nil => rfl
  | cons c cs ih =>
    obtain ⟨apart, distinct⟩ := List.nodup_cons.1 distinct
    rw [fresh_cons_of_not_mem (new c (List.mem_cons_self ..)), ih distinct]
    intro d mem
    rw [List.mem_cons, not_or]
    refine ⟨fun same => apart ?_, new d (List.mem_cons_of_mem _ mem)⟩
    exact List.mem_map.2 ⟨d, mem, same⟩

/-- After some candidates the others are fresh unless they have been there before. -/
theorem fresh_append (done : List ClassName) (cs ds : List ClassDeclaration) :
    fresh done (cs ++ ds) = fresh done cs ++ fresh (done ++ (fresh done cs).map (·.name)) ds := by
  induction cs generalizing done with
  | nil => simp [fresh]
  | cons c cs ih =>
    by_cases old : c.name ∈ done
    · rw [List.cons_append, fresh_cons_of_mem old, fresh_cons_of_mem old, ih]
    · have same (ns : List ClassName) (n : ClassName) :
          n ∈ done ++ c.name :: ns ↔ n ∈ c.name :: (done ++ ns) := by
        simp only [List.mem_append, List.mem_cons, or_left_comm]
      rw [List.cons_append, fresh_cons_of_not_mem old, fresh_cons_of_not_mem old, ih,
        List.cons_append, List.map_cons, fresh_congr (same _), List.cons_append]

/-- Answers that never change. -/
def Resolver.IsStable (r : Resolver) : Prop := ∀ i j, r.answer i = r.answer j

theorem Resolver.isStable_ofTable (t : SymbolTable) : (Resolver.ofTable t).IsStable :=
  fun _ _ => rfl

/-- What a candidate is judged to be by a resolver that does not change its answers. -/
def verdict (m : Markers) (r : Resolver) (c : ClassDeclaration) : Outcome :=
  judge m (r.answer 0) (r.answer 0) c

theorem Resolver.IsStable.judge_eq {r : Resolver} (stable : r.IsStable) (m : Markers) (i j : Nat)
    (c : ClassDeclaration) : judge m (r.answer i) (r.answer j) c = verdict m r c := by
  rw [verdict, stable i 0, stable j 0]

/-- The event that an outcome comes to when the write succeeds. -/
def Outcome.due (m : Markers) (name : ClassName) : Outcome → Event
  | .deferred unresolved => .deferred ⟨name, unresolved⟩
  | .invalid defect => .reported name ⟨defect.site, defect.message⟩
  | .planned plan => .written name (render plan m)

@[simp] theorem Outcome.due_name (m : Markers) (name : ClassName) (o : Outcome) :
    (o.due m name).name = name := by
  cases o <;> rfl

theorem Outcome.due_ne_refused (m : Markers) (name n : ClassName) (file : GeneratedFile)
    (o : Outcome) : o.due m name ≠ .refused n file := by
  cases o <;> simp [due]

/-- What is to be done for a candidate. -/
def due (m : Markers) (r : Resolver) (c : ClassDeclaration) : Event :=
  (verdict m r c).due m c.name

@[simp] theorem due_name (m : Markers) (r : Resolver) (c : ClassDeclaration) :
    (due m r c).name = c.name := Outcome.due_name ..

theorem names_due (m : Markers) (r : Resolver) (cs : List ClassDeclaration) :
    (cs.map (due m r)).map Event.name = cs.map (·.name) := by
  rw [List.map_map]
  exact List.map_congr_left fun c _ => due_name m r c

/-- A sink that takes every file. -/
def Sink.Reliable {σ ε : Type} (write : Sink σ ε) : Prop :=
  ∀ file store, (write file store).1 = .ok ()

namespace Progress

variable {σ ε : Type}

/-- The classes that a round passes over. -/
def done (p : Progress σ ε) : List ClassName := p.seen ++ p.emitted ++ p.failed

theorem isDone_eq_true_iff {p : Progress σ ε} {n : ClassName} : p.isDone n = true ↔ n ∈ p.done := by
  simp [isDone, done, or_assoc]

/-- What an event is about is done afterwards. -/
theorem Follows.mem_done_iff {p q : Progress σ ε} {es : List Event} (h : Follows p q es)
    (n : ClassName) : n ∈ q.done ↔ n ∈ p.done ++ es.map Event.name := by
  have settles : n ∈ settled es → n ∈ es.map Event.name :=
    fun mem => mem_names_of_concerned (List.mem_append_left _ mem)
  rw [settled, List.mem_append] at settles
  rw [done, h.seen, h.emitted, h.failed, done]
  simp only [List.mem_append]
  constructor
  · rintro (((h | h) | h | h) | h | h)
    · exact .inl (.inl (.inl h))
    · exact .inr h
    · exact .inl (.inl (.inr h))
    · exact .inr (settles (.inl h))
    · exact .inl (.inr h)
    · exact .inr (settles (.inr h))
  · rintro (((h | h) | h) | h)
    · exact .inl (.inl (.inl h))
    · exact .inl (.inr (.inl h))
    · exact .inr (.inl h)
    · exact .inl (.inl (.inr h))

/-- Where a write ended a round: at `q` the factory of `c` could not be written, and `p` is what
that left. -/
structure StopsAt (m : Markers) (r : Resolver) (write : Sink σ ε) (q : Progress σ ε)
    (c : ClassDeclaration) (plan : Plan) (e : ε) (p : Progress σ ε) : Prop where
  going : q.failure = none
  new : c.name ∉ q.done
  planned : judge m (r.answer q.asked) (r.answer (q.asked + 1)) c = .planned plan
  refused : write (render plan m) q.store = (.error e, p.store)
  left : p = { q with
    seen := q.seen ++ [c.name]
    asked := q.asked + questions m (r.answer q.asked) c
    store := p.store
    failure := some e }

section

variable {m : Markers} {r : Resolver} {write : Sink σ ε}

theorem trace_append (cs ds : List ClassDeclaration) (p : Progress σ ε) :
    p.trace m r write (cs ++ ds)
      = p.trace m r write cs ++ (cs.foldl (step m r write) p).trace m r write ds := by
  induction cs generalizing p with
  | nil => rfl
  | cons c cs ih => rw [List.cons_append, trace, trace, ih, List.foldl_cons, List.append_assoc]

theorem event?_of_failure {p : Progress σ ε} (failed : p.failure ≠ none) (c : ClassDeclaration) :
    p.event? m r write c = none := by
  rw [event?, if_pos]
  simp [Option.isSome_iff_ne_none.2 failed]

theorem event?_of_mem_done {p : Progress σ ε} {c : ClassDeclaration} (old : c.name ∈ p.done) :
    p.event? m r write c = none := by
  rw [event?, if_pos]
  simp [isDone_eq_true_iff.2 old]

/-- A candidate that is not done is judged. -/
theorem event?_of_new {p : Progress σ ε} {c : ClassDeclaration} (going : p.failure = none)
    (new : c.name ∉ p.done) :
    p.event? m r write c
      = some ((judge m (r.answer p.asked) (r.answer (p.asked + 1)) c).event m write p.store
          c.name) := by
  rw [event?, if_neg]
  simpa [going, ← isDone_eq_true_iff] using new

theorem step_of_new {p : Progress σ ε} {c : ClassDeclaration} (going : p.failure = none)
    (new : c.name ∉ p.done) :
    p.step m r write c
      = settle { p with
          seen := p.seen ++ [c.name]
          asked := p.asked + questions m (r.answer p.asked) c } m write c.name
          (judge m (r.answer p.asked) (r.answer (p.asked + 1)) c) := by
  rw [step, if_neg]
  simpa [going, ← isDone_eq_true_iff] using new

/-- After a failed write the round is over. -/
theorem foldl_of_failure {p : Progress σ ε} (failed : p.failure ≠ none)
    (cs : List ClassDeclaration) :
    cs.foldl (step m r write) p = p ∧ p.trace m r write cs = [] := by
  induction cs with
  | nil => exact ⟨rfl, rfl⟩
  | cons c cs ih =>
    have nothing : p.event? m r write c = none := event?_of_failure failed c
    rw [List.foldl_cons, trace, step_eq_self nothing, nothing]
    exact ih

variable (m write) in
/-- Dealing with an outcome comes to what is due unless a write fails. -/
theorem settle_cases {p : Progress σ ε} (going : p.failure = none) (name : ClassName)
    (o : Outcome) :
    ((p.settle m write name o).failure = none ∧ o.event m write p.store name = o.due m name) ∨
      ∃ plan e store, o = .planned plan ∧ write (render plan m) p.store = (.error e, store) ∧
        p.settle m write name o = { p with store, failure := some e } ∧
        o.event m write p.store name = .refused name (render plan m) := by
  cases o with
  | deferred unresolved => exact .inl ⟨going, rfl⟩
  | invalid defect => exact .inl ⟨going, rfl⟩
  | planned plan =>
    rcases came : write (render plan m) p.store with ⟨⟨e⟩ | ⟨⟨⟩⟩, store⟩
    · refine .inr ⟨plan, e, store, rfl, came, ?_, ?_⟩
      · simp [settle, emit, came]
      · simp [Outcome.event, came]
    · refine .inl ⟨?_, ?_⟩
      · simp [settle, emit, came, going]
      · simp [Outcome.event, Outcome.due, came]

variable (m r write) in
/-- A candidate that is not done comes to what is due for it or stops the round. -/
theorem step_cases {p : Progress σ ε} {c : ClassDeclaration} (going : p.failure = none)
    (new : c.name ∉ p.done) :
    ((p.step m r write c).failure = none ∧ p.event? m r write c
      = some ((judge m (r.answer p.asked) (r.answer (p.asked + 1)) c).due m c.name)) ∨
      ∃ plan e, StopsAt m r write p c plan e (p.step m r write c) ∧
        p.event? m r write c = some (.refused c.name (render plan m)) := by
  have judged := settle_cases m write
    (p := { p with
      seen := p.seen ++ [c.name]
      asked := p.asked + questions m (r.answer p.asked) c })
    going c.name (judge m (r.answer p.asked) (r.answer (p.asked + 1)) c)
  rw [step_of_new going new, event?_of_new going new]
  rcases judged with ⟨goes, event⟩ | ⟨plan, e, store, planned, refused, left, event⟩
  · exact .inl ⟨goes, congrArg some event⟩
  · refine .inr ⟨plan, e, ?_, congrArg some event⟩
    rw [left]
    exact ⟨going, new, planned, refused, rfl⟩

/-- A round that was ended by a write got as far as one candidate. -/
theorem foldl_failure {cs : List ClassDeclaration} {p : Progress σ ε} {e : ε}
    (going : p.failure = none) (failed : (cs.foldl (step m r write) p).failure = some e) :
    ∃ before c after plan, cs = before ++ c :: after ∧
      StopsAt m r write (before.foldl (step m r write) p) c plan e
        (cs.foldl (step m r write) p) := by
  induction cs generalizing p with
  | nil => rw [List.foldl_nil, going] at failed; cases failed
  | cons c cs ih =>
    by_cases goes : (p.step m r write c).failure = none
    · obtain ⟨before, d, after, plan, rfl, stops⟩ := ih goes failed
      exact ⟨c :: before, d, after, plan, rfl, stops⟩
    · have new : c.name ∉ p.done := fun old => by
        rw [step_eq_self (event?_of_mem_done old)] at goes
        exact goes going
      have stopped : cs.foldl (step m r write) (p.step m r write c) = p.step m r write c :=
        (foldl_of_failure goes cs).1
      rw [List.foldl_cons, stopped] at failed ⊢
      rcases step_cases m r write going new with ⟨went, -⟩ | ⟨plan, e', stops, -⟩
      · exact absurd went goes
      · have same : e' = e := by
          have := stops.left ▸ failed
          exact Option.some.inj this
        exact ⟨[], c, cs, plan, rfl, same ▸ stops⟩

/-- A round that no write ended did what was due for the fresh candidates. -/
theorem trace_of_completed (stable : r.IsStable) {cs : List ClassDeclaration} {p : Progress σ ε}
    (completed : (cs.foldl (step m r write) p).failure = none) :
    p.trace m r write cs = (fresh p.done cs).map (due m r) := by
  induction cs generalizing p with
  | nil => rfl
  | cons c cs ih =>
    have goes : (p.step m r write c).failure = none := by
      by_contra failed
      rw [List.foldl_cons, (foldl_of_failure failed cs).1] at completed
      exact failed completed
    have going : p.failure = none := by
      by_contra failed
      rw [step_eq_self (event?_of_failure failed c)] at goes
      exact failed goes
    rw [trace, ih completed]
    by_cases old : c.name ∈ p.done
    · rw [step_eq_self (event?_of_mem_done old), event?_of_mem_done old, fresh_cons_of_mem old]
      rfl
    · rcases step_cases m r write going old with ⟨-, event⟩ | ⟨plan, e, stops, -⟩
      · have follows : Follows p (p.step m r write c) _ := step_follows p c
        have same : ∀ n, n ∈ (p.step m r write c).done ↔ n ∈ c.name :: p.done := fun n => by
          rw [follows.mem_done_iff, event]
          simp [or_comm]
        rw [event, stable.judge_eq, fresh_cons_of_not_mem old, fresh_congr same]
        rfl
      · rw [stops.left] at goes
        cases goes

theorem mem_done_foldl_iff (stable : r.IsStable) {cs : List ClassDeclaration} {p : Progress σ ε}
    (completed : (cs.foldl (step m r write) p).failure = none) (n : ClassName) :
    n ∈ (cs.foldl (step m r write) p).done
      ↔ n ∈ p.done ++ (fresh p.done cs).map (·.name) := by
  rw [(foldl_follows cs p).mem_done_iff, trace_of_completed stable completed, names_due]

/-- A round that a write ended did what was due up to the class that could not be written. -/
theorem trace_of_stopped (stable : r.IsStable) {before : List ClassDeclaration}
    {c : ClassDeclaration} {plan : Plan} {e : ε} {p q : Progress σ ε}
    (stops : StopsAt m r write (before.foldl (step m r write) p) c plan e q)
    (after : List ClassDeclaration) :
    p.trace m r write (before ++ c :: after)
        = (fresh p.done before).map (due m r) ++ [.refused c.name (render plan m)] ∧
      fresh p.done (before ++ c :: after)
        = fresh p.done before ++ c :: fresh (c.name :: (p.done ++
            (fresh p.done before).map (·.name))) after := by
  constructor
  · rw [trace_append, trace_of_completed stable stops.going, trace]
    congr 1
    rcases step_cases m r write stops.going stops.new with
      ⟨-, event⟩ | ⟨plan', e', stops', event⟩
    · rw [event?_of_new stops.going stops.new, stops.planned, Outcome.event, stops.refused] at event
      cases event
    · have stopped : (step m r write (before.foldl (step m r write) p) c).failure ≠ none := by
        rw [stops'.left]
        exact Option.some_ne_none e'
      obtain rfl : plan' = plan := Outcome.planned.inj (stops'.planned.symm.trans stops.planned)
      rw [event, (foldl_of_failure stopped after).2]
      rfl
  · have new := stops.new
    rw [mem_done_foldl_iff stable stops.going] at new
    rw [fresh_append, fresh_cons_of_not_mem new]

/-- A round with a reliable sink is not ended by a write. -/
theorem completed_of_reliable (reliable : write.Reliable) (cs : List ClassDeclaration)
    {p : Progress σ ε} (going : p.failure = none) :
    (cs.foldl (step m r write) p).failure = none := by
  by_contra failed
  obtain ⟨e, failed⟩ := Option.ne_none_iff_exists'.1 failed
  obtain ⟨before, c, after, plan, -, stops⟩ := foldl_failure going failed
  have taken := reliable (render plan m) (before.foldl (step m r write) p).store
  rw [stops.refused] at taken
  cases taken

end

end Progress

end AssistedInjection.Rounds
