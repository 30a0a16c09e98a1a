import AssistedInjection.Proofs.Rounds.Outstanding
import AssistedInjection.Proofs.Sample
import AssistedInjection.Proofs.Validation.Dependence

/-!
What a round defers. References are looked through before validation, and nothing that validation
stops at is missed; so a class that is put off is put off with the full list of what it waits for.

    references    A   String   Later   List   Later   Soon
    waits for                  Later                  Soon      validation is not asked
-/

namespace AssistedInjection.Rounds

open Kotlin Declaration Validation Source

/-- A candidate that is put off waits for something, and is put off with all of it. -/
theorem verdict_eq_deferred {m : Markers} {r : Resolver} {c : ClassDeclaration} {us : List String}
    (put : verdict m r c = .deferred us) :
    us = unresolvedReferences m (r.answer 0) c ∧ us ≠ [] := by
  unfold verdict judge at put
  split at put
  · rename_i ready
    split at put
    · cases put
    · rename_i spellings failed
      obtain ⟨s, mem, -⟩ := mem_unresolvedReferences_of_validate failed
      rw [ready] at mem
      cases mem
    · cases put
  · rename_i waiting
    cases put
    exact ⟨rfl, waiting⟩

namespace Session

variable {σ ε : Type} (s : Session) {r : Resolver} (stable : r.IsStable) (write : Sink σ ε)
  (store : σ)

include stable in
/-- What is pending after a round was to be put off. -/
theorem mem_outstanding_of_mem_pending {d : Deferred}
    (mem : d ∈ (s.process r write store).session.pending) : .deferred d ∈ s.outstanding r := by
  rw [session_process, mem_deferrals] at mem
  rcases s.trace_cases stable write store with ⟨-, traced⟩ | ⟨first, rest, n, file, begun, traced⟩
  · rwa [traced] at mem
  · rw [traced, List.mem_append, List.mem_singleton] at mem
    rw [begun]
    exact List.mem_append_left _ (mem.resolve_right fun h => nomatch h)

include stable in
/-- A class waits for the unresolved references that it depends on, each of them once, in the order
in which they first come up. Validation puts a class off for nothing but one of these; so the
classes that a round defers are those that wait, each with all that it waits for. -/
theorem deferred_only_while_waiting :
    (∀ c i,
      let spellings := (references s.markers (r.answer i) c).filterMap (·.spelling?)
      let waitsFor := unresolvedReferences s.markers (r.answer i) c
      (∀ u, u ∈ waitsFor ↔ DependsOn s.markers (r.answer i) c (.unresolved u)) ∧
        waitsFor.Nodup ∧
        (waitsFor.Pairwise fun u v => spellings.idxOf u < spellings.idxOf v) ∧
        ∀ j us, validate s.markers (r.answer j) c = .error (.unresolved us) →
          ∃ u ∈ waitsFor, us = [u]) ∧
      ∀ d ∈ (s.process r write store).session.pending,
        ∃ c ∈ fresh (s.emitted ++ s.failed) (r.candidates s.markers.contributesAssistedFactory),
          d = ⟨c.name, unresolvedReferences s.markers (r.answer 0) c⟩ ∧ d.unresolved ≠ [] := by
  constructor
  · intro c i spellings waitsFor
    refine ⟨fun u => mem_unresolvedReferences_iff, nodup_withoutRepetition _,
      pairwise_withoutRepetition _, fun j us put => ?_⟩
    rw [stable j i] at put
    exact mem_unresolvedReferences_of_validate put
  · intro d mem
    have outstanding := s.mem_outstanding_of_mem_pending stable write store mem
    obtain ⟨c, taken, event⟩ := List.mem_map.1 outstanding
    refine ⟨c, taken, ?_⟩
    unfold due at event
    cases judged : verdict s.markers r c with
    | deferred us =>
      rw [judged] at event
      cases event
      obtain ⟨rfl, waiting⟩ := verdict_eq_deferred judged
      exact ⟨rfl, waiting⟩
    | invalid defect => rw [judged] at event; cases event
    | planned plan => rw [judged] at event; cases event

open Sample in
/-- A component whose parameter is unresolved is put off before validation would stop at it. -/
theorem deferred_only_while_waiting_for_late_type :
    let r := Resolver.ofTable (mixed (.unresolved "Later"))
    let late := component "Late" [assisted "id" (.unresolved "Later")]
    let result := (start .standard).process r unlimited []
    r.IsStable ∧ result.session.pending = [⟨name "Late", ["Later"]⟩] ∧
      (∃ c ∈ fresh [] (r.candidates Markers.standard.contributesAssistedFactory),
        name "Late" = c.name ∧ ["Later"] = unresolvedReferences .standard (r.answer 0) c) ∧
      validate .standard (r.answer 1) late = .error (.unresolved ["Later"]) ∧
      "Later" ∈ unresolvedReferences .standard (r.answer 0) late := by
  intro r late result
  have stable : r.IsStable := Resolver.isStable_ofTable _
  have pending : result.session.pending = [⟨name "Late", ["Later"]⟩] := by decide
  have put : validate .standard (r.answer 1) late = .error (.unresolved ["Later"]) := by decide
  obtain ⟨waits, deferred⟩ := (start .standard).deferred_only_while_waiting stable unlimited []
  obtain ⟨-, -, -, stops⟩ := waits late 0
  obtain ⟨u, mem, same⟩ := stops 1 _ put
  obtain ⟨c, taken, put', -⟩ := deferred _ (pending ▸ List.mem_singleton_self _)
  refine ⟨stable, pending, ⟨c, taken, ?_, ?_⟩, put, ?_⟩
  · exact congrArg Deferred.name put'
  · exact congrArg Deferred.unresolved put'
  · rw [List.singleton_inj.1 same]
    exact mem

end Session

end AssistedInjection.Rounds
