import AssistedInjection.Rounds.Resolver
import AssistedInjection.Source.Factory
import AssistedInjection.Validation.Check

/-!
Generation in rounds.

A round goes through the candidates in order. One whose references are not all resolved is deferred
to the next round; every other one is either generated or reported, and is never looked at again.

    candidate ──▶ seen, generated or reported before: passed over
              ──▶ unresolved references: deferred
              ──▶ valid: written  ──▶ generated
                                  ──▶ the write failed: the round ends here
              ──▶ defective: reported
-/

namespace AssistedInjection.Rounds

open Kotlin Declaration Validation Source

/-- A class put off to a later round, with the spellings of its unresolved references. -/
structure Deferred where
  name : ClassName
  unresolved : List String
deriving DecidableEq

/-- A message about an element of the sources. -/
structure Diagnostic where
  site : Site
  message : String
deriving DecidableEq

/-- What a round did, each list in the order in which it was done. -/
structure Report where
  /-- Rounds are counted from one. -/
  round : Nat
  generated : List ClassName
  deferred : List Deferred
  failed : List ClassName
deriving DecidableEq

/-- Takes a generated file into a store of type `σ`. A failed write may change the store, too. -/
abbrev Sink (σ ε : Type) := GeneratedFile → σ → Except ε Unit × σ

/-- What becomes of a candidate. -/
inductive Outcome where
  | deferred (unresolved : List String)
  | invalid (defect : Defect)
  | planned (plan : Plan)
deriving DecidableEq

/-- Judges a candidate. Its references are looked through first, then it is validated; the bound
type's declaration is looked up in each. -/
def judge (m : Markers) (first second : Lookup) (c : ClassDeclaration) : Outcome :=
  match unresolvedReferences m first c with
  | [] =>
    match validate m second c with
    | .ok plan => .planned plan
    | .error (.unresolved spellings) => .deferred spellings
    | .error (.invalid defect) => .invalid defect
  | spellings => .deferred spellings

/-- How many questions for a declaration judging a candidate takes: one each time that its bound
type can be told. -/
def questions (m : Markers) (first : Lookup) (c : ClassDeclaration) : Nat :=
  if (boundName? m c).isNone then 0 else if unresolvedReferences m first c = [] then 2 else 1

/-- What is carried from round to round. -/
structure Session where
  markers : Markers
  /-- How many rounds there were. -/
  round : Nat
  /-- The classes a factory was written for, in order. -/
  emitted : List ClassName
  /-- The classes that were reported, in order. -/
  failed : List ClassName
  /-- What the last round deferred. -/
  pending : List Deferred
deriving DecidableEq

/-- A round on its way. -/
structure Progress (σ ε : Type) where
  /-- The candidates met so far. -/
  seen : List ClassName
  /-- The number of questions for declarations so far. -/
  asked : Nat
  emitted : List ClassName
  failed : List ClassName
  report : Report
  store : σ
  diagnostics : List Diagnostic
  /-- The failure that ended the round early. -/
  failure : Option ε

namespace Progress

variable {σ ε : Type}

/-- Whether a candidate is passed over. -/
def isDone (p : Progress σ ε) (name : ClassName) : Bool :=
  p.seen.contains name || p.emitted.contains name || p.failed.contains name

/-- Puts a candidate off. -/
def defer (p : Progress σ ε) (name : ClassName) (unresolved : List String) : Progress σ ε :=
  { p with report.deferred := p.report.deferred ++ [⟨name, unresolved⟩] }

/-- Reports a candidate. -/
def reject (p : Progress σ ε) (name : ClassName) (defect : Defect) : Progress σ ε :=
  { p with
    failed := p.failed ++ [name]
    report.failed := p.report.failed ++ [name]
    diagnostics := p.diagnostics ++ [⟨defect.site, defect.message⟩] }

/-- Writes the factory of a candidate. -/
def emit (p : Progress σ ε) (write : Sink σ ε) (name : ClassName) (file : GeneratedFile) :
    Progress σ ε :=
  match write file p.store with
  | (.ok (), store) =>
    { p with
      store
      emitted := p.emitted ++ [name]
      report.generated := p.report.generated ++ [name] }
  | (.error e, store) => { p with store, failure := some e }

/-- Deals with a candidate as it was judged. -/
def settle (p : Progress σ ε) (m : Markers) (write : Sink σ ε) (name : ClassName) :
    Outcome → Progress σ ε
  | .deferred unresolved => p.defer name unresolved
  | .invalid defect => p.reject name defect
  | .planned plan => p.emit write name (render plan m)

/-- Handles one candidate. After a failure, and for a candidate that is done, nothing happens. -/
def step (m : Markers) (r : Resolver) (write : Sink σ ε) (p : Progress σ ε)
    (c : ClassDeclaration) : Progress σ ε :=
  if p.failure.isSome || p.isDone c.name then p
  else
    let first := r.answer p.asked
    let outcome := judge m first (r.answer (p.asked + 1)) c
    let judged := { p with seen := p.seen ++ [c.name], asked := p.asked + questions m first c }
    judged.settle m write c.name outcome

end Progress

namespace Session

variable {σ ε : Type}

/-- A session that has done nothing yet. -/
def start (m : Markers) : Session := ⟨m, 0, [], [], []⟩

/-- Forgets all but the markers, for a new build. -/
def reset (s : Session) : Session := start s.markers

/-- A round before its first candidate. -/
def opened (s : Session) (store : σ) : Progress σ ε :=
  ⟨[], 0, s.emitted, s.failed, ⟨s.round + 1, [], [], []⟩, store, [], none⟩

/-- The round with all candidates handled. -/
def progress (s : Session) (r : Resolver) (write : Sink σ ε) (store : σ) : Progress σ ε :=
  (r.candidates s.markers.contributesAssistedFactory).foldl (Progress.step s.markers r write)
    (s.opened store)

/-- What comes of a round. -/
structure RoundResult (σ ε : Type) where
  session : Session
  store : σ
  diagnostics : List Diagnostic
  /-- The report, or the failed write that ended the round. -/
  outcome : Except ε Report

/-- Runs a round. What was done before a failed write stays done, and what was deferred before it is
pending. -/
def process (s : Session) (r : Resolver) (write : Sink σ ε) (store : σ) : RoundResult σ ε :=
  let p := s.progress r write store
  { session :=
      { s with
        round := s.round + 1
        emitted := p.emitted
        failed := p.failed
        pending := p.report.deferred }
    store := p.store
    diagnostics := p.diagnostics
    outcome := match p.failure with
      | some e => .error e
      | none => .ok p.report }

/-- Ends processing: what is still pending was never resolved. -/
def finish (s : Session) : List Deferred × Session := (s.pending, { s with pending := [] })

end Session

end AssistedInjection.Rounds
