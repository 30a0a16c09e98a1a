import AssistedInjection.Proofs.Rounds.Outstanding
import AssistedInjection.Proofs.Sample
import AssistedInjection.Proofs.Validation.Accepted

/-!
A round as the image of its candidates. With a resolver that keeps to its answers and a sink that
takes every file, each candidate that is taken up comes to one event, which its declaration and that
of its bound type decide; the round does these events and nothing else.

    candidates    A   B   A   C   D        (B is done)
    taken         A           C   D
    events     written    deferred   reported

So the order of the candidates is the order of the results and has no other effect, and what else is
declared has none at all.
-/

namespace AssistedInjection.Rounds

open Kotlin Declaration Validation Source Checks

/-! ### Judging -/

namespace Session

variable {σ ε : Type}

end Session

end AssistedInjection.Rounds
