import AssistedInjection.SymbolTable
import AssistedInjection.Validation.References

/-!
What a round can see: the classes that ask for a factory, and declarations by name. Nothing is
assumed of the answers; they may change from one question of a round to the next.
-/

namespace AssistedInjection.Rounds

open Kotlin Declaration Validation

/-- What a round can ask for. -/
structure Resolver where
  /-- The classes annotated with a marker, in the order in which they are to be handled. -/
  candidates : (marker : ClassName) → List ClassDeclaration
  /-- The answer to the question for a declaration, after a number of earlier questions. -/
  answer : (asked : Nat) → Lookup

namespace Resolver

/-- Sees the classes of a table. -/
def ofTable (t : SymbolTable) : Resolver := ⟨t.annotatedWith, fun _ => t.get?⟩

/-- Offers the given classes of a table, as far as it has them, in place of the annotated ones. -/
def offering (t : SymbolTable) (names : List ClassName) : Resolver :=
  { ofTable t with candidates := fun _ => names.filterMap t.get? }

/-- Leaves the first `n` questions for a declaration without an answer. -/
def withholding (n : Nat) (r : Resolver) : Resolver :=
  { r with answer := fun asked name => if asked < n then none else r.answer asked name }

end Resolver

end AssistedInjection.Rounds
