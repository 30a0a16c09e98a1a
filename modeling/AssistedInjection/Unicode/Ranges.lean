/-!
Sets of code points, written as the inclusive ranges they are made of. The tables beside this module
hold the part of a character class that lies beyond ASCII; each class decides ASCII by itself, so
that a question about an ASCII character never looks into a table.
-/

namespace AssistedInjection.Unicode

/-- Inclusive ranges in increasing order. -/
abbrev Ranges := List (Nat × Nat)

/-- Whether a code point lies in one of the ranges; the first range that starts beyond it ends the
search. -/
def Ranges.has : Ranges → Nat → Bool
  | [], _ => false
  | (low, high) :: rest, n => low ≤ n && (n ≤ high || Ranges.has rest n)

/-- Membership in a class that `ascii` decides below 128 and `table` from there on. -/
def classed (ascii : Char → Bool) (table : Ranges) (c : Char) : Bool :=
  if c.toNat < 128 then ascii c else table.has c.toNat

end AssistedInjection.Unicode
