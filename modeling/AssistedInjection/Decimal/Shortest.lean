/-!
The shortest decimal of a floating point number.

A finite number is `m · 2^q`. The decimals that read back as it are those in an interval around it
that reaches halfway to its neighbours, ends included when `m` is even. Of the grids of multiples of
`10^k` the coarsest with a point in the interval holds the decimals of fewest digits, and of its
points the one next to the number is taken. All of this is exact arithmetic on natural numbers.
-/

namespace AssistedInjection.Decimal

/-- The number `m · 2^q`, without a sign. -/
structure Binary where
  m : Nat
  q : Int
  /-- Whether the next smaller number is only half as far away as the next larger one. -/
  closeBelow : Bool

/-- The parts of a finite number. -/
def Binary.ofFloat (x : Float) : Binary :=
  let bits := x.toBits.toNat
  let fraction : Nat := bits % Nat.pow 2 52
  let exponent : Nat := bits / Nat.pow 2 52 % Nat.pow 2 11
  if exponent = 0 then ⟨fraction, -1074, false⟩
  else ⟨fraction + Nat.pow 2 52, exponent - 1075, fraction = 0 && 1 < exponent⟩

/-- The decimal `digits · 10^exponent`. -/
structure Digits where
  digits : Nat
  exponent : Int
deriving DecidableEq, Repr

/-- A quarter of `10^k` in quarters of `2^q`, as a fraction: four times a multiple `d` of `10^k`
compares with four times `m · 2^q` as `d * num` with `4 * m * den`. -/
def gridScale (q k : Int) : Nat × Nat :=
  (4 * Nat.pow 10 k.toNat * Nat.pow 2 (-q).toNat, Nat.pow 10 (-k).toNat * Nat.pow 2 q.toNat)

/-- The point of the grid of multiples of `10^k` that reads back as the number and lies next to it.
Of two equally near points the even one is taken. -/
def nearestOnGrid (b : Binary) (k : Int) : Option Nat :=
  let (num, den) := gridScale b.q k
  let value := 4 * b.m * den
  let low := (4 * b.m - if b.closeBelow then 1 else 2) * den
  let high := (4 * b.m + 2) * den
  let inside (d : Nat) : Bool :=
    if b.m % 2 = 0 then low ≤ d * num && d * num ≤ high else low < d * num && d * num < high
  let below := value / num
  let down := value - below * num
  let up := (below + 1) * num - value
  match inside below, inside (below + 1) with
  | true, true => some (if down < up || (down = up && below % 2 = 0) then below else below + 1)
  | true, false => some below
  | false, true => some (below + 1)
  | false, false => none

/-- Tries ever finer grids, `n` of them. -/
def coarsest (b : Binary) (k : Int) : Nat → Digits
  | 0 => ⟨0, 0⟩
  | n + 1 =>
    match nearestOnGrid b k with
    | some d => ⟨d, k⟩
    | none => coarsest b (k - 1) n

/-- The shortest digits that read back as a finite number other than zero; no such number needs a
grid coarser than `10^308` or finer than `10^-324`. -/
def shortest (x : Float) : Digits := coarsest (.ofFloat x) 308 633

end AssistedInjection.Decimal
