import AssistedInjection.Json.Fault

/-!
Numbers in JSON text.

    -12.50e+3        sign, whole part, fraction, exponent

A whole number without an exponent stays whole as long as it fits into 64 bits; all others are
floating. Fraction and exponent of a floating number are applied to its leading digits in one
division or multiplication by a power of ten, and digits that do not fit into 64 bits are dropped.
-/

namespace AssistedInjection.Json

/-- The parts of a number's text. -/
structure Numeral where
  negative : Bool
  whole : List Char
  /-- The digits after the point; empty if there is no point. -/
  fraction : List Char
  /-- The sign and the digits of the exponent. -/
  exponent : Option (Bool × List Char)
deriving DecidableEq, Repr

namespace Numeral

/-! ### Cutting the text -/

/-- The fault of a text that lacks a digit at its front. -/
def missingDigit : List Char → Fault
  | [] => .endInValue
  | _ => .badNumber

/-- The digits at the front of a text, at least one, and what follows them. -/
def digits (text : List Char) : Except Fault (List Char × List Char) :=
  match text.takeWhile Char.isDigit with
  | [] => .error (missingDigit text)
  | ds => .ok (ds, text.dropWhile Char.isDigit)

/-- Whether a sign at the front is a minus, and what follows the sign. -/
def signed : List Char → Bool × List Char
  | '-' :: rest => (true, rest)
  | '+' :: rest => (false, rest)
  | text => (false, text)

/-- The digits before the point; a leading zero stands alone. -/
def cutWhole (text : List Char) : Except Fault (List Char × List Char) := do
  match ← digits text with
  | ('0' :: _ :: _, _) => throw .badNumber
  | cut => return cut

/-- The digits after the point, if there is a point. -/
def cutFraction : List Char → Except Fault (List Char × List Char)
  | '.' :: rest => digits rest
  | text => .ok ([], text)

/-- The sign and digits of the exponent, if there is one. -/
def cutExponent (text : List Char) : Except Fault (Option (Bool × List Char) × List Char) :=
  match text with
  | 'e' :: rest | 'E' :: rest => do
    let (negative, rest) := signed rest
    let (ds, rest) ← digits rest
    return (some (negative, ds), rest)
  | text => .ok (none, text)

/-- The number that the text starts with, and what follows it. -/
def cut (text : List Char) : Except Fault (Numeral × List Char) := do
  let (negative, text) := match text with
    | '-' :: rest => (true, rest)
    | text => (false, text)
  let (whole, text) ← cutWhole text
  let (fraction, text) ← cutFraction text
  let (exponent, text) ← cutExponent text
  return (⟨negative, whole, fraction, exponent⟩, text)

/-! ### The value -/

/-- The value of a decimal digit. -/
def digitValue (c : Char) : Nat := c.toNat - '0'.toNat

/-- The largest number of 64 bits. -/
def wordLimit : Nat := Nat.pow 2 64 - 1

/-- Leading digits, the power of ten they stand before, and whether a digit no longer fitted. -/
structure Leading where
  value : Nat
  scale : Int
  full : Bool
deriving DecidableEq, Repr

/-- Takes a digit before the point: one that does not fit raises the scale, and so do the rest. -/
def Leading.takeWhole (l : Leading) (c : Char) : Leading :=
  if l.full || wordLimit < l.value * 10 + digitValue c then
    { l with scale := l.scale + 1, full := true }
  else { l with value := l.value * 10 + digitValue c }

/-- Takes a digit after the point: one that does not fit is dropped, and so are all after it. -/
def Leading.takeFraction (l : Leading) (c : Char) : Leading :=
  if l.full || wordLimit < l.value * 10 + digitValue c then { l with full := true }
  else { l with value := l.value * 10 + digitValue c, scale := l.scale - 1 }

/-- Divides by a power of ten, in steps that a floating number can hold. -/
def divideByPower (x : Float) (n : Nat) : Float :=
  if n ≤ 308 then x / Float.ofScientific 1 false n
  else if x == 0 then x
  else divideByPower (x / 1e308) (n - 308)
termination_by n

/-- The number `value · 10^scale`, unless that is too large. -/
def Leading.magnitude (l : Leading) : Except Fault Float :=
  let x := l.value.toUInt64.toFloat
  if l.scale < 0 then .ok (divideByPower x l.scale.natAbs)
  else if l.scale ≤ 308 then
    let y := x * Float.ofScientific 1 false l.scale.natAbs
    if y.isInf then .error .hugeNumber else .ok y
  else if x == 0 then .ok x else .error .hugeNumber

/-- The largest exponent that is taken at its value. -/
def exponentLimit : Nat := Nat.pow 2 31 - 1

/-- The size of a number, its sign aside. Beyond the largest exponent every number but zero is too
large or vanishes. -/
def magnitude (l : Leading) : Option (Bool × List Char) → Except Fault Float
  | none => l.magnitude
  | some (negative, ds) =>
    let exponent := ds.foldl (fun e c => e * 10 + digitValue c) 0
    if exponent ≤ exponentLimit then
      Leading.magnitude
        { l with scale := if negative then l.scale - exponent else l.scale + exponent }
    else if l.value ≠ 0 && !negative then .error .hugeNumber
    else .ok 0

/-- A floating number with its sign. -/
def withSign (negative : Bool) (x : Float) : Number := .floating (if negative then -x else x)

/-- The number a numeral stands for. Minus zero, and a negative number below the least of 64 bits,
are floating. -/
def value (n : Numeral) : Except Fault Number :=
  let whole := n.whole.foldl Leading.takeWhole ⟨0, 0, false⟩
  if n.fraction = [] && n.exponent = none && !whole.full &&
      (!n.negative || 0 < whole.value && whole.value ≤ Nat.pow 2 63) then
    .ok (.integer (if n.negative then -whole.value else whole.value))
  else
    let leading := n.fraction.foldl Leading.takeFraction { whole with full := false }
    (magnitude leading n.exponent).map (withSign n.negative)

end Numeral

end AssistedInjection.Json
