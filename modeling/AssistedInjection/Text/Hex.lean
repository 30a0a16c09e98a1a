/-!
Numbers in base sixteen, with small letters.
-/

namespace AssistedInjection.Text

/-- The digits of a number in base sixteen, without leading zeros. -/
def hex (n : Nat) : String := .ofList (Nat.toDigits 16 n)

/-- The value of one digit, large or small. -/
def hexDigit? (c : Char) : Option Nat :=
  if c.isDigit then some (c.toNat - '0'.toNat)
  else if 'a' ≤ c && c ≤ 'f' then some (c.toNat - 'a'.toNat + 10)
  else if 'A' ≤ c && c ≤ 'F' then some (c.toNat - 'A'.toNat + 10)
  else none

/-- The value of four digits. -/
def hexFour? (a b c d : Char) : Option Nat := do
  let high := (← hexDigit? a) * 16 + (← hexDigit? b)
  return (high * 16 + (← hexDigit? c)) * 16 + (← hexDigit? d)

end AssistedInjection.Text
