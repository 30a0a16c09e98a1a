import AssistedInjection.Unicode.Ranges

/-!
White space: the property White_Space of Unicode 15.0.
-/

namespace AssistedInjection.Unicode

/-- The white space from 128 on. -/
def blankRanges : Ranges := [
  (0x85, 0x85), (0xA0, 0xA0), (0x1680, 0x1680), (0x2000, 0x200A), (0x2028, 0x2029),
  (0x202F, 0x202F), (0x205F, 0x205F), (0x3000, 0x3000)]

/-- A character with the property White_Space. -/
def isBlank : Char → Bool :=
  classed (fun c => c == ' ' || (9 ≤ c.toNat && c.toNat ≤ 13)) blankRanges

end AssistedInjection.Unicode
