import AssistedInjection.Json.Numeral
import AssistedInjection.Proofs.Kotlin.Lexing
import Mathlib.Tactic.IntervalCases

/-!
Whole numbers of 64 bits are read as they are written: their digits are cut off where the number
ends, and none of them is lost.

    -170,      sign  1 7 0  │  ,
-/

namespace AssistedInjection.Json

/-- What does not go on with a number. -/
def EndsNumber (text : List Char) : Prop :=
  ∀ c ∈ text.head?, ¬ c.isDigit ∧ c ≠ '.' ∧ c ≠ 'e' ∧ c ≠ 'E'

/-- The whole numbers that fit into 64 bits, with or without a sign. -/
def IsWord64 (n : Int) : Prop := -2 ^ 63 ≤ n ∧ n < 2 ^ 64

/-! ### Digits -/

theorem isDigit_of_mem {n : Nat} {c : Char} (mem : c ∈ Nat.toDigits 10 n) : c.isDigit :=
  Nat.isDigit_of_mem_toDigits (by decide) (by decide) mem

/-- Zero is the only number that is written with a zero in front. -/
theorem eq_zero_of_toDigits {n : Nat} {ds : List Char} (zero : Nat.toDigits 10 n = '0' :: ds) :
    n = 0 := by
  induction n using Nat.strongRecOn generalizing ds with
  | _ n ih =>
    rw [Nat.toDigits_eq_if (by decide)] at zero
    split at zero
    · have single : n.digitChar = '0' := (List.cons.inj zero).1
      interval_cases n
      · rfl
      all_goals exact absurd single (by decide)
    · rename_i large
      obtain ⟨d, ds', front⟩ := List.exists_cons_of_ne_nil (@Nat.toDigits_ne_nil (n / 10) 10)
      rw [front, List.cons_append] at zero
      rw [(List.cons.inj zero).1] at front
      have small := ih (n / 10) (by omega) front
      omega

namespace Numeral

theorem digits_append {ds rest : List Char} (some : ds ≠ []) (all : ∀ d ∈ ds, d.isDigit)
    (ends : EndsNumber rest) : digits (ds ++ rest) = .ok (ds, rest) := by
  obtain ⟨take, drop⟩ := Kotlin.span_stops all fun c front => (ends c front).1
  unfold digits
  rw [take, drop]
  split
  · contradiction
  · rfl

theorem cutWhole_toDigits (n : Nat) {rest : List Char} (ends : EndsNumber rest) :
    cutWhole (Nat.toDigits 10 n ++ rest) = .ok (Nat.toDigits 10 n, rest) := by
  have front : digits (Nat.toDigits 10 n ++ rest) = .ok (Nat.toDigits 10 n, rest) :=
    digits_append Nat.toDigits_ne_nil (fun _ => isDigit_of_mem) ends
  rw [cutWhole, front]
  simp only [bind, Except.bind]
  split
  · rename_i zero
    obtain rfl := eq_zero_of_toDigits (congrArg Prod.fst zero)
    cases congrArg Prod.fst zero
  · rfl

/-- The parts of the text of a whole number. -/
def ofInt (n : Int) : Numeral := ⟨n < 0, Nat.toDigits 10 n.natAbs, [], none⟩

theorem toList_toString (n : Int) :
    (toString n).toList = (if n < 0 then ['-'] else []) ++ Nat.toDigits 10 n.natAbs := by
  cases n with
  | ofNat m => simp [toString, Int.repr, Nat.repr]
  | negSucc m => simp [toString, Int.repr, Nat.repr, Int.negSucc_lt_zero]

theorem cut_toString (n : Int) {rest : List Char} (ends : EndsNumber rest) :
    cut ((toString n).toList ++ rest) = .ok (ofInt n, rest) := by
  have fraction : cutFraction rest = .ok ([], rest) := by
    unfold cutFraction
    split
    · exact absurd rfl (ends _ rfl).2.1
    · rfl
  have exponent : cutExponent rest = .ok (none, rest) := by
    unfold cutExponent
    split
    · exact absurd rfl (ends _ rfl).2.2.1
    · exact absurd rfl (ends _ rfl).2.2.2
    · rfl
  have whole := cutWhole_toDigits n.natAbs ends
  rw [toList_toString]
  by_cases negative : n < 0
  · simp [cut, negative, whole, fraction, exponent, ofInt, bind, Except.bind, pure, Except.pure]
  · have unsigned : ∀ cs, Nat.toDigits 10 n.natAbs ++ rest ≠ '-' :: cs := by
      intro cs front
      obtain ⟨d, ds, digits⟩ := List.exists_cons_of_ne_nil (@Nat.toDigits_ne_nil n.natAbs 10)
      have isDigit : d.isDigit := isDigit_of_mem (digits ▸ List.mem_cons_self)
      rw [digits] at front
      obtain rfl := (List.cons.inj front).1
      exact absurd isDigit (by decide)
    unfold cut
    simp [negative, whole, fraction, exponent, ofInt, bind, Except.bind, pure, Except.pure]

/-! ### The value -/

theorem le_ofDigitChars (ds : List Char) (n : Nat) : n ≤ Nat.ofDigitChars 10 ds n := by
  induction ds generalizing n with
  | nil => exact Nat.le_refl n
  | cons d ds ih =>
    rw [Nat.ofDigitChars_cons]
    exact Nat.le_trans (by omega) (ih _)

/-- As long as the digits fit into 64 bits, none is lost. -/
theorem foldl_takeWhole {ds : List Char} {n : Nat} (fits : Nat.ofDigitChars 10 ds n ≤ wordLimit) :
    ds.foldl Leading.takeWhole ⟨n, 0, false⟩ = ⟨Nat.ofDigitChars 10 ds n, 0, false⟩ := by
  induction ds generalizing n with
  | nil => rfl
  | cons d ds ih =>
    rw [Nat.ofDigitChars_cons] at fits ⊢
    have room : ¬ wordLimit < n * 10 + digitValue d := by
      have grows := le_ofDigitChars ds (10 * n + (d.toNat - '0'.toNat))
      unfold digitValue
      omega
    have step : Leading.takeWhole ⟨n, 0, false⟩ d
        = ⟨10 * n + (d.toNat - '0'.toNat), 0, false⟩ := by
      rw [Leading.takeWhole, if_neg (by simpa using room), digitValue, Nat.mul_comm]
    rw [List.foldl_cons, step, ih fits]

theorem value_ofInt {n : Int} (fits : IsWord64 n) : (ofInt n).value = .ok (.integer n) := by
  have value : Nat.ofDigitChars 10 (Nat.toDigits 10 n.natAbs) 0 = n.natAbs :=
    Nat.ofDigitChars_toDigits (by decide) (by decide)
  obtain ⟨low, high⟩ := fits
  have whole : (Nat.toDigits 10 n.natAbs).foldl Leading.takeWhole ⟨0, 0, false⟩
      = ⟨n.natAbs, 0, false⟩ := by
    rw [foldl_takeWhole, value]
    rw [value]
    change n.natAbs ≤ 2 ^ 64 - 1
    omega
  have signed : (if n < 0 then -(n.natAbs : Int) else n.natAbs) = n := by split <;> omega
  have least : ¬ n < 0 ∨ 0 < n.natAbs ∧ n.natAbs ≤ Nat.pow 2 63 := by
    by_cases negative : n < 0
    · refine .inr ⟨by omega, ?_⟩
      change n.natAbs ≤ 2 ^ 63
      omega
    · exact .inl negative
  unfold Numeral.value
  simp only [ofInt, whole]
  rw [if_pos (by simpa using least)]
  simp only [decide_eq_true_eq, signed]

end Numeral

end AssistedInjection.Json
