import AssistedInjection.Json.Literal
import Mathlib.Tactic.IntervalCases

/-!
Strings are read as they are written, with care or skimmed: every character is written as itself or
as one escape, and the first quote that is not escaped is the closing one.

    "a\u001f\""  ,
     a  ␟   "  │ rest
-/

namespace AssistedInjection.Json

/-- What follows a backslash where a character is escaped. -/
structure Escapes (escape : List Char) (c : Char) : Prop where
  scanned : ∀ rest, scanEscape (escape ++ rest) = .ok (c, rest)
  skimmed : ∀ rest, skimEscape (escape ++ rest) = .ok ((), rest)

/-- What a character is written as that stands for itself. -/
structure IsPlain (c : Char) : Prop where
  quote : c ≠ '"'
  backslash : c ≠ '\\'
  visible : ¬ c.toNat < 32

theorem escapes_control {n : Nat} (control : n < 32) : ∃ escape,
    (if n < 16 then "\\u000" ++ Text.hex n else "\\u00" ++ Text.hex n).toList = '\\' :: escape ∧
      Escapes escape (.ofNat n) := by
  interval_cases n
  all_goals exact ⟨_, rfl, fun _ => rfl, fun _ => rfl⟩

/-- Every character is escaped or stands for itself. -/
theorem escapedChar_cases (c : Char) :
    (∃ escape, (escapedChar c).toList = '\\' :: escape ∧ Escapes escape c) ∨
      (escapedChar c).toList = [c] ∧ IsPlain c := by
  unfold escapedChar
  split
  case h_8 quote backslash _ _ _ _ _ =>
    by_cases control : c.toNat < 32
    · have escaped := escapes_control control
      rw [Char.ofNat_toNat] at escaped
      simpa only [if_pos control] using Or.inl escaped
    · have high : ¬ c.toNat < 16 := by omega
      rw [if_neg high, if_neg control]
      exact .inr ⟨String.toList_singleton c, quote, backslash, control⟩
  all_goals exact .inl ⟨_, rfl, fun _ => rfl, fun _ => rfl⟩

section

variable {α : Type} {escape : List Char → Except Fault (α × List Char)} {plain : Char → α}

/-- A reader of escapes and plain characters that knows what is written for each character. -/
def Knows (escape : List Char → Except Fault (α × List Char)) (plain : Char → α) : Prop :=
  ∀ c e, Escapes e c → ∀ rest, escape (e ++ rest) = .ok (plain c, rest)

/-- What is written for some characters is read up to the closing quote. -/
theorem scanChars_escaped (knows : Knows escape plain) {n : Nat} {cs : List Char}
    (enough : cs.length < n) (rest : List Char) :
    scanChars escape plain n (cs.flatMap (fun c => (escapedChar c).toList) ++ '"' :: rest)
      = .ok (cs.map plain, rest) := by
  induction cs generalizing n with
  | nil =>
    obtain ⟨n, rfl⟩ := Nat.exists_eq_add_one.2 enough
    rfl
  | cons c cs ih =>
    obtain ⟨n, rfl⟩ := Nat.exists_eq_add_one.2 (Nat.zero_lt_of_lt enough)
    have others := ih (Nat.lt_of_succ_lt_succ enough)
    rw [List.flatMap_cons, List.append_assoc]
    rcases escapedChar_cases c with ⟨e, written, escapes⟩ | ⟨written, quote, backslash, visible⟩
    · rw [written, List.cons_append]
      simp [scanChars, knows c e escapes, others, bind, Except.bind, pure, Except.pure]
    · rw [written]
      simp [scanChars, visible, others, bind, Except.bind, pure, Except.pure]

end

theorem toList_stringText (s : String) : (stringText s).toList =
    '"' :: (s.toList.flatMap (fun c => (escapedChar c).toList) ++ ['"']) := by
  simp [stringText, List.flatMap_map]

theorem length_lt_length_escaped (cs rest : List Char) :
    cs.length < (cs.flatMap (fun c => (escapedChar c).toList) ++ '"' :: rest).length := by
  have each : ∀ c, 1 ≤ (escapedChar c).toList.length := by
    intro c
    rcases escapedChar_cases c with ⟨e, written, -⟩ | ⟨written, -⟩ <;> simp [written]
  induction cs with
  | nil => simp
  | cons c cs ih =>
    have := each c
    simp only [List.flatMap_cons, List.length_append, List.length_cons] at ih ⊢
    omega

theorem scanString_escaped (s : String) (rest : List Char) :
    scanString (s.toList.flatMap (fun c => (escapedChar c).toList) ++ '"' :: rest)
      = .ok (s, rest) := by
  have knows : Knows scanEscape id := fun c e escapes => escapes.scanned
  rw [scanString, scanChars_escaped knows (length_lt_length_escaped ..)]
  simp [Except.map]

theorem skimString_escaped (s : String) (rest : List Char) :
    skimString (s.toList.flatMap (fun c => (escapedChar c).toList) ++ '"' :: rest)
      = .ok ((), rest) := by
  have knows : Knows skimEscape (fun _ => ()) := fun c e escapes => escapes.skimmed
  rw [skimString, scanChars_escaped knows (length_lt_length_escaped ..)]
  rfl

end AssistedInjection.Json
