import Mathlib.Data.List.Forall2

/-!
Chains of checks that stop at the first failure. A chain succeeds when every check in it does, and
otherwise fails as the first that fails; two chains whose checks end alike one by one end alike as a
whole. Searches in lists that correspond item by item end alike, too.
-/

namespace AssistedInjection.Checks

variable {ε ε' α α' β β' : Type}

/-- Two lists that correspond item by item show the same where corresponding items do. -/
theorem map_eq_map {R : α → α' → Prop} {l : List α} {l' : List α'} {f : α → β} {f' : α' → β}
    (h : List.Forall₂ R l l') (same : ∀ a a', R a a' → f a = f' a') : l.map f = l'.map f' := by
  rw [← List.forall₂_eq_eq_eq, List.forall₂_map_left_iff, List.forall₂_map_right_iff]
  exact h.imp same

/-- Options that correspond are both empty or both full. -/
theorem rel_cases {R : α → α' → Prop} {o : Option α} {o' : Option α'} (h : Option.Rel R o o') :
    (o = none ∧ o' = none) ∨ ∃ a a', o = some a ∧ o' = some a' ∧ R a a' := by
  cases h with
  | none => exact .inl ⟨rfl, rfl⟩
  | some here => exact .inr ⟨_, _, rfl, rfl, here⟩

/-- Searching for corresponding items finds corresponding items. -/
theorem find?_rel {R : α → α' → Prop} {l : List α} {l' : List α'} {p : α → Bool} {p' : α' → Bool}
    (h : List.Forall₂ R l l') (same : ∀ a a', R a a' → p a = p' a') :
    Option.Rel R (l.find? p) (l'.find? p') := by
  induction h with
  | nil => exact .none
  | cons here _ ih =>
    rw [List.find?_cons, List.find?_cons, same _ _ here]
    split
    · exact .some here
    · exact ih

/-- Corresponding places hold corresponding items. -/
theorem getElem?_rel {R : α → α' → Prop} {l : List α} {l' : List α'} (h : List.Forall₂ R l l')
    (i : Nat) : Option.Rel R l[i]? l'[i]? := by
  induction h generalizing i with
  | nil => exact .none
  | cons here _ ih =>
    cases i with
    | zero => exact .some here
    | succ i => exact ih i

/-- A chain succeeds when the first check does and the rest does on its result. -/
theorem bind_eq_ok_iff {x : Except ε α} {f : α → Except ε β} {b : β} :
    (x >>= f) = .ok b ↔ ∃ a, x = .ok a ∧ f a = .ok b := by
  cases x <;> simp [bind, Except.bind]

/-- A chain fails when the first check does, or the rest does on its result. -/
theorem bind_eq_error_iff {x : Except ε α} {f : α → Except ε β} {e : ε} :
    (x >>= f) = .error e ↔ x = .error e ∨ ∃ a, x = .ok a ∧ f a = .error e := by
  cases x <;> simp [bind, Except.bind]

theorem pure_ne_error {a : α} {e : ε} : (pure a : Except ε α) ≠ .error e := by
  simp [pure, Except.pure]

theorem pure_eq_ok_iff {a b : α} : (pure a : Except ε α) = .ok b ↔ a = b := by
  simp [pure, Except.pure]

/-- A check of each item succeeds when it does on every one. -/
theorem mapM_eq_ok_iff {f : α → Except ε β} {as : List α} {bs : List β} :
    as.mapM f = .ok bs ↔ List.Forall₂ (fun a b => f a = .ok b) as bs := by
  induction as generalizing bs with
  | nil => cases bs <;> simp [pure, Except.pure]
  | cons a as ih =>
    simp only [List.mapM_cons, bind_eq_ok_iff, pure_eq_ok_iff, ih, List.forall₂_cons_left_iff]
    exact ⟨fun ⟨b, here, bs', others, same⟩ => ⟨b, bs', here, others, same.symm⟩,
      fun ⟨b, bs', here, others, same⟩ => ⟨b, here, bs', others, same.symm⟩⟩

theorem mapError_eq_ok_iff {f : ε → ε'} {x : Except ε α} {a : α} :
    x.mapError f = .ok a ↔ x = .ok a := by
  cases x <;> simp [Except.mapError]

theorem mapError_eq_error_iff {f : ε → ε'} {x : Except ε α} {e' : ε'} :
    x.mapError f = .error e' ↔ ∃ e, x = .error e ∧ f e = e' := by
  cases x <;> simp [Except.mapError]

/-- Two checks end alike: in results that correspond, or in failures that do. -/
def Alike (E : ε → ε' → Prop) (R : α → α' → Prop) : Except ε α → Except ε' α' → Prop
  | .ok a, .ok a' => R a a'
  | .error e, .error e' => E e e'
  | _, _ => False

section

variable {E : ε → ε' → Prop} {R : α → α' → Prop} {S : β → β' → Prop}
variable {x : Except ε α} {x' : Except ε' α'}

theorem Alike.bind {f : α → Except ε β} {f' : α' → Except ε' β'} (first : Alike E R x x')
    (rest : ∀ a a', R a a' → Alike E S (f a) (f' a')) : Alike E S (x >>= f) (x' >>= f') := by
  cases x <;> cases x'
  · exact first
  · exact first.elim
  · exact first.elim
  · exact rest _ _ first

theorem Alike.ite {p : Prop} [Decidable p] {y : Except ε α} {y' : Except ε' α'}
    (yes : Alike E R x x') (no : Alike E R y y') :
    Alike E R (if p then x else y) (if p then x' else y') := by
  split
  · exact yes
  · exact no

/-- Failures may be put in other words as long as they still correspond. -/
theorem Alike.mapError {δ : Type} {g : ε → δ} {g' : ε' → δ} (h : Alike E R x x')
    (same : ∀ e e', E e e' → g e = g' e') : Alike Eq R (x.mapError g) (x'.mapError g') := by
  cases x <;> cases x'
  · exact same _ _ h
  · exact h.elim
  · exact h.elim
  · exact h

end

theorem Alike.eq {x x' : Except ε α} (h : Alike Eq Eq x x') : x = x' := by
  cases x <;> cases x'
  · exact congrArg _ h
  · exact h.elim
  · exact h.elim
  · exact congrArg _ h

theorem Alike.refl {R : α → α → Prop} (h : ∀ a, R a a) (x : Except ε α) : Alike Eq R x x := by
  cases x
  · exact rfl
  · exact h _

/-! ### The first failure -/

/-- The first item of a list that has a property. -/
def First (p : α → Prop) (l : List α) (a : α) : Prop :=
  p a ∧ ∃ before after, l = before ++ a :: after ∧ ∀ b ∈ before, ¬ p b

section

variable {p q : α → Prop} {l l' : List α} {a b : α}

theorem not_first_nil : ¬ First p [] a := by
  rintro ⟨-, before, after, split, -⟩
  cases before <;> cases split

theorem first_cons : First p (b :: l) a ↔ (p b ∧ a = b) ∨ (¬ p b ∧ First p l a) := by
  constructor
  · rintro ⟨here, before, after, split, earlier⟩
    cases before with
    | nil =>
      obtain ⟨rfl, -⟩ := List.cons.inj split
      exact .inl ⟨here, rfl⟩
    | cons c before =>
      obtain ⟨rfl, rest⟩ := List.cons.inj split
      have tail : ∀ d ∈ before, ¬ p d := fun d mem => earlier d (List.mem_cons_of_mem _ mem)
      exact .inr ⟨earlier b (List.mem_cons_self ..), here, before, after, rest, tail⟩
  · rintro (⟨here, rfl⟩ | ⟨not, here, before, after, rfl, earlier⟩)
    · exact ⟨here, [], l, rfl, by simp⟩
    · refine ⟨here, b :: before, after, rfl, fun d mem => ?_⟩
      rcases List.mem_cons.1 mem with rfl | mem
      · exact not
      · exact earlier d mem

/-- Where an item has a property, a first one has it. -/
theorem exists_first (mem : a ∈ l) (h : p a) : ∃ b, First p l b := by
  induction l with
  | nil => cases mem
  | cons b l ih =>
    by_cases here : p b
    · exact ⟨b, first_cons.2 (.inl ⟨here, rfl⟩)⟩
    · have later : a ∈ l := (List.mem_cons.1 mem).resolve_left fun same => here (same ▸ h)
      obtain ⟨d, hd⟩ := ih later
      exact ⟨d, first_cons.2 (.inr ⟨here, hd⟩)⟩

theorem first_congr (same : ∀ a ∈ l, p a ↔ q a) : First p l a ↔ First q l a := by
  induction l with
  | nil => simp [not_first_nil]
  | cons b l ih =>
    obtain ⟨here, rest⟩ := List.forall_mem_cons.1 same
    rw [first_cons, first_cons, here, ih rest]

theorem first_map {f : α' → α} {l : List α'} :
    First p (l.map f) a ↔ ∃ b, First (fun b => p (f b)) l b ∧ f b = a := by
  induction l with
  | nil => simp [not_first_nil]
  | cons b l ih =>
    simp only [List.map_cons, first_cons, ih]
    constructor
    · rintro (⟨here, rfl⟩ | ⟨not, d, hd, rfl⟩)
      · exact ⟨b, .inl ⟨here, rfl⟩, rfl⟩
      · exact ⟨d, .inr ⟨not, hd⟩, rfl⟩
    · rintro ⟨d, ⟨here, rfl⟩ | ⟨not, hd⟩, rfl⟩
      · exact .inl ⟨here, rfl⟩
      · exact .inr ⟨not, d, hd, rfl⟩

/-- Searching for a property finds the first item that has it. -/
theorem find?_eq_some_iff_first {f : α → Bool} : l.find? f = some a ↔ First (f · = true) l a := by
  rw [List.find?_eq_some_iff_append, First]
  simp

end

section

variable {κ : Type} {fails : κ → ε → Prop} {ks ks' : List κ} {k : κ}

/-- How the first of some checks that fails does so. -/
def FirstFailure (fails : κ → ε → Prop) (ks : List κ) (e : ε) : Prop :=
  ∃ k, First (fun k => ∃ e, fails k e) ks k ∧ fails k e

theorem not_firstFailure_nil {e : ε} : ¬ FirstFailure fails [] e :=
  fun ⟨_, first, _⟩ => not_first_nil first

theorem firstFailure_cons {e : ε} :
    FirstFailure fails (k :: ks) e ↔
      fails k e ∨ (∀ e', ¬ fails k e') ∧ FirstFailure fails ks e := by
  simp only [FirstFailure, first_cons, not_exists]
  constructor
  · rintro ⟨k', ⟨-, rfl⟩ | ⟨passed, first⟩, failed⟩
    · exact .inl failed
    · exact .inr ⟨passed, k', first, failed⟩
  · rintro (failed | ⟨passed, k', first, failed⟩)
    · exact ⟨k, .inl ⟨⟨e, failed⟩, rfl⟩, failed⟩
    · exact ⟨k', .inr ⟨passed, first⟩, failed⟩

theorem firstFailure_append {e : ε} :
    FirstFailure fails (ks ++ ks') e ↔
      FirstFailure fails ks e ∨ (∀ k ∈ ks, ∀ e', ¬ fails k e') ∧ FirstFailure fails ks' e := by
  induction ks with
  | nil => simp [not_firstFailure_nil]
  | cons k ks ih =>
    rw [List.cons_append, firstFailure_cons, firstFailure_cons, ih, List.forall_mem_cons]
    tauto

/-- Where nothing is the first failure, nothing fails. -/
theorem forall_not_firstFailure_iff :
    (∀ e, ¬ FirstFailure fails ks e) ↔ ∀ k ∈ ks, ∀ e, ¬ fails k e := by
  constructor
  · intro none k mem e failed
    obtain ⟨k', first⟩ := exists_first (p := fun k => ∃ e, fails k e) mem ⟨e, failed⟩
    obtain ⟨e', failed'⟩ := first.1
    exact none e' ⟨k', first, failed'⟩
  · rintro passed e ⟨k, ⟨-, before, after, rfl, -⟩, failed⟩
    exact passed k (by simp) e failed

/-- A chain of checks ends in failure as the first of some checks does that fails, and in success
if none of them does. -/
def Decides (fails : κ → ε → Prop) (ks : List κ) (x : Except ε α) : Prop :=
  ∀ e, x = .error e ↔ FirstFailure fails ks e

theorem Decides.exists_ok_iff {x : Except ε α} (h : Decides fails ks x) :
    (∃ a, x = .ok a) ↔ ∀ k ∈ ks, ∀ e, ¬ fails k e := by
  rw [← forall_not_firstFailure_iff]
  cases x with
  | error e => simpa using ⟨e, (h e).1 rfl⟩
  | ok a => simpa using fun e failed => by cases (h e).2 failed

/-- Checks follow one another; the later ones may rely on what the earlier ones found. -/
theorem Decides.bind {x : Except ε α} {f : α → Except ε β} (first : Decides fails ks x)
    (rest : ∀ a, x = .ok a → Decides fails ks' (f a)) : Decides fails (ks ++ ks') (x >>= f) := by
  intro e
  rw [firstFailure_append]
  cases came : x with
  | error e' =>
    have failed := (first e').1 came
    have some : ¬ ∀ k ∈ ks, ∀ e, ¬ fails k e :=
      fun none => forall_not_firstFailure_iff.2 none e' failed
    rw [← first e, came]
    simp [Bind.bind, Except.bind, some]
  | ok a =>
    have passed := first.exists_ok_iff.1 ⟨a, came⟩
    rw [← rest a came e, ← first e, came]
    simp only [Bind.bind, Except.bind, reduceCtorEq, false_or, iff_and_self]
    exact fun _ => passed

/-- The last step of a chain checks nothing. -/
theorem Decides.pure (a : α) : Decides fails [] (pure a : Except ε α) := by
  intro e
  simp [not_firstFailure_nil, Pure.pure, Except.pure]

theorem Decides.single {x : Except ε α} (h : ∀ e, x = .error e ↔ fails k e) :
    Decides fails [k] x := by
  intro e
  rw [firstFailure_cons, h e]
  simp [not_firstFailure_nil]

end

end AssistedInjection.Checks
