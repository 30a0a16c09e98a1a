import AssistedInjection.Kotlin.Parser
import Mathlib.Data.List.Forall2

/-!
What parsers read, combinator by combinator: as equations, which run a parser on tokens that are
known, and as laws for `Consumes`, which relate what any parser yields to the tokens it took.

    ts = used ++ rest,   p reads a and leaves rest   ──▶   R used a
-/

namespace AssistedInjection.Kotlin.Parser

variable {α β : Type}

/-! ### Equations -/

@[simp]
theorem read_pure (a : α) (ts : List Token) : (pure a : Parser α).read ts = some (a, ts) := rfl

theorem read_bind (p : Parser α) (f : α → Parser β) (ts : List Token) :
    (p >>= f).read ts = (p.read ts).bind fun x => (f x.1).read x.2 := by
  change (andThen p f).read ts = _
  unfold andThen
  cases h : p.read ts <;> simp [h]

theorem read_bind_of_read {p : Parser α} {f : α → Parser β} {ts rest : List Token} {a : α}
    (h : p.read ts = some (a, rest)) : (p >>= f).read ts = (f a).read rest := by
  rw [read_bind, h, Option.bind_some]

theorem read_bind_of_none {p : Parser α} {f : α → Parser β} {ts : List Token}
    (h : p.read ts = none) : (p >>= f).read ts = none := by
  rw [read_bind, h, Option.bind_none]

theorem read_orElse (p q : Parser α) (ts : List Token) :
    (orElse p q).read ts = (p.read ts).or (q.read ts) := by
  unfold orElse
  cases h : p.read ts <;> simp [h]

theorem read_orElse_of_read {p : Parser α} (q : Parser α) {ts rest : List Token} {a : α}
    (h : p.read ts = some (a, rest)) : (orElse p q).read ts = some (a, rest) := by
  rw [read_orElse, h, Option.some_or]

theorem read_orElse_of_none {p : Parser α} (q : Parser α) {ts : List Token} (h : p.read ts = none) :
    (orElse p q).read ts = q.read ts := by
  rw [read_orElse, h, Option.none_or]

theorem read_optional (p : Parser α) (ts : List Token) :
    (optional p).read ts
      = some ((p.read ts).elim (none, ts) fun x => (some x.1, x.2)) := by
  unfold optional
  rw [read_orElse]
  change ((p >>= fun a => pure (some a)).read ts).or _ = _
  rw [read_bind]
  cases p.read ts <;> rfl

theorem read_optional_of_read {p : Parser α} {ts rest : List Token} {a : α}
    (h : p.read ts = some (a, rest)) : (optional p).read ts = some (some a, rest) := by
  rw [read_optional, h, Option.elim_some]

theorem read_optional_of_none {p : Parser α} {ts : List Token} (h : p.read ts = none) :
    (optional p).read ts = some (none, ts) := by
  rw [read_optional, h, Option.elim_none]

@[simp]
theorem read_named (construct : Construct) (p : Parser α) (ts : List Token) :
    (named construct p).read ts = p.read ts := rfl

@[simp]
theorem read_token_cons (accept : Token → Option α) (t : Token) (ts : List Token) :
    (token accept).read (t :: ts) = (accept t).map (·, ts) := rfl

theorem read_mark (t : Token) (ts : List Token) :
    (mark t).read ts = if ts.head? = some t then some ((), ts.tail) else none := by
  cases ts with
  | nil => rfl
  | cons t' ts =>
    by_cases same : t' = t <;> simp [mark, same]

@[simp]
theorem read_mark_cons (t : Token) (ts : List Token) : (mark t).read (t :: ts) = some ((), ts) := by
  rw [read_mark, List.head?_cons, if_pos rfl, List.tail_cons]

theorem read_mark_of_ne {t : Token} {ts : List Token} (h : ts.head? ≠ some t) :
    (mark t).read ts = none := by
  rw [read_mark, if_neg h]

theorem read_ahead (t : Token) (ts : List Token) :
    (ahead t).read ts = if ts.head? = some t then some ((), ts) else none := rfl

theorem read_finished (ts : List Token) :
    finished.read ts = if ts.isEmpty then some ((), ts) else none := rfl

/-- The reads of a parser one after the other. -/
inductive Repeats (p : Parser α) : List Token → List α → List Token → Prop
  | nil (ts : List Token) : Repeats p ts [] ts
  | cons {ts mid rest : List Token} {a : α} {as : List α} (first : p.read ts = some (a, mid))
    (more : Repeats p mid as rest) : Repeats p ts (a :: as) rest

theorem read_upTo {p : Parser α} {ts rest : List Token} {as : List α} (reads : Repeats p ts as rest)
    (ends : p.read rest = none) {n : Nat} (enough : as.length ≤ n) :
    (upTo p n).read ts = some (as, rest) := by
  induction reads generalizing n with
  | nil ts =>
    cases n with
    | zero => rfl
    | succ n =>
      rw [upTo, read_orElse]
      change ((p >>= _).read ts).or _ = _
      rw [read_bind, ends]
      rfl
  | @cons ts mid rest a as first more ih =>
    cases n with
    | zero => cases enough
    | succ n =>
      have others := ih ends (Nat.le_of_succ_le_succ enough)
      rw [upTo, read_orElse]
      change ((p >>= fun a => upTo p n >>= fun as => pure (a :: as)).read ts).or _ = _
      rw [read_bind, first, Option.bind_some, read_bind, others]
      rfl

/-- A repetition goes on for as long as its parser reads. -/
theorem read_many {p : Parser α} {ts rest : List Token} {as : List α} (reads : Repeats p ts as rest)
    (ends : p.read rest = none) (short : as.length ≤ ts.length) :
    (many p).read ts = some (as, rest) :=
  read_upTo reads ends (Nat.le_succ_of_le short)

/-! ### What was taken -/

/-- Whatever a parser yields is related to the tokens it took. -/
def Consumes (p : Parser α) (R : List Token → α → Prop) : Prop :=
  ∀ ts a rest, p.read ts = some (a, rest) → ∃ used, ts = used ++ rest ∧ R used a

section

variable {p q : Parser α} {f : α → Parser β} {R : List Token → α → Prop}
  {S : List Token → β → Prop}

theorem Consumes.mono {R' : List Token → α → Prop} (h : p.Consumes R)
    (weaker : ∀ used a, R used a → R' used a) : p.Consumes R' := by
  intro ts a rest read
  obtain ⟨used, split, related⟩ := h ts a rest read
  exact ⟨used, split, weaker used a related⟩

theorem consumes_pure {a : α} (h : R [] a) : (pure a : Parser α).Consumes R := by
  intro ts a' rest read
  cases read
  exact ⟨[], rfl, h⟩

theorem Consumes.bind (h : p.Consumes R)
    (next : ∀ used a, R used a → (f a).Consumes fun more b => S (used ++ more) b) :
    (Bind.bind p f).Consumes S := by
  intro ts b rest read
  rw [read_bind] at read
  obtain ⟨⟨a, mid⟩, first, second⟩ := Option.bind_eq_some_iff.1 read
  obtain ⟨used, rfl, related⟩ := h ts a mid first
  obtain ⟨more, rfl, whole⟩ := next used a related mid b rest second
  exact ⟨used ++ more, (List.append_assoc ..).symm, whole⟩

theorem Consumes.orElse (h : p.Consumes R) (h' : q.Consumes R) : (orElse p q).Consumes R := by
  intro ts a rest read
  rw [read_orElse] at read
  rcases Option.or_eq_some_iff.1 read with read | ⟨-, read⟩
  · exact h ts a rest read
  · exact h' ts a rest read

theorem Consumes.optional (h : p.Consumes R) :
    (optional p).Consumes fun used o => o.elim (used = []) (R used) := by
  intro ts o rest read
  rw [read_optional] at read
  cases first : p.read ts with
  | none =>
    rw [first] at read
    cases read
    exact ⟨[], rfl, rfl⟩
  | some x =>
    rw [first] at read
    cases read
    exact h ts x.1 x.2 first

theorem Consumes.named (h : p.Consumes R) (construct : Construct) :
    (named construct p).Consumes R := h

theorem consumes_token (accept : Token → Option α) :
    (token accept).Consumes fun used a => ∃ t, used = [t] ∧ accept t = some a := by
  intro ts a rest read
  cases ts with
  | nil => cases read
  | cons t ts =>
    rw [read_token_cons] at read
    obtain ⟨a, accepted, same⟩ := Option.map_eq_some_iff.1 read
    cases same
    exact ⟨[t], rfl, t, rfl, accepted⟩

theorem consumes_mark (t : Token) : (mark t).Consumes fun used _ => used = [t] := by
  refine (consumes_token _).mono fun used a => ?_
  rintro ⟨t', rfl, accepted⟩
  split at accepted
  · rename_i same
    rw [same]
  · cases accepted

theorem consumes_ahead (t : Token) : (ahead t).Consumes fun used _ => used = [] := by
  intro ts a rest read
  rw [read_ahead] at read
  split at read <;> cases read
  exact ⟨[], rfl, rfl⟩

theorem Consumes.upTo (h : p.Consumes R) (n : Nat) :
    (upTo p n).Consumes fun used as => ∃ parts, used = parts.flatten ∧ List.Forall₂ R parts as := by
  induction n with
  | zero => exact consumes_pure ⟨[], rfl, .nil⟩
  | succ n ih =>
    refine Consumes.orElse (h.bind fun used a related => ih.bind fun more as => ?_)
      (consumes_pure ⟨[], rfl, .nil⟩)
    rintro ⟨parts, rfl, all⟩
    exact consumes_pure ⟨used :: parts, by simp, .cons related all⟩

/-- A repetition takes what its reads take, one after the other. -/
theorem Consumes.many (h : p.Consumes R) :
    (many p).Consumes fun used as => ∃ parts, used = parts.flatten ∧ List.Forall₂ R parts as :=
  fun ts as rest read => h.upTo (ts.length + 1) ts as rest read

end

end AssistedInjection.Kotlin.Parser
