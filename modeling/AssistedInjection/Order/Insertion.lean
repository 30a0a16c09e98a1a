/-!
Sorting by insertion. Every element goes before the first one that does not have to come before it,
so elements that may stand either way keep their order.

    insert 2  into  1 3 4     1 | 2 | 3 4
-/

namespace AssistedInjection.Order

variable {α : Type}

/-- Puts an element in front of the first one that it may come before. -/
def insertBy (le : α → α → Bool) (a : α) : List α → List α
  | [] => [a]
  | b :: bs => if le a b then a :: b :: bs else b :: insertBy le a bs

/-- The elements in order. -/
def sortBy (le : α → α → Bool) : List α → List α
  | [] => []
  | a :: as => insertBy le a (sortBy le as)

theorem insertBy_perm (le : α → α → Bool) (a : α) :
    ∀ l : List α, (insertBy le a l).Perm (a :: l)
  | [] => .refl _
  | b :: bs => by
    unfold insertBy
    split
    · exact .refl _
    · exact ((insertBy_perm le a bs).cons b).trans (.swap a b bs)

theorem sortBy_perm (le : α → α → Bool) : ∀ l : List α, (sortBy le l).Perm l
  | [] => .refl _
  | a :: as => (insertBy_perm le a _).trans ((sortBy_perm le as).cons a)

theorem mem_sortBy {le : α → α → Bool} {a : α} {l : List α} : a ∈ sortBy le l ↔ a ∈ l :=
  (sortBy_perm le l).mem_iff

theorem pairwise_insertBy {le : α → α → Bool} (total : ∀ a b, le a b || le b a)
    (trans : ∀ a b c, le a b → le b c → le a c) (a : α) :
    ∀ {l : List α}, l.Pairwise (le · ·) → (insertBy le a l).Pairwise (le · ·)
  | [], _ => by simp [insertBy]
  | b :: bs, h => by
    obtain ⟨hb, hbs⟩ := List.pairwise_cons.1 h
    unfold insertBy
    split
    next hab =>
      refine List.pairwise_cons.2 ⟨fun c hc => ?_, h⟩
      rcases List.mem_cons.1 hc with rfl | hc
      · exact hab
      · exact trans a b c hab (hb c hc)
    next hab =>
      refine List.pairwise_cons.2 ⟨fun c hc => ?_, pairwise_insertBy total trans a hbs⟩
      rcases List.mem_cons.1 ((insertBy_perm le a bs).mem_iff.1 hc) with rfl | hc
      · exact (Bool.or_eq_true _ _ ▸ total c b).resolve_left hab
      · exact hb c hc

theorem pairwise_sortBy {le : α → α → Bool} (total : ∀ a b, le a b || le b a)
    (trans : ∀ a b c, le a b → le b c → le a c) : ∀ l : List α, (sortBy le l).Pairwise (le · ·)
  | [] => .nil
  | a :: as => pairwise_insertBy total trans a (pairwise_sortBy total trans as)

end AssistedInjection.Order
