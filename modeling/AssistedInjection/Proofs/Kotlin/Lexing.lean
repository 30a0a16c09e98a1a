import AssistedInjection.Kotlin.Token
import Mathlib.Data.List.TakeWhile

/-!
Cutting a text in two. The tokens of a text are those of its front, then those of the rest, unless
the cut goes through a token. It does not where the front has no stray character and no word goes on
across the place:

    com.test.Api  |  <Int>          in  |  ternal
    w . w  . w    |  < w >          one word, but two in two texts

What a token is made of tells which characters the text has: one with backticks only if some are
there.
-/

namespace AssistedInjection.Kotlin

/-- The tokens of some characters. -/
def cut (cs : List Char) : List Token := (lexemes 0 cs).map (·.token)

/-- The characters of a plain identifier. -/
def IsWord (s : String) : Prop :=
  ∃ c cs, s.toList = c :: cs ∧ startsWord c ∧ ∀ x ∈ cs, continuesWord x

/-- No word goes on from one text into the other. -/
def Apart (a b : List Char) : Prop :=
  ∀ x ∈ a.getLast?, ∀ y ∈ b.head?, continuesWord x → ¬ continuesWord y

theorem continuesWord_of_startsWord {c : Char} (h : startsWord c) : continuesWord c := by
  simp only [startsWord, continuesWord, Bool.or_eq_true] at h ⊢
  exact h.imp_left .inl

theorem not_isLayout_of_continuesWord {c : Char} (h : continuesWord c) : ¬ isLayout c := by
  intro layout
  simp only [isLayout, Bool.or_eq_true, beq_iff_eq] at layout
  rcases layout with ((rfl | rfl) | rfl) | rfl <;> exact absurd h (by decide)

theorem IsWord.ne_empty {s : String} (h : IsWord s) : s ≠ "" := by
  rintro rfl
  obtain ⟨c, cs, characters, -⟩ := h
  cases characters

/-- All characters of a word are such that a word goes on with them. -/
theorem IsWord.continues {s : String} (h : IsWord s) : ∀ x ∈ s.toList, continuesWord x := by
  obtain ⟨c, cs, characters, starts, continues⟩ := h
  rw [characters]
  exact List.forall_mem_cons.2 ⟨continuesWord_of_startsWord starts, continues⟩

theorem IsWord.not_mem {s : String} (h : IsWord s) {c : Char} (other : ¬ continuesWord c) :
    c ∉ s.toList :=
  fun mem => other (h.continues c mem)

/-! ### One token -/

/-- A span stays as it is when the list goes on, unless it reaches the end and goes on, too. -/
theorem span_append {α : Type} (p : α → Bool) {b : List α} (xs : List α)
    (stops : (∀ x ∈ xs, p x) → ∀ y ∈ b.head?, ¬ p y) :
    (xs ++ b).takeWhile p = xs.takeWhile p ∧ (xs ++ b).dropWhile p = xs.dropWhile p ++ b := by
  induction xs with
  | nil =>
    cases b with
    | nil => exact ⟨rfl, rfl⟩
    | cons y b =>
      have stop := stops (by simp) y rfl
      simp [stop]
  | cons x xs ih =>
    by_cases more : p x
    · obtain ⟨take, drop⟩ := ih fun all => stops (List.forall_mem_cons.2 ⟨more, all⟩)
      simp [more, take, drop]
    · simp [more]

/-- A span ends where it has to. -/
theorem span_stops {α : Type} {p : α → Bool} {xs ys : List α} (all : ∀ x ∈ xs, p x)
    (stops : ∀ y ∈ ys.head?, ¬ p y) :
    (xs ++ ys).takeWhile p = xs ∧ (xs ++ ys).dropWhile p = ys := by
  obtain ⟨take, drop⟩ := span_append p xs fun _ => stops
  rw [take, drop, List.takeWhile_eq_self_iff.2 all, List.dropWhile_eq_nil_iff.2 all]
  exact ⟨rfl, rfl⟩

namespace Token

theorem next_suffix (c : Char) (rest : List Char) : (next c rest).2 <:+ rest := by
  unfold next
  split
  · exact List.dropWhile_suffix _
  · split
    · split
      next ending => exact (List.suffix_cons ..).trans (ending ▸ List.dropWhile_suffix (· != '`'))
      next => exact List.suffix_rfl
    · split
      · exact List.suffix_cons ..
      · exact List.suffix_rfl

/-- The token at the front stays as it is when the text goes on, unless it is a stray character or a
word that reaches the end and goes on, too. -/
theorem next_append {c : Char} {rest b : List Char} (whole : ∀ x, (next c rest).1 ≠ .stray x)
    (apart : Apart (c :: rest) b) :
    next c (rest ++ b) = ((next c rest).1, (next c rest).2 ++ b) := by
  unfold next at whole ⊢
  by_cases starts : startsWord c
  · simp only [if_pos starts]
    obtain ⟨take, drop⟩ := span_append continuesWord (b := b) rest fun all => by
      have each : ∀ x ∈ c :: rest, continuesWord x :=
        List.forall_mem_cons.2 ⟨continuesWord_of_startsWord starts, all⟩
      have last := List.getLast?_eq_some_getLast (List.cons_ne_nil c rest)
      exact fun y hy => apart _ last y hy (each _ (List.getLast_mem _))
    rw [take, drop]
  · simp only [if_neg starts] at whole ⊢
    by_cases quote : c = '`'
    · simp only [if_pos quote] at whole ⊢
      split at whole
      · rename_i text ending
        obtain ⟨take, drop⟩ := span_append (· != '`') (b := b) rest fun all => by
          rw [List.dropWhile_eq_nil_iff.2 all] at ending
          cases ending
        rw [take, drop, text, ending]
        rfl
      · exact absurd rfl (whole c)
    · simp only [if_neg quote] at whole ⊢
      split at whole
      · rfl
      · split
        · exact absurd rfl (whole '-')
        · rfl

end Token

/-! ### All tokens -/

theorem map_token_lexemes (start : Nat) (cs : List Char) :
    (lexemes start cs).map (·.token) = cut cs := by
  suffices ∀ start start', (lexemes start cs).map (·.token) = (lexemes start' cs).map (·.token) from
    this start 0
  intro start
  induction start, cs using lexemes.induct with
  | case1 start => simp [lexemes]
  | case2 start c rest layout ih =>
    intro start'
    rw [lexemes, lexemes, if_pos layout, if_pos layout, ih]
  | case3 start c rest layout ih =>
    intro start'
    rw [lexemes, lexemes, if_neg layout, if_neg layout, List.map_cons, List.map_cons, ih]

@[simp]
theorem cut_nil : cut [] = [] := by simp [cut, lexemes]

theorem cut_layout {c : Char} (layout : isLayout c) (rest : List Char) :
    cut (c :: rest) = cut rest := by
  rw [cut, lexemes, if_pos layout, map_token_lexemes]

theorem cut_token {c : Char} (dense : ¬ isLayout c) (rest : List Char) :
    cut (c :: rest) = (Token.next c rest).1 :: cut (Token.next c rest).2 := by
  rw [cut, lexemes, if_neg dense, List.map_cons, map_token_lexemes]

theorem Apart.of_suffix {a a' b : List Char} (apart : Apart a b) (suffix : a' <:+ a) :
    Apart a' b := by
  obtain ⟨u, rfl⟩ := suffix
  intro x hx
  exact apart x (by simp [List.getLast?_append, Option.mem_def.1 hx])

/-- A text is cut at every place that no token goes across. -/
theorem cut_append {a b : List Char} (whole : ∀ x, .stray x ∉ cut a) (apart : Apart a b) :
    cut (a ++ b) = cut a ++ cut b := by
  -- The induction follows the lexemes: each step takes a blank or a whole token off the front.
  suffices ∀ start : Nat, cut (a ++ b) = cut a ++ cut b from this 0
  intro start
  induction start, a using lexemes.induct with
  | case1 start => simp
  | case2 start c rest layout ih =>
    rw [cut_layout layout] at whole ⊢
    rw [List.cons_append, cut_layout layout]
    exact ih whole (apart.of_suffix (List.suffix_cons ..))
  | case3 start c rest dense ih =>
    rw [cut_token dense] at whole ⊢
    have ⟨first, more⟩ : (∀ x, (Token.next c rest).1 ≠ .stray x) ∧
        ∀ x, .stray x ∉ cut (Token.next c rest).2 := by
      simpa [forall_and, eq_comm] using whole
    rw [List.cons_append, cut_token dense, Token.next_append first apart, List.cons_append,
      ih more (apart.of_suffix ((Token.next_suffix ..).trans (List.suffix_cons ..)))]

/-- Text that ends with a mark or a blank is cut off from whatever follows. -/
theorem cut_fixed {s : String} {ts : List Token} (tokens : cut s.toList = ts)
    (whole : ∀ x, .stray x ∉ ts) (ends : ∀ x ∈ s.toList.getLast?, ¬ continuesWord x)
    (cs : List Char) : cut (s.toList ++ cs) = ts ++ cut cs := by
  rw [← tokens] at whole ⊢
  exact cut_append whole fun x hx _ _ continues => absurd continues (ends x hx)

/-! ### What tokens are made of -/

theorem ofChar_name? (c : Char) : (Token.ofChar c).name? = none := by
  unfold Token.ofChar
  split <;> rfl

/-- What a token at the front is made of, where it is an identifier. -/
theorem isWord_of_next {c : Char} {rest : List Char} {s : String}
    (first : (Token.next c rest).1 = .word s) : IsWord s := by
  unfold Token.next at first
  split at first
  · rename_i starts
    cases first
    exact ⟨c, rest.takeWhile continuesWord, by simp, starts,
      fun x mem => List.mem_takeWhile_imp mem⟩
  · split at first
    · split at first <;> cases first
    · split at first
      · cases first
      · exact absurd (ofChar_name? c) (by simp [show Token.ofChar c = _ from first, Token.name?])

theorem quoted_of_next {c : Char} {rest : List Char} {s : String}
    (first : (Token.next c rest).1 = .quoted s) : c = '`' ∧ '`' ∉ s.toList ∧ s ≠ "" := by
  unfold Token.next at first
  split at first
  · cases first
  · split at first
    · rename_i quote
      split at first
      · rename_i text ending
        cases first
        refine ⟨quote, fun mem => ?_, by simp⟩
        rw [String.toList_ofList, ← text] at mem
        simpa using List.mem_takeWhile_imp mem
      · cases first
    · split at first
      · cases first
      · exact absurd (ofChar_name? c) (by simp [show Token.ofChar c = _ from first, Token.name?])

theorem isWord_of_mem_cut {s : String} {cs : List Char} (mem : .word s ∈ cut cs) : IsWord s := by
  suffices ∀ start : Nat, IsWord s from this 0
  intro start
  induction start, cs using lexemes.induct with
  | case1 start => simp at mem
  | case2 start c rest layout ih => exact ih (cut_layout layout rest ▸ mem)
  | case3 start c rest dense ih =>
    rw [cut_token dense] at mem
    rcases List.mem_cons.1 mem with first | more
    · exact isWord_of_next first.symm
    · exact ih more

theorem quoted_of_mem_cut {s : String} {cs : List Char} (mem : .quoted s ∈ cut cs) :
    '`' ∈ cs ∧ '`' ∉ s.toList ∧ s ≠ "" := by
  suffices ∀ start : Nat, '`' ∈ cs ∧ '`' ∉ s.toList ∧ s ≠ "" from this 0
  intro start
  induction start, cs using lexemes.induct with
  | case1 start => simp at mem
  | case2 start c rest layout ih =>
    obtain ⟨among, plain⟩ := ih (cut_layout layout rest ▸ mem)
    exact ⟨List.mem_cons_of_mem _ among, plain⟩
  | case3 start c rest dense ih =>
    rw [cut_token dense] at mem
    rcases List.mem_cons.1 mem with first | more
    · obtain ⟨rfl, plain⟩ := quoted_of_next first.symm
      exact ⟨List.mem_cons_self .., plain⟩
    · obtain ⟨among, plain⟩ := ih more
      exact ⟨List.mem_cons_of_mem _ ((Token.next_suffix ..).subset among), plain⟩

/-- A plain identifier is one token. -/
theorem IsWord.cut {s : String} (h : IsWord s) : cut s.toList = [.word s] := by
  obtain ⟨c, cs, characters, starts, continues⟩ := h
  have take : cs.takeWhile continuesWord = cs := List.takeWhile_eq_self_iff.2 continues
  have drop : cs.dropWhile continuesWord = [] := List.dropWhile_eq_nil_iff.2 continues
  have front : Token.next c cs = (.word s, []) := by
    unfold Token.next
    rw [if_pos starts, take, drop, ← characters, String.ofList_toList]
  have visible : ¬ isLayout c := not_isLayout_of_continuesWord (continuesWord_of_startsWord starts)
  rw [characters, cut_token visible, front, cut_nil]

end AssistedInjection.Kotlin
