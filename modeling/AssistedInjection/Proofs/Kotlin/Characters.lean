import AssistedInjection.Proofs.Kotlin.Lexing

/-!
Tokens and the characters they are written with. A text is its tokens, written out, with layout
around them; so where no identifier is escaped, the tokens written out are the text without its
layout.

    " com. test "    com  .  test    ──▶    "com.test"
-/

namespace AssistedInjection.Kotlin

namespace Token

/-- The characters of a token. -/
def characters : Token → List Char
  | word s => s.toList
  | quoted s => '`' :: (s.toList ++ ['`'])
  | dot => ['.']
  | comma => [',']
  | colon => [':']
  | question => ['?']
  | star => ['*']
  | opening => ['(']
  | closing => [')']
  | less => ['<']
  | greater => ['>']
  | arrow => ['-', '>']
  | stray c => [c]

theorem characters_ofChar (c : Char) : (ofChar c).characters = [c] := by
  unfold ofChar
  split <;> rfl

/-- The token at the front and what follows it are the text. -/
theorem characters_next (c : Char) (rest : List Char) :
    (next c rest).1.characters ++ (next c rest).2 = c :: rest := by
  unfold next
  split
  · simp [characters]
  · split
    · rename_i quote
      split
      · rename_i taken left
        have stop := List.head?_dropWhile_not (· != '`') rest
        rw [left] at stop
        obtain rfl : _ = '`' := by simpa using stop
        have whole := List.takeWhile_append_dropWhile (p := (· != '`')) (l := rest)
        rw [taken, left] at whole
        simp [characters, quote, ← whole]
      · rfl
    · split
      · rfl
      · simp [characters_ofChar]

/-- A token that starts with neither layout nor a backtick has no layout in it. -/
theorem not_isLayout_of_mem_next {c : Char} {rest : List Char} (dense : ¬ isLayout c)
    (plain : c ≠ '`') : ∀ x ∈ (next c rest).1.characters, ¬ isLayout x := by
  unfold next
  rw [if_neg plain]
  split
  · rename_i starts
    have tail : ∀ x ∈ rest.takeWhile continuesWord, ¬ isLayout x := fun x mem =>
      not_isLayout_of_continuesWord (List.mem_takeWhile_imp mem)
    simpa [characters, dense] using tail
  · split
    · simp [characters, isLayout]
    · simpa [characters_ofChar] using dense

/-- A token that does not start with a backtick has none in it. -/
theorem backtick_not_mem_next {c : Char} {rest : List Char} (plain : c ≠ '`') :
    '`' ∉ (next c rest).1.characters := by
  unfold next
  rw [if_neg plain]
  split
  · have tail : '`' ∉ rest.takeWhile continuesWord := fun mem =>
      absurd (List.mem_takeWhile_imp mem) (by decide)
    simpa [characters, tail] using Ne.symm plain
  · split
    · simp [characters]
    · simpa [characters_ofChar] using Ne.symm plain

/-- An escaped identifier ends at the next backtick. -/
theorem next_quoted {s : String} (some : s ≠ "") (plain : '`' ∉ s.toList) (cs : List Char) :
    next '`' (s.toList ++ '`' :: cs) = (quoted s, cs) := by
  have all : ∀ x ∈ s.toList, (x != '`') = true := fun x mem => by
    simpa using fun same : x = '`' => plain (same ▸ mem)
  have stop : ∀ y ∈ ('`' :: cs).head?, ¬ (y != '`') = true := by simp
  obtain ⟨take, drop⟩ := span_stops all stop
  obtain ⟨c, more, text⟩ := List.exists_cons_of_ne_nil (mt String.toList_eq_nil_iff.1 some)
  unfold next
  rw [if_neg (by decide), if_pos rfl, take, drop, text]
  simp only [← text, String.ofList_toList]

end Token

/-- Without backticks, the tokens written out are the text without its layout. -/
theorem flatMap_characters_cut {cs : List Char} (absent : '`' ∉ cs) :
    (cut cs).flatMap Token.characters = cs.filter (!isLayout ·) := by
  suffices ∀ start : Nat, (cut cs).flatMap Token.characters = cs.filter (!isLayout ·) from this 0
  intro start
  induction start, cs using lexemes.induct with
  | case1 start => simp
  | case2 start c rest layout ih =>
    rw [cut_layout layout, ih fun mem => absent (List.mem_cons_of_mem _ mem)]
    simp [layout]
  | case3 start c rest dense ih =>
    have plain : c ≠ '`' := fun same => absent (same ▸ List.mem_cons_self ..)
    have later : '`' ∉ (Token.next c rest).2 := fun mem =>
      absent (List.mem_cons_of_mem _ ((Token.next_suffix ..).subset mem))
    have first : (Token.next c rest).1.characters.filter (!isLayout ·)
        = (Token.next c rest).1.characters :=
      List.filter_eq_self.2 fun x mem => by
        simpa using Token.not_isLayout_of_mem_next dense plain x mem
    rw [cut_token dense, List.flatMap_cons, ih later, ← Token.characters_next c rest,
      List.filter_append, first]

/-- Two texts with the same tokens, neither of them with backticks, differ in their layout alone. -/
theorem filter_eq_of_cut_eq {a b : List Char} (same : cut a = cut b) (absent : '`' ∉ a)
    (absent' : '`' ∉ b) : a.filter (!isLayout ·) = b.filter (!isLayout ·) := by
  rw [← flatMap_characters_cut absent, same, flatMap_characters_cut absent']

/-- A text without layout is not changed by leaving out layout. -/
theorem filter_eq_self_of_plain {cs : List Char} (plain : ∀ ch ∈ cs, ch ≠ '`' ∧ ¬ isLayout ch) :
    cs.filter (!isLayout ·) = cs :=
  List.filter_eq_self.2 fun ch mem => by simpa using (plain ch mem).2

/-- Two texts with the same tokens, neither of them with backticks or layout, are equal. -/
theorem eq_of_cut_eq {a b : List Char} (same : cut a = cut b)
    (plain : ∀ ch ∈ a, ch ≠ '`' ∧ ¬ isLayout ch) (plain' : ∀ ch ∈ b, ch ≠ '`' ∧ ¬ isLayout ch) :
    a = b := by
  have dense := filter_eq_of_cut_eq same (fun mem => (plain _ mem).1 rfl) fun mem =>
    (plain' _ mem).1 rfl
  rwa [filter_eq_self_of_plain plain, filter_eq_self_of_plain plain'] at dense

end AssistedInjection.Kotlin
