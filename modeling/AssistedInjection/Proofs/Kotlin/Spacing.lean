import AssistedInjection.Proofs.Kotlin.Characters
import AssistedInjection.Proofs.Kotlin.Composition

/-!
Types and the layout of their texts. Layout between two tokens is no token and ends none that did
not end there, and what a text is read as hangs on its tokens alone; so layout can be put anywhere
but into a token, and the type stays what it is.

    (`a b`)->in.C              (  `a b` ) ->  in . C
    ( qtd  )a w .w             (  qtd   ) a   w  . w
-/

namespace AssistedInjection.Kotlin

namespace Token

/-- A token of the grammar, no stray character, with a name that an identifier of its kind can
have. -/
def IsWritable : Token → Prop
  | word s => IsWord s
  | quoted s => s ≠ "" ∧ '`' ∉ s.toList
  | stray _ => False
  | _ => True

/-- What can follow a token: after a plain identifier, nothing that would belong to it. -/
def EndsAt (t : Token) (cs : List Char) : Prop := ∀ s, t = word s → Stops cs

theorem EndsAt.of_ne {t : Token} (other : ∀ s, t ≠ word s) (cs : List Char) : t.EndsAt cs :=
  fun s same => absurd same (other s)

theorem characters_ne_nil {t : Token} (h : t.IsWritable) : t.characters ≠ [] := by
  cases t with
  | word s =>
    obtain ⟨c, cs, text, -⟩ := h
    simp [characters, text]
  | _ => simp [characters]

/-- A token is cut from its characters again. -/
theorem cut_characters {t : Token} (h : t.IsWritable) : cut t.characters = [t] := by
  cases t with
  | word s => exact IsWord.cut h
  | quoted s =>
    rw [characters, cut_token (by decide), next_quoted h.1 h.2, cut_nil]
  | stray c => exact h.elim
  | _ => decide +kernel

/-- Only a plain identifier can go on with what follows it. -/
theorem apart_characters {t : Token} (h : t.IsWritable) {cs : List Char} (ends : t.EndsAt cs) :
    Apart t.characters cs := by
  cases t with
  | word s => exact fun _ _ y first _ => ends s rfl y first
  | quoted s =>
    intro x last _ _ continues
    rw [characters, ← List.cons_append, List.getLast?_concat] at last
    cases last
    exact absurd continues (by decide)
  | stray c => exact h.elim
  | _ =>
    rintro x last _ _ continues
    cases last
    exact absurd continues (by decide)

/-- A token in front of a text is its first token. -/
theorem cut_characters_append {t : Token} (h : t.IsWritable) {cs : List Char}
    (ends : t.EndsAt cs) : cut (t.characters ++ cs) = t :: cut cs := by
  have whole : Whole (cut t.characters) := by
    rw [cut_characters h]
    intro x mem
    rw [← List.mem_singleton.1 mem] at h
    exact h
  rw [cut_append whole (apart_characters h ends), cut_characters h, List.singleton_append]

/-- The token at the front is one of the grammar, unless it is a stray character. -/
theorem isWritable_next {c : Char} {rest : List Char} (whole : ∀ x, (next c rest).1 ≠ .stray x) :
    (next c rest).1.IsWritable := by
  cases first : (next c rest).1 with
  | word s => exact isWord_of_next first
  | quoted s => exact (quoted_of_next first).2.symm
  | stray x => exact whole x first
  | _ => trivial

/-- A plain identifier at the front is as long as it can be. -/
theorem endsAt_next (c : Char) (rest : List Char) : (next c rest).1.EndsAt (next c rest).2 := by
  intro s first
  unfold next at first ⊢
  split at first
  · rename_i starts
    rw [if_pos starts]
    intro y head
    have stop := List.head?_dropWhile_not continuesWord rest
    rw [Option.mem_def.1 head] at stop
    simpa using stop
  · split at first
    · split at first <;> cases first
    · split at first
      · cases first
      · exact absurd (ofChar_name? c) (by simp [show ofChar c = _ from first, name?])

end Token

/-! ### More layout -/

/-- `Spaced a b`: with layout put in front of some tokens of `a`, or behind the last one, it is
`b`. -/
inductive Spaced : List Char → List Char → Prop
  | done : Spaced [] []
  /-- Layout that was there. -/
  | keep {c : Char} {cs cs' : List Char} (layout : isLayout c) (rest : Spaced cs cs') :
    Spaced (c :: cs) (c :: cs')
  /-- Layout that is new. -/
  | insert {c : Char} {cs cs' : List Char} (layout : isLayout c) (rest : Spaced cs cs') :
    Spaced cs (c :: cs')
  | token {t : Token} {cs cs' : List Char} (writable : t.IsWritable) (ends : t.EndsAt cs)
    (rest : Spaced cs cs') : Spaced (t.characters ++ cs) (t.characters ++ cs')

theorem stops_of_isLayout {c : Char} (layout : isLayout c) (cs : List Char) : Stops (c :: cs) := by
  rintro y ⟨⟩ continues
  exact not_isLayout_of_continuesWord continues layout

namespace Spaced

variable {cs cs' : List Char}

/-- Where no word goes on, none goes on after layout is put in. -/
theorem stops (h : Spaced cs cs') (stops : Stops cs) : Stops cs' := by
  cases h with
  | done => exact stops
  | keep layout rest => exact stops_of_isLayout layout _
  | insert layout rest => exact stops_of_isLayout layout _
  | token writable ends rest =>
    have some := Token.characters_ne_nil writable
    rwa [Stops, List.head?_append_of_ne_nil _ some] at stops ⊢

/-- Layout between tokens leaves the tokens as they are. -/
theorem cut_eq (h : Spaced cs cs') : cut cs' = cut cs := by
  induction h with
  | done => rfl
  | keep layout rest ih => rw [cut_layout layout, cut_layout layout, ih]
  | insert layout rest ih => rw [cut_layout layout, ih]
  | token writable ends rest ih =>
    rw [Token.cut_characters_append writable ends,
      Token.cut_characters_append writable fun s word => rest.stops (ends s word), ih]

/-- A text without stray characters is nothing but tokens and layout. -/
theorem refl (whole : Whole (cut cs)) : Spaced cs cs := by
  suffices ∀ start : Nat, Spaced cs cs from this 0
  intro start
  induction start, cs using lexemes.induct with
  | case1 start => exact .done
  | case2 start c rest layout ih =>
    rw [cut_layout layout] at whole
    exact .keep layout (ih whole)
  | case3 start c rest dense ih =>
    rw [cut_token dense, whole_cons] at whole
    rw [← Token.characters_next c rest]
    exact .token (Token.isWritable_next whole.1) (Token.endsAt_next c rest) (ih whole.2)

end Spaced

namespace TypeExpr

/-- What a text is read as does not depend on the layout between its tokens: every text that is read
as a type is made of tokens and layout, and more layout, put anywhere but into a token, neither
changes the type nor makes a type of what is none. -/
theorem parse_regardless_of_layout (s : String) (t : TypeExpr) :
    (parse s = .ok t → Spaced s.toList s.toList) ∧
      ∀ s' : String, Spaced s.toList s'.toList → (parse s' = .ok t ↔ parse s = .ok t) := by
  refine ⟨fun read => Spaced.refl (parse_eq_ok_iff.1 read).whole, fun s' spaced => ?_⟩
  have same : tokens s' = tokens s := spaced.cut_eq
  rw [parse_eq_ok_iff, parse_eq_ok_iff, same]

/-- Layout in front of a text, behind it and around an escaped identifier that has a blank in it. -/
theorem parse_regardless_of_layout_escaped :
    let t := arrow [ofClass (.topLevel "" "a b")] (ofClass (.topLevel "" "in"))
    parse "(`a b`)->in" = .ok t ∧ Spaced "(`a b`)->in".toList " ( `a b`\n)-> in\t".toList ∧
      parse " ( `a b`\n)-> in\t" = .ok t := by
  intro t
  have read : parse "(`a b`)->in" = .ok t := by decide +kernel
  have dense : "(`a b`)->in".toList
      = Token.opening.characters ++ ((Token.quoted "a b").characters ++
          (Token.closing.characters ++ (Token.arrow.characters ++
            ((Token.word "in").characters ++ [])))) := by
    decide +kernel
  have spread : " ( `a b`\n)-> in\t".toList
      = ' ' :: (Token.opening.characters ++ ' ' :: ((Token.quoted "a b").characters ++
          '\n' :: (Token.closing.characters ++ (Token.arrow.characters ++
            ' ' :: ((Token.word "in").characters ++ ['\t']))))) := by
    decide +kernel
  have word : IsWord "in" :=
    isWord_of_mem_cut (show .word "in" ∈ cut "in".toList by decide +kernel)
  have last :
      Spaced ((Token.word "in").characters ++ []) ((Token.word "in").characters ++ ['\t']) :=
    .token word (fun _ _ => by simp [Stops]) (.insert rfl .done)
  have spaced : Spaced "(`a b`)->in".toList " ( `a b`\n)-> in\t".toList := by
    rw [dense, spread]
    refine .insert rfl (.token trivial (.of_ne (by simp) _) (.insert rfl ?_))
    refine .token (by simp [Token.IsWritable]) (.of_ne (by simp) _) (.insert rfl ?_)
    exact .token trivial (.of_ne (by simp) _) (.token trivial (.of_ne (by simp) _)
      (.insert rfl last))
  exact ⟨read, spaced, ((parse_regardless_of_layout _ t).2 _ spaced).2 read⟩

end TypeExpr

end AssistedInjection.Kotlin
