import AssistedInjection.Proofs.Kotlin.Rereading

/-!
What is read is printed within what was read. Reading forgets parentheses, labels and marks that are
not needed, and printing writes none of these; so the tokens of the printed type are found, in their
order, among the tokens it was read from. Where nothing was lost, no keyword was either.

    read     ( ( suspend . A ) . ( x : B , ) -> C ) ? ?
    printed      ( suspend . A   . (     B   ) -> C ) ?
-/

namespace AssistedInjection.Kotlin

/-- Class names in full. -/
abbrev inFull : ClassName → List Token := spelledTokens ClassName.canonical

/-- A function type whose receiver does not begin with the word that is the keyword. -/
def TypeExpr.Clear (t : TypeExpr) : Prop :=
  ∀ c ∈ t.leadingClass?, (inFull c).head? ≠ some (.word "suspend")

/-- Tokens that were read, and those that are printed instead: the classes come from the former, the
latter are found among the former, and where these are the same, `P` holds. -/
structure Covers (used printed : List Token) (names : List ClassName) (P : Prop) : Prop where
  made : ∀ c ∈ names, MadeOf used c
  within : Plain used → printed.Sublist used
  same : Plain used → used = printed → P

theorem Plain.append {ts us : List Token} (h : Plain (ts ++ us)) : Plain ts ∧ Plain us :=
  ⟨fun t mem => h t (List.mem_append_left _ mem), fun t mem => h t (List.mem_append_right _ mem)⟩

namespace Covers

variable {used used' printed printed' : List Token} {names names' : List ClassName} {P Q : Prop}

/-- Tokens that are printed as they were read. -/
theorem exact (ts : List Token) : Covers ts ts [] True :=
  ⟨by simp, fun _ => .refl ts, fun _ _ => trivial⟩

/-- Tokens that are not printed. -/
theorem skip (ts : List Token) : Covers ts [] [] True :=
  ⟨by simp, fun _ => List.nil_sublist ts, fun _ _ => trivial⟩

theorem append (h : Covers used printed names P) (h' : Covers used' printed' names' Q) :
    Covers (used ++ used') (printed ++ printed') (names ++ names') (P ∧ Q) := by
  refine ⟨fun c mem => ?_, fun plain => ?_, fun plain same => ?_⟩
  · rcases List.mem_append.1 mem with mem | mem
    · exact (h.made c mem).mono (List.subset_append_left ..)
    · exact (h'.made c mem).mono (List.subset_append_right ..)
  · exact (h.within plain.append.1).append (h'.within plain.append.2)
  · have left := h.within plain.append.1
    have right := h'.within plain.append.2
    have lengths := congrArg List.length same
    rw [List.length_append, List.length_append] at lengths
    have := left.length_le
    have := right.length_le
    exact ⟨h.same plain.append.1 (left.eq_of_length_le (by omega)).symm,
      h'.same plain.append.2 (right.eq_of_length_le (by omega)).symm⟩

theorem mono (h : Covers used printed names P) (fewer : ∀ c ∈ names', c ∈ names)
    (weaker : P → Q) : Covers used printed names' Q :=
  ⟨fun c mem => h.made c (fewer c mem), h.within, fun plain same => weaker (h.same plain same)⟩

/-- What is printed even shorter. -/
theorem shrink (h : Covers used printed names P) (shorter : printed'.Sublist printed) :
    Covers used printed' names P := by
  refine ⟨h.made, fun plain => shorter.trans (h.within plain), fun plain same => ?_⟩
  subst same
  exact h.same plain (shorter.antisymm (h.within plain))

/-- Lists are covered item by item. -/
theorem commas {β : Type} {f : β → List Token} {g : β → List ClassName} {p : β → Prop}
    {is : List (List Token × β)} (all : ∀ i ∈ is, Covers i.1 (f i.2) (g i.2) (p i.2)) :
    Covers (commas is) ((is.map (·.2)).flatMap fun b => .comma :: f b)
      ((is.map (·.2)).flatMap g) (∀ b ∈ is.map (·.2), p b) := by
  induction is with
  | nil => exact (exact []).mono (by simp) (by simp)
  | cons i is ih =>
    obtain ⟨first, more⟩ := List.forall_mem_cons.1 all
    rw [commas_cons, List.map_cons, List.flatMap_cons, List.flatMap_cons]
    refine ((exact [.comma]).append (first.append (ih more))).mono (fun c mem => mem) ?_
    exact fun inside => List.forall_mem_cons.2 inside.2

end Covers

/-! ### Derivations -/

/-- A type within the tokens that spell it. -/
abbrev CoversType (used : List Token) (t : TypeExpr) : Prop :=
  Covers used (layout inFull t.pieces) t.classNames (∀ u ∈ t.parts, u.Clear)

/-- A type within the tokens that spell it, printed as a receiver. -/
abbrev CoversForm (used : List Token) (t : TypeExpr) : Prop :=
  Covers used (layout inFull (receiverForm t)) t.classNames (∀ u ∈ t.parts, u.Clear)

theorem Spells.covers {ts : List Token} {c : ClassName} (h : Spells ts c) :
    Covers ts (inFull c) [c] True := by
  refine ⟨by simpa using h.madeOf, fun plain => ?_, fun _ _ => trivial⟩
  obtain ⟨first, rest, s, ss, rfl, stand, rfl⟩ := h
  obtain ⟨same, words⟩ := Plain.stand (fun t mem => plain t (mem_chain mem)) stand
  obtain ⟨rfl, rfl⟩ := List.cons.inj same
  rw [inFull, spelledTokens, ClassName.canonical_ofSegments fun y mem => (words y mem).ne_empty,
    ClassName.cut_words words]

section

variable {D : List Token → TypeExpr → Prop} (inside : ∀ {ts t}, D ts t → CoversType ts t)
  {ts : List Token} {t : TypeExpr}

include inside

theorem SpellsArgument.covers {a : TypeArgument} (h : SpellsArgument D ts a) :
    Covers ts (layout inFull a.pieces) a.classNames (∀ u ∈ a.parts, u.Clear) := by
  cases h with
  | star =>
    rw [layout_star]
    exact (Covers.exact _).mono (by simp [TypeArgument.classNames]) (by simp [TypeArgument.parts])
  | covariant inner =>
    rw [layout_of]
    exact ((Covers.exact [_]).append (inside inner)).mono (fun c mem => mem) (·.2)
  | contravariant inner =>
    rw [layout_of]
    exact ((Covers.exact [_]).append (inside inner)).mono (fun c mem => mem) (·.2)
  | invariant inner => exact inside inner

theorem SpellsArguments.covers {as : List TypeArgument} (h : SpellsArguments D ts as) :
    Covers ts (layout inFull (argumentPieces as)) (argumentClassNames as)
      (∀ a ∈ as, ∀ u ∈ a.parts, u.Clear) := by
  cases h with
  | none => exact (Covers.exact []).mono (by simp [argumentClassNames]) (by simp)
  | some each =>
    obtain ⟨first, more⟩ := List.forall_mem_cons.1 each
    have others := Covers.commas (f := fun a : TypeArgument => layout inFull a.pieces)
      (g := (·.classNames)) (p := fun a => ∀ u ∈ a.parts, u.Clear)
      fun j mem => (more j mem).covers inside
    rw [List.map_cons, layout_argumentPieces, argumentClassNames_eq_flatMap]
    refine ((Covers.exact [_]).append
      ((first.covers inside).append (others.append (Covers.exact _)))).mono (by simp) ?_
    rintro ⟨-, here, there, -⟩
    exact List.forall_mem_cons.2 ⟨here, there⟩

theorem SpellsParameter.covers (h : SpellsParameter D ts t) : CoversType ts t := by
  cases h with
  | plain inner => exact inside inner
  | @labelled x ts t label inner =>
    exact ((Covers.skip [x, .colon]).append (inside inner)).mono (fun c mem => mem) (·.2)

theorem SpellsParameters.covers {us : List TypeExpr} (h : SpellsParameters D ts us) :
    Covers ts (.opening :: (layout inFull (parameterPieces us) ++ [.closing]))
      (parameterClassNames us) (∀ t ∈ us, ∀ u ∈ t.parts, u.Clear) := by
  cases h with
  | none => exact (Covers.exact _).mono (by simp [parameterClassNames]) (by simp)
  | some last each =>
    obtain ⟨first, more⟩ := List.forall_mem_cons.1 each
    have others := Covers.commas (f := fun t : TypeExpr => layout inFull t.pieces)
      (g := (·.classNames)) (p := fun t => ∀ u ∈ t.parts, u.Clear)
      fun j mem => (more j mem).covers inside
    rw [List.map_cons, layout_parameterPieces, parameterClassNames_eq_flatMap, List.append_assoc]
    refine ((Covers.exact [_]).append ((first.covers inside).append
      (others.append ((Covers.skip _).append (Covers.exact _))))).mono (by simp) ?_
    rintro ⟨-, here, there, -⟩
    exact List.forall_mem_cons.2 ⟨here, there⟩

theorem SpellsPrimary.covers (h : SpellsPrimary D ts t) : CoversForm ts t := by
  cases h with
  | @name ts us c as name arguments =>
    have form : receiverForm (.classType c as false) = (TypeExpr.classType c as false).pieces := rfl
    rw [CoversForm, form, layout_classType, if_neg (by simp), List.append_nil]
    refine (name.covers.append (arguments.covers inside)).mono (fun c mem => mem) ?_
    rintro ⟨-, arguments⟩ u mem
    rw [TypeExpr.parts, List.mem_cons, argumentParts_eq_flatMap, List.mem_flatMap] at mem
    rcases mem with rfl | ⟨a, among, mem⟩
    · rintro c ⟨⟩
    · exact arguments a among u mem
  | parenthesized inner =>
    rw [CoversForm, layout_receiverForm]
    have all := (Covers.exact [.opening]).append ((inside inner).append (Covers.exact [.closing]))
    refine Covers.shrink (all.mono (by simp) (·.2.1)) ?_
    split
    · exact .refl _
    · exact (List.sublist_append_left ..).trans (List.sublist_cons_self ..)

end

/-! ### Marks -/

/-- A mark is printed once. -/
theorem layout_receiverForm_orNull (spelled : ClassName → List Token) (t : TypeExpr) :
    layout spelled (receiverForm t.orNull)
      = layout spelled (receiverForm t) ++ if t.isNullable then [] else [.question] := by
  rw [layout_receiverForm, layout_receiverForm]
  rcases t with ⟨c, as, _ | _⟩ | ⟨r, ps, t, _ | _, s⟩
  all_goals simp [TypeExpr.orNull, TypeExpr.isNullable, TypeExpr.isBareFunction, layout_classType,
    layout_nullableFunction]

theorem TypeExpr.classNames_orNull (t : TypeExpr) : t.orNull.classNames = t.classNames := by
  rcases t with _ | ⟨_ | _, _⟩ <;> rfl

theorem TypeExpr.clear_orNull {t : TypeExpr} (h : ∀ u ∈ t.parts, u.Clear) :
    ∀ u ∈ t.orNull.parts, u.Clear := by
  cases t with
  | classType c as q =>
    obtain ⟨-, inside⟩ := List.forall_mem_cons.1 h
    refine List.forall_mem_cons.2 ⟨?_, inside⟩
    rintro d ⟨⟩
  | functionType r ps t q s =>
    obtain ⟨self, inside⟩ := List.forall_mem_cons.1 h
    refine List.forall_mem_cons.2 ⟨?_, inside⟩
    rw [Clear, leadingClass?_functionType] at self
    rwa [Clear, leadingClass?_functionType]

section

variable {D : List Token → TypeExpr → Prop} (inside : ∀ {ts t}, D ts t → CoversType ts t)
  {ts : List Token} {t : TypeExpr}

include inside

theorem SpellsNullable.covers (h : SpellsNullable D ts t) : CoversForm ts t := by
  obtain @⟨ts, t, n, primary⟩ := h
  have inner := primary.covers inside
  cases n with
  | zero => simpa using inner
  | succ n =>
    -- However many marks were read, at most one is printed.
    have printed : Covers (List.replicate (n + 1) .question)
        (if t.isNullable then [] else [.question]) [] True := by
      split
      · exact .skip _
      · exact ((Covers.exact [.question]).append (.skip _)).mono (by simp) (by simp)
    rw [if_neg (by simp), CoversForm, layout_receiverForm_orNull, TypeExpr.classNames_orNull]
    exact (inner.append printed).mono (by simp) fun clear => TypeExpr.clear_orNull clear.1

/-! ### Function types -/

theorem SpellsReceiver.covers {r : Option TypeExpr} (h : SpellsReceiver D ts r) :
    Covers ts (layout inFull (receiverPieces r)) (r.elim [] (·.classNames))
      (∀ v ∈ receiverParts r, v.Clear) := by
  cases h with
  | none => exact (Covers.exact _).mono (by simp) (by simp [receiverParts])
  | some receiver =>
    rw [layout_receiverPieces]
    exact ((receiver.covers inside).append (Covers.exact _)).mono (by simp) (·.1)

/-- Where nothing was lost, the tokens begin with the receiver's name if there is no keyword; and
they do not begin with the keyword then. -/
theorem SpellsFunction.covers (h : SpellsFunction D ts t) : CoversType ts t := by
  obtain @⟨rs, ps, ts, r, us, t, s, receiver, parameters, returns, clear⟩ := h
  have all := (Covers.exact (if s then [.word "suspend"] else [])).append
    ((receiver.covers inside).append ((parameters.covers inside).append
      ((Covers.exact [.arrow]).append (inside returns))))
  simp only [List.cons_append, List.append_assoc, List.nil_append] at all
  rw [← layout_functionType] at all
  refine ⟨fun c mem => all.made c ?_, all.within, fun plain same => ?_⟩
  · cases r <;> exact mem
  obtain ⟨-, received, listed, -, returned⟩ := all.same plain same
  refine List.forall_mem_cons.2 ⟨fun c leading first => ?_, fun u mem => ?_⟩
  · rcases r with _ | ⟨d, as, q⟩ | _ <;> cases s <;> cases leading
    obtain ⟨more, name⟩ := List.head?_eq_some_iff.1 first
    obtain ⟨behind, rfl⟩ := parameters.exists_cons
    have form : receiverForm (.classType c as q) = (TypeExpr.classType c as q).pieces := rfl
    rw [layout_functionType, if_neg (by simp), List.nil_append, layout_receiverPieces, form,
      layout_classType, name] at same
    refine clear rfl ?_
    have begins := congrArg List.head? same
    cases rs with
    | nil => cases begins
    | cons _ _ => exact begins
  · rcases List.mem_append.1 mem with mem | mem
    · exact received u mem
    rcases List.mem_append.1 mem with mem | mem
    · rw [parameterParts_eq_flatMap] at mem
      obtain ⟨v, among, mem⟩ := List.mem_flatMap.1 mem
      exact listed v among u mem
    · exact returned u mem

end

/-! ### Types -/

theorem Spelled.covers {ts : List Token} {t : TypeExpr} (h : Spelled ts t) : CoversType ts t := by
  obtain ⟨n, h⟩ := h
  induction n generalizing ts t with
  | zero => cases h
  | succ n ih =>
    rcases h with function | nullable
    · exact function.covers ih
    · refine (nullable.covers ih).shrink ?_
      rw [layout_receiverForm]
      split
      · exact (List.sublist_append_left ..).trans (List.sublist_cons_self ..)
      · exact .refl _

/-- What the parser reads is covered by the tokens it took. -/
theorem covers_type (n : Nat) : (Grammar.type n).Consumes CoversType :=
  (consumes_type n).mono fun _ _ spelled => Spelled.covers ⟨n, spelled⟩

end AssistedInjection.Kotlin
