import AssistedInjection.Proofs.Kotlin.Names

/-!
What each rule of the type grammar reads, given what the parser of types reads inside it, and where
it cannot read anything. No rule for types reads tokens that start with neither an identifier nor an
opening parenthesis.

    function-type     suspend?   receiver "." &"("   parameters   "->"   type
                      read_keyword   read_receiverDot   read_parameters   read_functionType
-/

namespace AssistedInjection.Kotlin

open Kotlin.Parser Grammar

/-- Tokens a type can start with. -/
def StartsType (ts : List Token) : Prop := ∃ t ∈ ts.head?, t = .opening ∨ t.name?.isSome

section

variable (ty : Parser TypeExpr) {ts rest after : List Token}

/-! ### Rules that fail -/

theorem read_classType_eq_none (h : ∀ t ∈ ts.head?, t.name? = none) :
    (classType ty).read ts = none := by
  have first : identifier.read ts = none := by
    cases ts with
    | nil => rfl
    | cons t ts => rw [read_identifier, h t rfl, Option.map_none]
  exact read_bind_of_none (read_bind_of_none first)

theorem read_parenthesized_eq_none (h : ts.head? ≠ some .opening) :
    (parenthesized ty).read ts = none :=
  read_bind_of_none (read_mark_of_ne h)

theorem read_parameters_eq_none (h : ts.head? ≠ some .opening) :
    (parameters ty).read ts = none :=
  read_bind_of_none (read_mark_of_ne h)

theorem head?_ne_opening (h : ¬ StartsType ts) : ts.head? ≠ some .opening :=
  fun first => h ⟨.opening, first, .inl rfl⟩

theorem read_nullable_eq_none (h : ¬ StartsType ts) : (nullable ty).read ts = none := by
  have unnamed : ∀ t ∈ ts.head?, t.name? = none := fun t first =>
    Option.not_isSome_iff_eq_none.1 fun named => h ⟨t, first, .inr named⟩
  refine read_bind_of_none ?_
  rw [read_orElse_of_none _ (read_classType_eq_none ty unnamed),
    read_parenthesized_eq_none ty (head?_ne_opening h)]

/-! ### Function types -/

theorem read_keyword (construct : Construct) (text : String) :
    (keyword construct text).read (.word text :: ts) = some ((), ts) :=
  read_mark_cons ..

theorem read_keyword_eq_none {construct : Construct} {text : String}
    (h : ts.head? ≠ some (.word text)) : (keyword construct text).read ts = none :=
  read_mark_of_ne h

variable {ty}

theorem read_receiverDot {u : TypeExpr}
    (h : (nullable ty).read ts = some (u, .dot :: .opening :: rest)) :
    (receiverDot ty).read ts = some (u, .opening :: rest) := by
  have first : (named .receiver (nullable ty)).read ts = _ := h
  have next : (ahead .opening).read (.opening :: rest) = some ((), .opening :: rest) := rfl
  rw [receiverDot, read_bind_of_read first, read_bind_of_read (read_mark_cons ..),
    read_bind_of_read next, read_pure]

/-- There is no receiver where what could be one is not followed by a dot. -/
theorem read_receiverDot_eq_none
    (h : ∀ u rest, (nullable ty).read ts = some (u, rest) → rest.head? ≠ some .dot) :
    (receiverDot ty).read ts = none := by
  cases read : (nullable ty).read ts with
  | none => exact read_bind_of_none read
  | some x =>
    have first : (named .receiver (nullable ty)).read ts = some (x.1, x.2) := read
    rw [receiverDot, read_bind_of_read first]
    exact read_bind_of_none (read_mark_of_ne (h x.1 x.2 read))

theorem read_functionType {ts₁ ts₂ ts₃ : List Token} {s : Option Unit} {r : Option TypeExpr}
    {ps : List TypeExpr} {t : TypeExpr}
    (suspending : (optional (keyword .suspendKeyword "suspend")).read ts = some (s, ts₁))
    (receiver : (optional (receiverDot ty)).read ts₁ = some (r, ts₂))
    (list : (parameters ty).read ts₂ = some (ps, .arrow :: ts₃))
    (returns : ty.read ts₃ = some (t, rest)) :
    (functionType ty).read ts = some (.functionType r ps t false s.isSome, rest) := by
  rw [functionType, read_named, read_bind_of_read suspending, read_bind_of_read receiver,
    read_bind_of_read list, read_bind_of_read (read_mark_cons ..), read_bind_of_read returns,
    read_pure]

/-- Without a parameter list and an arrow after it there is no function type. -/
theorem read_functionType_eq_none {ts₁ ts₂ : List Token} {s : Option Unit} {r : Option TypeExpr}
    (suspending : (optional (keyword .suspendKeyword "suspend")).read ts = some (s, ts₁))
    (receiver : (optional (receiverDot ty)).read ts₁ = some (r, ts₂))
    (list : ∀ ps rest, (parameters ty).read ts₂ = some (ps, rest) → rest.head? ≠ some .arrow) :
    (functionType ty).read ts = none := by
  rw [functionType, read_named, read_bind_of_read suspending, read_bind_of_read receiver]
  cases read : (parameters ty).read ts₂ with
  | none => exact read_bind_of_none read
  | some x =>
    rw [read_bind_of_read read]
    exact read_bind_of_none (read_mark_of_ne (list x.1 x.2 read))

/-- Tokens that can start no type can start none after the keyword either. -/
theorem read_functionType_of_suspend (h : ¬ StartsType ts) :
    (functionType ty).read (.word "suspend" :: ts) = none := by
  have receiver : (receiverDot ty).read ts = none := read_receiverDot_eq_none fun u rest read => by
    rw [read_nullable_eq_none ty h] at read
    cases read
  refine read_functionType_eq_none (read_optional_of_read (read_keyword ..))
    (read_optional_of_none receiver) fun ps rest read => ?_
  rw [read_parameters_eq_none ty (head?_ne_opening h)] at read
  cases read

/-! ### Class types and parentheses -/

theorem read_parenthesized {u : TypeExpr} (h : ty.read ts = some (u, .closing :: rest)) :
    (parenthesized ty).read (.opening :: ts) = some (u, rest) := by
  rw [parenthesized, read_named, read_bind_of_read (read_mark_cons ..), read_bind_of_read h,
    read_bind_of_read (read_mark_cons ..), read_pure]

theorem read_parenthesized_of_open
    (h : ∀ u rest, ty.read ts = some (u, rest) → rest.head? ≠ some .closing) :
    (parenthesized ty).read (.opening :: ts) = none := by
  rw [parenthesized, read_named, read_bind_of_read (read_mark_cons ..)]
  cases read : ty.read ts with
  | none => exact read_bind_of_none read
  | some x =>
    rw [read_bind_of_read read]
    exact read_bind_of_none (read_mark_of_ne (h x.1 x.2 read))

/-- A nullable type, with as many marks as there are. -/
theorem read_nullable {u : TypeExpr} {n : Nat}
    (inner : (orElse (classType ty) (parenthesized ty)).read ts
      = some (u, List.replicate n .question ++ rest))
    (ends : rest.head? ≠ some .question) :
    (nullable ty).read ts = some (if n = 0 then u else u.orNull, rest) := by
  have repeats : Repeats (named .nullableMark (mark .question))
      (List.replicate n .question ++ rest) (List.replicate n ()) rest := by
    clear inner
    induction n with
    | zero => exact .nil rest
    | succ n ih => exact .cons (show (mark .question).read _ = _ from read_mark_cons ..) ih
  have marks := read_many repeats (read_mark_of_ne ends) (by simp)
  rw [nullable, read_named, read_bind_of_read inner, read_bind_of_read marks, read_pure]
  cases n <;> rfl

theorem read_orElse_parenthesized :
    (orElse (classType ty) (parenthesized ty)).read (.opening :: ts)
      = (parenthesized ty).read (.opening :: ts) := by
  refine read_orElse_of_none _ (read_classType_eq_none ty ?_)
  rintro t ⟨⟩
  rfl

theorem read_classType {first : Token} {more : List Token} {s : String} {ss : List String}
    (stand : Stand (first :: more) (s :: ss)) {arguments : Option (List TypeArgument)}
    (ends : EndsName ts)
    (read : (optional (typeArguments ty)).read ts = some (arguments, rest)) :
    (classType ty).read (chain first more ++ ts)
      = some (.classType (.ofSegments s ss) (arguments.getD []) false, rest) := by
  rw [classType, read_named, read_bind_of_read (read_dotted stand ends), read_bind_of_read read,
    read_pure]

/-! ### Lists -/

/-- The tokens of items, each after a comma. -/
def commas {α : Type} (is : List (List Token × α)) : List Token :=
  is.flatMap fun i => .comma :: i.1

section

variable {α : Type}

@[simp]
theorem commas_nil : commas ([] : List (List Token × α)) = [] := rfl

@[simp]
theorem commas_cons (i : List Token × α) (is : List (List Token × α)) :
    commas (i :: is) = .comma :: (i.1 ++ commas is) := by
  rw [commas, List.flatMap_cons]
  rfl

theorem commas_map {β : Type} (f : β → List Token × α) (bs : List β) :
    commas (bs.map f) = bs.flatMap fun b => .comma :: (f b).1 :=
  List.flatMap_map ..

theorem head?_commas (is : List (List Token × α)) (tail : List Token) :
    (commas is ++ tail).head? = some .comma ∨ (commas is ++ tail).head? = tail.head? := by
  cases is <;> simp

/-- After an item there is a comma, or nothing more of the list. -/
theorem commas_cases (is : List (List Token × α)) (last : Bool) (tail : List Token) :
    (commas is ++ ((if last then [Token.comma] else []) ++ tail)).head? = some .comma ∨
      commas is ++ ((if last then [Token.comma] else []) ++ tail) = tail := by
  cases is <;> cases last <;> simp

/-- Items after commas are read one by one, if each is read up to a comma or the end of the list. -/
theorem read_commas {p : Parser α} {is : List (List Token × α)} {tail : List Token}
    (ends : (do mark .comma; p).read tail = none)
    (each : ∀ j ∈ is, ∀ after : List Token,
      (after.head? = some .comma ∨ after.head? = tail.head?) →
        p.read (j.1 ++ after) = some (j.2, after)) :
    (many (do mark .comma; p)).read (commas is ++ tail) = some (is.map (·.2), tail) := by
  have repeats : Repeats (do mark .comma; p) (commas is ++ tail) (is.map (·.2)) tail := by
    induction is with
    | nil => exact .nil _
    | cons i is ih =>
      obtain ⟨first, more⟩ := List.forall_mem_cons.1 each
      refine .cons ?_ (ih more)
      rw [commas_cons, List.cons_append, List.append_assoc, read_bind_of_read (read_mark_cons ..),
        first _ (head?_commas is tail)]
  have short : is.length ≤ (commas is).length := by
    clear each repeats
    induction is with
    | nil => exact Nat.le_refl 0
    | cons i is ih =>
      rw [commas_cons, List.length_cons, List.length_cons, List.length_append]
      omega
  refine read_many repeats ends ?_
  rw [List.length_map, List.length_append]
  omega

end

theorem read_typeArguments {i : List Token × TypeArgument} {is : List (List Token × TypeArgument)}
    (each : ∀ j ∈ i :: is, ∀ after : List Token,
      (after.head? = some .comma ∨ after.head? = some .greater) →
        (projection ty).read (j.1 ++ after) = some (j.2, after)) :
    (typeArguments ty).read (.less :: (i.1 ++ (commas is ++ .greater :: rest)))
      = some ((i :: is).map (·.2), rest) := by
  obtain ⟨first, more⟩ := List.forall_mem_cons.1 each
  have ends : (do mark .comma; projection ty).read (.greater :: rest) = none :=
    read_bind_of_none (read_mark_of_ne (by simp))
  rw [typeArguments, read_named, read_bind_of_read (read_mark_cons ..),
    read_bind_of_read (first _ (head?_commas is _)), read_bind_of_read (read_commas ends more),
    read_bind_of_read (read_mark_cons ..), read_pure]
  rfl

/-- A parameter list, with a comma before the closing parenthesis or without. -/
theorem read_parameters (nothing : (parameter ty).read (.closing :: rest) = none) (last : Bool)
    {i : List Token × TypeExpr} {is : List (List Token × TypeExpr)}
    (each : ∀ j ∈ i :: is, ∀ after : List Token,
      (after.head? = some .comma ∨ after.head? = some .closing) →
        (parameter ty).read (j.1 ++ after) = some (j.2, after)) :
    (parameters ty).read (.opening :: (i.1 ++ (commas is ++
        ((if last then [.comma] else []) ++ .closing :: rest))))
      = some ((i :: is).map (·.2), rest) := by
  let tail := (if last then [.comma] else []) ++ .closing :: rest
  have ending : tail.head? = some .comma ∨ tail.head? = some .closing := by
    cases last <;> simp [tail]
  have single : (mark .comma).read (.closing :: rest) = none := read_mark_of_ne (by simp)
  have ends : (do mark .comma; parameter ty).read tail = none := by
    cases last with
    | true => exact (read_bind_of_read (read_mark_cons ..)).trans nothing
    | false => exact read_bind_of_none single
  have comma : ∃ o, (optional (mark .comma)).read tail = some (o, .closing :: rest) := by
    cases last with
    | true => exact ⟨_, read_optional_of_read (read_mark_cons ..)⟩
    | false => exact ⟨_, read_optional_of_none single⟩
  have within : ∀ after : List Token,
      (after.head? = some .comma ∨ after.head? = tail.head?) →
        after.head? = some .comma ∨ after.head? = some .closing := by
    rintro after (next | next)
    · exact .inl next
    · rwa [next]
  obtain ⟨first, more⟩ := List.forall_mem_cons.1 each
  obtain ⟨o, comma⟩ := comma
  have list : (do
      let first ← parameter ty
      let rest ← many (do mark .comma; parameter ty)
      let _ ← optional (mark .comma)
      return first :: rest).read (i.1 ++ (commas is ++ tail))
      = some ((i :: is).map (·.2), .closing :: rest) := by
    rw [read_bind_of_read (first _ (within _ (head?_commas is tail))),
      read_bind_of_read (read_commas ends fun j mem after next => more j mem after
        (within after next)), read_bind_of_read comma, read_pure]
    rfl
  rw [parameters, read_named, read_bind_of_read (read_mark_cons ..),
    read_bind_of_read (read_optional_of_read list), read_bind_of_read (read_mark_cons ..),
    read_pure]
  rfl

theorem read_parameters_nil (h : (parameter ty).read (.closing :: rest) = none) :
    (parameters ty).read (.opening :: .closing :: rest) = some ([], rest) := by
  rw [parameters, read_named, read_bind_of_read (read_mark_cons ..),
    read_bind_of_read (read_optional_of_none (read_bind_of_none h)),
    read_bind_of_read (read_mark_cons ..), read_pure]
  rfl

/-! ### Items -/

/-- A parameter is a type, unless it starts with a label. -/
theorem read_parameter (h : ∀ t more, ts = t :: .colon :: more → t.name? = none) :
    (parameter ty).read ts = ty.read ts := by
  refine read_bind_of_read (read_optional_of_none ?_)
  cases ts with
  | nil => rfl
  | cons t ts =>
    cases name : t.name? with
    | none => exact read_bind_of_none (by rw [read_named, read_identifier, name, Option.map_none])
    | some s =>
      have label : (named .label identifier).read (t :: ts) = some (s, ts) := by
        rw [read_named, read_identifier, name, Option.map_some]
      refine (read_bind_of_read label).trans (read_mark_of_ne fun colon => ?_)
      obtain ⟨more, rfl⟩ : ∃ more, ts = .colon :: more := by
        cases ts <;> simp_all
      rw [h t more rfl] at name
      cases name

/-- A parameter with a label is the type after it. -/
theorem read_parameter_labelled {x : Token} (label : x.name?.isSome) :
    (parameter ty).read (x :: .colon :: ts) = ty.read ts := by
  obtain ⟨s, name⟩ := Option.isSome_iff_exists.1 label
  have first : (named .label identifier).read (x :: .colon :: ts) = some (s, .colon :: ts) := by
    rw [read_named, read_identifier, name, Option.map_some]
  have read := (read_bind_of_read (f := fun _ => mark .colon) first).trans (read_mark_cons ..)
  rw [parameter, read_named, read_bind_of_read (read_optional_of_read read)]

theorem read_projection_star : (projection ty).read (.star :: ts) = some (.star, ts) := by
  have star : (named .star (mark .star)).read (.star :: ts) = some ((), ts) :=
    (read_named ..).trans (read_mark_cons ..)
  rw [projection, read_named]
  exact read_orElse_of_read _ ((read_bind_of_read star).trans (read_pure ..))

/-- What is no star is read by the other alternatives. -/
theorem read_projection_of_ne_star (h : ts.head? ≠ some .star) :
    (projection ty).read ts
      = (orElse (do keyword .outKeyword "out"; return .of .covariant (← ty)) <|
          orElse (do keyword .inKeyword "in"; return .of .contravariant (← ty)) <|
          do return .of .invariant (← ty) : Parser TypeArgument).read ts := by
  have star : (named .star (mark .star)).read ts = none := read_mark_of_ne h
  rw [projection, read_named, read_orElse_of_none _ (read_bind_of_none star)]

theorem read_projection_out {u : TypeExpr} (h : ty.read ts = some (u, rest)) :
    (projection ty).read (.word "out" :: ts) = some (.of .covariant u, rest) := by
  rw [read_projection_of_ne_star (by simp)]
  refine read_orElse_of_read _ ?_
  rw [read_bind_of_read (read_keyword ..), read_bind_of_read h, read_pure]

theorem read_projection_in {u : TypeExpr} (h : ty.read ts = some (u, rest)) :
    (projection ty).read (.word "in" :: ts) = some (.of .contravariant u, rest) := by
  rw [read_projection_of_ne_star (by simp),
    read_orElse_of_none _ (read_bind_of_none (read_keyword_eq_none (by simp)))]
  refine read_orElse_of_read _ ?_
  rw [read_bind_of_read (read_keyword ..), read_bind_of_read h, read_pure]

/-- A keyword that no type follows is no keyword. -/
theorem read_keyword_of_none {α : Type} {f : TypeExpr → Parser α} {construct : Construct}
    {text : String} (h : ∀ more, ts = .word text :: more → ty.read more = none) :
    (do keyword construct text; ty >>= f).read ts = none := by
  by_cases first : ts.head? = some (.word text)
  · obtain ⟨more, rfl⟩ := List.head?_eq_some_iff.1 first
    rw [read_bind_of_read (read_keyword ..)]
    exact read_bind_of_none (h more rfl)
  · exact read_bind_of_none (read_keyword_eq_none first)

theorem read_projection {u : TypeExpr} (star : ts.head? ≠ some .star)
    (alone : ∀ text ∈ ["out", "in"], ∀ more, ts = .word text :: more → ty.read more = none)
    (h : ty.read ts = some (u, rest)) :
    (projection ty).read ts = some (.of .invariant u, rest) := by
  rw [read_projection_of_ne_star star,
    read_orElse_of_none _ (read_keyword_of_none (alone "out" (by decide))),
    read_orElse_of_none _ (read_keyword_of_none (alone "in" (by decide))),
    read_bind_of_read h, read_pure]

end

end AssistedInjection.Kotlin
