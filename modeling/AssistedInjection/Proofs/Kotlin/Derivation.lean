import AssistedInjection.Proofs.Kotlin.Rules

/-!
The grammar of types as a relation between tokens and the types they spell. Of a type it says how
its tokens are put together, not in which order the alternatives are tried nor where they stop:

    ( suspend . A ) . ( x : B , ) -> C        a function type
    ( suspend . A ) .                         its receiver: a nullable type, and a dot
                      ( x : B , )             its parameters: one with a label, and a comma
                                     C        what it returns

What the parser reads is spelled by the tokens it took. The order of the alternatives does not show,
but in one place: what begins with the word `suspend` and goes on as a function type does suspends.
-/

namespace AssistedInjection.Kotlin

open Kotlin.Parser Grammar

/-! ### Derivations -/

section

variable (D : List Token → TypeExpr → Prop)

/-- The tokens of a type argument, given those of types. -/
inductive SpellsArgument : List Token → TypeArgument → Prop
  | star : SpellsArgument [.star] .star
  | covariant {ts : List Token} {t : TypeExpr} (inner : D ts t) :
    SpellsArgument (.word "out" :: ts) (.of .covariant t)
  | contravariant {ts : List Token} {t : TypeExpr} (inner : D ts t) :
    SpellsArgument (.word "in" :: ts) (.of .contravariant t)
  | invariant {ts : List Token} {t : TypeExpr} (inner : D ts t) :
    SpellsArgument ts (.of .invariant t)

/-- The tokens of a parameter. -/
inductive SpellsParameter : List Token → TypeExpr → Prop
  | plain {ts : List Token} {t : TypeExpr} (inner : D ts t) : SpellsParameter ts t
  | labelled {x : Token} {ts : List Token} {t : TypeExpr} (label : x.name?.isSome)
    (inner : D ts t) : SpellsParameter (x :: .colon :: ts) t

/-- The tokens of the arguments of a class type; there may be none. -/
inductive SpellsArguments : List Token → List TypeArgument → Prop
  | none : SpellsArguments [] []
  | some {i : List Token × TypeArgument} {is : List (List Token × TypeArgument)}
    (each : ∀ j ∈ i :: is, SpellsArgument D j.1 j.2) :
    SpellsArguments (.less :: (i.1 ++ (commas is ++ [.greater]))) ((i :: is).map (·.2))

/-- The tokens of a parameter list; a last comma is left out or not. -/
inductive SpellsParameters : List Token → List TypeExpr → Prop
  | none : SpellsParameters [.opening, .closing] []
  | some {i : List Token × TypeExpr} {is : List (List Token × TypeExpr)} (last : Bool)
    (each : ∀ j ∈ i :: is, SpellsParameter D j.1 j.2) :
    SpellsParameters
      (.opening :: (i.1 ++ (commas is ++ ((if last then [.comma] else []) ++ [.closing]))))
      ((i :: is).map (·.2))

/-- The tokens of a class type, or of a type in parentheses. -/
inductive SpellsPrimary : List Token → TypeExpr → Prop
  | name {ts us : List Token} {c : ClassName} {as : List TypeArgument} (name : Spells ts c)
    (arguments : SpellsArguments D us as) : SpellsPrimary (ts ++ us) (.classType c as false)
  | parenthesized {ts : List Token} {t : TypeExpr} (inner : D ts t) :
    SpellsPrimary (.opening :: (ts ++ [.closing])) t

/-- The tokens of a nullable type, with any number of marks. -/
inductive SpellsNullable : List Token → TypeExpr → Prop
  | marks {ts : List Token} {t : TypeExpr} (n : Nat) (primary : SpellsPrimary D ts t) :
    SpellsNullable (ts ++ List.replicate n .question) (if n = 0 then t else t.orNull)

/-- The tokens of a receiver and its dot; there may be none. -/
inductive SpellsReceiver : List Token → Option TypeExpr → Prop
  | none : SpellsReceiver [] none
  | some {ts : List Token} {t : TypeExpr} (receiver : SpellsNullable D ts t) :
    SpellsReceiver (ts ++ [.dot]) (some t)

/-- The tokens of a function type. Without the keyword they begin with another token. -/
inductive SpellsFunction : List Token → TypeExpr → Prop
  | arrow {rs ps ts : List Token} {r : Option TypeExpr} {us : List TypeExpr} {t : TypeExpr}
    (s : Bool) (receiver : SpellsReceiver D rs r) (parameters : SpellsParameters D ps us)
    (returns : D ts t) (clear : s = false → (rs ++ ps).head? ≠ some (.word "suspend")) :
    SpellsFunction ((if s then [.word "suspend"] else []) ++ (rs ++ (ps ++ .arrow :: ts)))
      (.functionType r us t false s)

end

/-- The tokens of a type that is nested at most `n` deep. -/
def SpellsType : Nat → List Token → TypeExpr → Prop
  | 0 => fun _ _ => False
  | n + 1 => fun ts t => SpellsFunction (SpellsType n) ts t ∨ SpellsNullable (SpellsType n) ts t

/-- The tokens of a type. -/
def Spelled (ts : List Token) (t : TypeExpr) : Prop := ∃ n, SpellsType n ts t

section

variable {D : List Token → TypeExpr → Prop} {β : Type} {f : β → List Token} {b : β} {bs : List β}

/-- A parameter list begins with an opening parenthesis. -/
theorem SpellsParameters.exists_cons {ts : List Token} {us : List TypeExpr}
    (h : SpellsParameters D ts us) : ∃ more, ts = .opening :: more := by
  cases h <;> exact ⟨_, rfl⟩

/-- The arguments of a class type, each of which stands for some value. -/
theorem SpellsArguments.items {g : β → TypeArgument}
    (each : ∀ x ∈ b :: bs, SpellsArgument D (f x) (g x)) :
    SpellsArguments D (.less :: (f b ++ (bs.flatMap (fun x => .comma :: f x) ++ [.greater])))
      ((b :: bs).map g) := by
  have spelled : ∀ j ∈ (b :: bs).map fun x => (f x, g x), SpellsArgument D j.1 j.2 :=
    List.forall_mem_map.2 each
  have list := SpellsArguments.some spelled
  rwa [commas_map, ← List.map_cons (f := fun x => (f x, g x)), List.map_map] at list

/-- The parameters of a function type, each of which stands for some value. -/
theorem SpellsParameters.items {g : β → TypeExpr} (last : Bool)
    (each : ∀ x ∈ b :: bs, SpellsParameter D (f x) (g x)) :
    SpellsParameters D (.opening :: (f b ++ (bs.flatMap (fun x => .comma :: f x) ++
      ((if last then [.comma] else []) ++ [.closing])))) ((b :: bs).map g) := by
  have spelled : ∀ j ∈ (b :: bs).map fun x => (f x, g x), SpellsParameter D j.1 j.2 :=
    List.forall_mem_map.2 each
  have list := SpellsParameters.some last spelled
  rwa [commas_map, ← List.map_cons (f := fun x => (f x, g x)), List.map_map] at list

end

/-! ### Nesting -/

/-- An item of a list has fewer tokens than the list. -/
theorem length_lt_of_mem_items {α : Type} {i j : List Token × α} {is : List (List Token × α)}
    (mem : j ∈ i :: is) (first : Token) (tail : List Token) :
    j.1.length < (first :: (i.1 ++ (commas is ++ tail))).length := by
  have later : j ∈ is → j.1.length ≤ (commas is).length := by
    clear mem
    intro mem
    induction is with
    | nil => cases mem
    | cons k is ih =>
      rw [commas_cons, List.length_cons, List.length_append]
      rcases List.mem_cons.1 mem with rfl | mem
      · omega
      · have := ih mem
        omega
  rw [List.length_cons, List.length_append, List.length_append]
  rcases List.mem_cons.1 mem with rfl | mem
  · omega
  · have := later mem
    omega

section

variable {D E : List Token → TypeExpr → Prop} {ts : List Token} {t : TypeExpr}

theorem SpellsArgument.mono {a : TypeArgument} (h : SpellsArgument D ts a)
    (deeper : ∀ us u, us.length ≤ ts.length → D us u → E us u) : SpellsArgument E ts a := by
  cases h with
  | star => exact .star
  | covariant inner => exact .covariant (deeper _ _ (Nat.le_succ _) inner)
  | contravariant inner => exact .contravariant (deeper _ _ (Nat.le_succ _) inner)
  | invariant inner => exact .invariant (deeper _ _ (Nat.le_refl _) inner)

theorem SpellsParameter.mono (h : SpellsParameter D ts t)
    (deeper : ∀ us u, us.length ≤ ts.length → D us u → E us u) : SpellsParameter E ts t := by
  cases h with
  | plain inner => exact .plain (deeper _ _ (Nat.le_refl _) inner)
  | labelled label inner => exact .labelled label (deeper _ _ (Nat.le_add_right _ 2) inner)

theorem SpellsArguments.mono {as : List TypeArgument} (h : SpellsArguments D ts as)
    (deeper : ∀ us u, us.length < ts.length → D us u → E us u) : SpellsArguments E ts as := by
  cases h with
  | none => exact .none
  | some each =>
    refine .some fun j mem => (each j mem).mono fun us u short => deeper us u ?_
    exact short.trans_lt (length_lt_of_mem_items mem ..)

theorem SpellsParameters.mono {us : List TypeExpr} (h : SpellsParameters D ts us)
    (deeper : ∀ us u, us.length < ts.length → D us u → E us u) : SpellsParameters E ts us := by
  cases h with
  | none => exact .none
  | some last each =>
    refine .some last fun j mem => (each j mem).mono fun us u short => deeper us u ?_
    exact short.trans_lt (length_lt_of_mem_items mem ..)

theorem SpellsNullable.mono (h : SpellsNullable D ts t)
    (deeper : ∀ us u, us.length < ts.length → D us u → E us u) : SpellsNullable E ts t := by
  obtain ⟨n, primary⟩ := h
  refine .marks n ?_
  simp only [List.length_append] at deeper
  cases primary with
  | name name arguments =>
    refine .name name (arguments.mono fun us u short => deeper us u ?_)
    rw [List.length_append]
    omega
  | parenthesized inner =>
    refine .parenthesized (deeper _ _ ?_ inner)
    rw [List.length_cons, List.length_append]
    omega

theorem SpellsReceiver.mono {r : Option TypeExpr} (h : SpellsReceiver D ts r)
    (deeper : ∀ us u, us.length < ts.length → D us u → E us u) : SpellsReceiver E ts r := by
  cases h with
  | none => exact .none
  | some receiver =>
    refine .some (receiver.mono fun us u short => deeper us u ?_)
    rw [List.length_append]
    omega

theorem SpellsFunction.mono (h : SpellsFunction D ts t)
    (deeper : ∀ us u, us.length < ts.length → D us u → E us u) : SpellsFunction E ts t := by
  obtain ⟨s, receiver, parameters, returns, clear⟩ := h
  simp only [List.length_append, List.length_cons] at deeper
  exact .arrow s (receiver.mono fun us u short => deeper us u (by omega))
    (parameters.mono fun us u short => deeper us u (by omega))
    (deeper _ _ (by omega) returns) clear

end

/-- Types are nested less deep than they have tokens. -/
theorem Spelled.type {ts : List Token} {t : TypeExpr} (h : Spelled ts t) {m : Nat}
    (enough : ts.length < m) : SpellsType m ts t := by
  obtain ⟨n, h⟩ := h
  induction n generalizing m ts t with
  | zero => cases h
  | succ n ih =>
    obtain ⟨m, rfl⟩ : ∃ k, m = k + 1 := ⟨m - 1, by omega⟩
    have inside (us : List Token) (u : TypeExpr) (short : us.length < ts.length)
        (h : SpellsType n us u) : SpellsType m us u := ih (by omega) h
    exact h.imp (·.mono inside) (·.mono inside)

theorem Spelled.function {ts : List Token} {t : TypeExpr} (h : SpellsFunction Spelled ts t) :
    Spelled ts t :=
  ⟨ts.length + 1, .inl (h.mono fun _ _ short inner => inner.type short)⟩

theorem Spelled.nullable {ts : List Token} {t : TypeExpr} (h : SpellsNullable Spelled ts t) :
    Spelled ts t :=
  ⟨ts.length + 1, .inr (h.mono fun _ _ short inner => inner.type short)⟩

/-! ### What is read is spelled -/

section

variable {ty : Parser TypeExpr} {D : List Token → TypeExpr → Prop} (sound : ty.Consumes D)

/-- What is read after commas is a list of items. -/
theorem consumes_commas {α : Type} {p : Parser α} {R : List Token → α → Prop}
    (h : p.Consumes R) :
    (many (do mark .comma; p)).Consumes fun used as =>
      ∃ is : List (List Token × α), (∀ j ∈ is, R j.1 j.2) ∧ used = commas is ∧
        as = is.map (·.2) := by
  have item : (do mark .comma; p).Consumes fun used a =>
      ∃ ts, used = Token.comma :: ts ∧ R ts a := by
    refine (consumes_mark _).bind fun used _ comma => h.mono fun more a related => ?_
    exact ⟨more, by rw [comma]; rfl, related⟩
  refine item.many.mono fun used as => ?_
  rintro ⟨parts, rfl, all⟩
  induction all with
  | nil => exact ⟨[], by simp, rfl, rfl⟩
  | cons first _ ih =>
    obtain ⟨ts, rfl, related⟩ := first
    obtain ⟨is, each, used, rfl⟩ := ih
    refine ⟨(ts, _) :: is, List.forall_mem_cons.2 ⟨related, each⟩, ?_, rfl⟩
    rw [List.flatten_cons, used]
    rfl

include sound

theorem consumes_projection : (projection ty).Consumes (SpellsArgument D) := by
  refine .orElse ?_ (.orElse ?_ (.orElse ?_ ?_))
  · refine (consumes_mark _).bind fun used _ star => consumes_pure ?_
    rw [star]
    exact .star
  · refine (consumes_mark _).bind fun used _ keyword => sound.bind fun more u inner => ?_
    rw [keyword]
    exact consumes_pure (.covariant (by simpa using inner))
  · refine (consumes_mark _).bind fun used _ keyword => sound.bind fun more u inner => ?_
    rw [keyword]
    exact consumes_pure (.contravariant (by simpa using inner))
  · exact sound.bind fun used u inner => consumes_pure (.invariant (by simpa using inner))

theorem consumes_typeArguments : (typeArguments ty).Consumes (SpellsArguments D) := by
  refine (consumes_mark _).bind fun used _ less => ?_
  refine (consumes_projection sound).bind fun used₁ a first => ?_
  refine (consumes_commas (consumes_projection sound)).bind fun used₂ as => ?_
  rintro ⟨is, each, rfl, rfl⟩
  refine (consumes_mark _).bind fun used₃ _ greater => consumes_pure ?_
  rw [less, greater, List.append_nil]
  exact .some (i := (used₁, a)) (List.forall_mem_cons.2 ⟨first, each⟩)

theorem consumes_parameter : (parameter ty).Consumes (SpellsParameter D) := by
  have label : (do let _ ← named .label identifier; mark .colon).Consumes fun used _ =>
      ∃ x : Token, x.name?.isSome ∧ used = [x, .colon] := by
    refine (consumes_identifier.named _).bind fun used s => ?_
    rintro ⟨x, rfl, name⟩
    refine (consumes_mark _).mono fun more _ colon => ⟨x, by simp [name], ?_⟩
    rw [colon]
    rfl
  refine label.optional.bind fun used o labelled => sound.mono fun more t inner => ?_
  cases o with
  | none =>
    rw [show used = [] from labelled]
    exact .plain inner
  | some _ =>
    obtain ⟨x, name, rfl⟩ := labelled
    exact .labelled name inner

theorem consumes_parameters : (parameters ty).Consumes (SpellsParameters D) := by
  have comma : (optional (mark .comma)).Consumes fun used _ =>
      ∃ last : Bool, used = if last then [.comma] else [] := by
    refine (consumes_mark .comma).optional.mono fun used o taken => ?_
    cases o with
    | none => exact ⟨false, taken⟩
    | some _ => exact ⟨true, taken⟩
  have list : (do
      let first ← parameter ty
      let rest ← many (do mark .comma; parameter ty)
      let _ ← optional (mark .comma)
      return first :: rest).Consumes fun used us =>
        SpellsParameters D (.opening :: (used ++ [Token.closing])) us := by
    refine (consumes_parameter sound).bind fun used t first => ?_
    refine (consumes_commas (consumes_parameter sound)).bind fun used₁ ts => ?_
    rintro ⟨is, each, rfl, rfl⟩
    refine comma.bind fun used₂ _ => ?_
    rintro ⟨last, rfl⟩
    refine consumes_pure ?_
    have spelled := SpellsParameters.some (i := (used, t)) last
      (List.forall_mem_cons.2 ⟨first, each⟩)
    simpa using spelled
  refine (consumes_mark _).bind fun used _ opening => ?_
  refine list.optional.bind fun used₁ o inner => ?_
  refine (consumes_mark _).bind fun used₂ _ closing => consumes_pure ?_
  rw [opening, closing, List.append_nil]
  cases o with
  | none =>
    rw [show used₁ = [] from inner]
    exact .none
  | some us => exact inner

theorem consumes_nullable : (nullable ty).Consumes (SpellsNullable D) := by
  have name : (classType ty).Consumes (SpellsPrimary D) := by
    refine consumes_dotted.bind fun used x => ?_
    rintro ⟨first, rest, rfl, stand⟩
    refine (consumes_typeArguments sound).optional.bind fun used₁ o arguments => consumes_pure ?_
    rw [List.append_nil]
    refine .name ⟨first, rest, x.1, x.2, rfl, stand, rfl⟩ ?_
    cases o with
    | none =>
      rw [show used₁ = [] from arguments]
      exact .none
    | some as => exact arguments
  have parenthesized : (parenthesized ty).Consumes (SpellsPrimary D) := by
    refine (consumes_mark _).bind fun used _ opening => sound.bind fun used₁ t inner => ?_
    refine (consumes_mark _).bind fun used₂ _ closing => consumes_pure ?_
    rw [opening, closing, List.append_nil]
    exact .parenthesized inner
  refine (name.orElse parenthesized).bind fun used t primary => ?_
  refine ((consumes_mark .question).named .nullableMark).many.bind fun used₁ marks => ?_
  rintro ⟨parts, rfl, all⟩
  refine consumes_pure ?_
  have count : parts.flatten = List.replicate marks.length .question := by
    induction all with
    | nil => rfl
    | cons first _ ih =>
      rw [List.flatten_cons, first, ih]
      rfl
  have spelled := SpellsNullable.marks marks.length primary
  rw [List.append_nil, count]
  cases marks with
  | nil => exact spelled
  | cons _ _ => exact spelled

theorem consumes_receiverDot :
    (receiverDot ty).Consumes fun used t => SpellsReceiver D used (some t) := by
  refine (consumes_nullable sound).bind fun used u receiver => ?_
  refine (consumes_mark _).bind fun used₁ _ dot => ?_
  refine (consumes_ahead _).bind fun used₂ _ nothing => consumes_pure ?_
  rw [dot, nothing]
  exact .some receiver

theorem consumes_functionType : (functionType ty).Consumes (SpellsFunction D) := by
  intro ts t rest read
  simp only [functionType, read_named, read_bind, Option.bind_eq_some_iff] at read
  obtain ⟨⟨s, ts₁⟩, first, ⟨r, ts₂⟩, second, ⟨us, ts₃⟩, third, ⟨_, ts₄⟩, fourth, ⟨u, ts₅⟩, fifth,
    result⟩ := read
  cases result
  obtain ⟨ks, rfl, keyword⟩ := (consumes_mark (.word "suspend")).optional _ _ _ first
  obtain ⟨rs, rfl, received⟩ := (consumes_receiverDot sound).optional _ _ _ second
  obtain ⟨ps, rfl, parameters⟩ := consumes_parameters sound _ _ _ third
  obtain ⟨as, rfl, rfl⟩ := consumes_mark _ _ _ _ fourth
  obtain ⟨vs, rfl, returns⟩ := sound _ _ _ fifth
  have receiver : SpellsReceiver D rs r := by
    cases r with
    | none =>
      rw [show rs = [] from received]
      exact .none
    | some v => exact received
  cases s with
  | some _ =>
    rw [show ks = [.word "suspend"] from keyword]
    refine ⟨_, ?_, .arrow true receiver parameters returns (by simp)⟩
    simp
  | none =>
    obtain rfl : ks = [] := keyword
    -- had the tokens begun with the keyword, it would have been read
    have clear : (rs ++ ps).head? ≠ some (.word "suspend") := by
      intro begins
      obtain ⟨more, split⟩ := List.head?_eq_some_iff.1 begins
      rw [List.nil_append, ← List.append_assoc, split, List.cons_append,
        read_optional_of_read (read_keyword ..)] at first
      cases first
    refine ⟨_, ?_, .arrow false receiver parameters returns fun _ => clear⟩
    simp

end

theorem consumes_type (n : Nat) : (type n).Consumes (SpellsType n) := by
  induction n with
  | zero => exact fun _ _ _ read => nomatch read
  | succ n ih =>
    exact ((consumes_functionType ih).mono fun _ _ => .inl).orElse
      ((consumes_nullable ih).mono fun _ _ => .inr)

end AssistedInjection.Kotlin
