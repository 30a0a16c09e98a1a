import AssistedInjection.Proofs.Kotlin.Derivation

/-!
What is spelled is read. Whatever can follow a type, the parser reads the tokens of the type up to
there and no further, although it tries the alternatives in order and takes the first that fits:

    ( A ) . ( B ) -> C      ( A , B ) -> C      ( x : A ) -> C      ( A ) ?
    ^ receiver              ^ list              ^ label             ^ type in parentheses

What comes after the parts tells the alternatives apart; so a text is read as a type exactly when its
tokens spell the type.
-/

namespace AssistedInjection.Kotlin

open Kotlin.Parser Grammar

/-! ### What comes next -/

/-- What can follow a type. -/
def EndsType (ts : List Token) : Prop := ∀ t ∈ ts.head?, t = .closing ∨ t = .comma ∨ t = .greater

/-- What can follow a type or a label. -/
def StopsType (ts : List Token) : Prop :=
  ∀ t ∈ ts.head?, t = .closing ∨ t = .comma ∨ t = .greater ∨ t = .colon

/-- What can follow a name: no further part of it, no arguments and no mark. -/
structure Closes (ts : List Token) : Prop where
  name : EndsName ts
  less : ts.head? ≠ some .less
  question : ts.head? ≠ some .question

/-- What can follow the first identifier of a name. -/
def AfterName (ts : List Token) : Prop :=
  ∀ t ∈ ts.head?, t ∈ [.dot, .less, .question, .closing, .comma, .greater]

/-- How the tokens of a type begin. -/
inductive Front : List Token → Prop
  | opening (more : List Token) : Front (.opening :: more)
  | name {first : Token} {more : List Token} (named : first.name?.isSome) (next : AfterName more) :
    Front (first :: more)
  | keyword {more : List Token} (starts : StartsType more) : Front (.word "suspend" :: more)

section

variable {ts us : List Token}

theorem AfterName.append (h : AfterName ts) (h' : AfterName us) : AfterName (ts ++ us) := by
  cases ts with
  | nil => exact h'
  | cons t ts => exact fun u first => h u first

theorem AfterName.not_startsType_append (h : AfterName ts) (h' : ¬ StartsType us) :
    ¬ StartsType (ts ++ us) := by
  cases ts with
  | nil => exact h'
  | cons t ts =>
    rintro ⟨_, ⟨⟩, starts⟩
    have among := h t rfl
    simp only [List.mem_cons, List.not_mem_nil, or_false] at among
    rcases among with rfl | rfl | rfl | rfl | rfl | rfl <;> simp [Token.name?] at starts

theorem AfterName.not_startsType (h : AfterName ts) : ¬ StartsType ts := by
  rw [← List.append_nil ts]
  exact h.not_startsType_append (by simp [StartsType])

theorem EndsType.of_head? (h : ts.head? = some .closing ∨ ts.head? = some .comma ∨
    ts.head? = some .greater) : EndsType ts := by
  intro t first
  rcases h with h | h | h <;> cases first.symm.trans h <;> simp

theorem EndsType.afterName (h : EndsType ts) : AfterName ts := by
  intro t first
  rcases h t first with rfl | rfl | rfl <;> simp

theorem EndsType.stops (h : EndsType ts) : StopsType ts := by
  intro t first
  rcases h t first with rfl | rfl | rfl <;> simp

theorem StopsType.head?_ne (h : StopsType ts) {t : Token}
    (other : t ≠ .closing ∧ t ≠ .comma ∧ t ≠ .greater ∧ t ≠ .colon) : ts.head? ≠ some t := by
  intro first
  rcases h t first with rfl | rfl | rfl | rfl <;> simp at other

theorem StopsType.not_startsType (h : StopsType ts) : ¬ StartsType ts := by
  rintro ⟨t, first, starts⟩
  rcases h t first with rfl | rfl | rfl | rfl <;> simp [Token.name?] at starts

theorem closes_of_head? (other : ts.head? ≠ some .dot ∧ ts.head? ≠ some .less ∧
    ts.head? ≠ some .question) : Closes ts := by
  refine ⟨?_, other.2.1, other.2.2⟩
  rintro t more rfl
  exact absurd rfl other.1

theorem StopsType.closes (h : StopsType ts) : Closes ts :=
  closes_of_head? ⟨h.head?_ne (by decide), h.head?_ne (by decide), h.head?_ne (by decide)⟩

theorem closes_dot (more : List Token) : Closes (.dot :: .opening :: more) := by
  refine ⟨?_, by simp, by simp⟩
  rintro t rest ⟨⟩
  rfl

theorem StartsType.append (h : StartsType ts) (us : List Token) : StartsType (ts ++ us) := by
  obtain ⟨t, first, starts⟩ := h
  obtain ⟨more, rfl⟩ := List.head?_eq_some_iff.1 first
  exact ⟨t, rfl, starts⟩

theorem Front.append (h : Front ts) (h' : AfterName us) : Front (ts ++ us) := by
  cases h with
  | opening more => exact .opening _
  | name named next => exact .name named (next.append h')
  | keyword starts => exact .keyword (starts.append us)

theorem Front.startsType (h : Front ts) : StartsType ts := by
  cases h with
  | opening more => exact ⟨_, rfl, .inl rfl⟩
  | name named next => exact ⟨_, rfl, .inr named⟩
  | keyword starts => exact ⟨_, rfl, .inr rfl⟩

/-- A type does not begin with a label. -/
theorem Front.not_label (h : Front ts) : ∀ t more, ts = t :: .colon :: more → t.name? = none := by
  rintro t more rfl
  cases h with
  | opening => rfl
  | name named next => simpa using next .colon rfl
  | keyword starts =>
    obtain ⟨t, first, opening | named⟩ := starts <;> cases first
    · cases opening
    · cases named

/-- A type that begins with a word other than the keyword has no type after this word. -/
theorem Front.alone (h : Front ts) {text : String} (other : text ≠ "suspend") :
    ∀ more, ts = .word text :: more → ¬ StartsType more := by
  rintro more rfl
  cases h with
  | name named next => exact next.not_startsType
  | keyword => exact absurd rfl other

theorem Front.head?_ne_star (h : Front ts) : ts.head? ≠ some .star := by
  obtain ⟨t, first, starts⟩ := h.startsType
  intro star
  cases first.symm.trans star
  rcases starts with opening | named
  · cases opening
  · cases named

end

/-! ### How types begin -/

section

variable {D : List Token → TypeExpr → Prop} {ts : List Token} {t : TypeExpr}

theorem afterName_replicate (n : Nat) : AfterName (List.replicate n .question) := by
  cases n <;> simp [AfterName, List.replicate_succ]

theorem SpellsArguments.afterName {as : List TypeArgument} (h : SpellsArguments D ts as) :
    AfterName ts := by
  cases h <;> simp [AfterName]

/-- A name begins with an identifier. -/
theorem Spells.exists_cons {c : ClassName} (h : Spells ts c) :
    ∃ first more, ts = first :: more ∧ first.name?.isSome ∧ AfterName more := by
  obtain ⟨first, rest, s, ss, rfl, stand, -⟩ := h
  rcases stand with _ | ⟨name, -⟩
  exact ⟨first, _, rfl, by simp [name], by cases rest <;> simp [AfterName]⟩

theorem SpellsNullable.front (h : SpellsNullable D ts t) : Front ts := by
  obtain ⟨n, primary⟩ := h
  refine Front.append ?_ (afterName_replicate n)
  cases primary with
  | name name arguments =>
    obtain ⟨first, more, rfl, named, next⟩ := name.exists_cons
    exact .name named (next.append arguments.afterName)
  | parenthesized inner => exact .opening _

theorem SpellsFunction.front (h : SpellsFunction D ts t) : Front ts := by
  obtain @⟨rs, ps, ts, r, us, t, s, receiver, parameters, -, -⟩ := h
  obtain ⟨more, rfl⟩ := parameters.exists_cons
  have front : ∀ rest, Front (rs ++ .opening :: rest) := by
    intro rest
    cases receiver with
    | none => exact .opening rest
    | some receiver =>
      rw [List.append_assoc]
      exact receiver.front.append (by simp [AfterName])
  cases s with
  | true => exact .keyword (front _).startsType
  | false => exact front _

theorem SpellsType.front {n : Nat} (h : SpellsType n ts t) : Front ts := by
  cases n with
  | zero => cases h
  | succ n =>
    rcases h with function | nullable
    · exact function.front
    · exact nullable.front

end

/-! ### What is spelled is read -/

/-- A parser of types that reads the tokens of every type up to where the type can end, and that is
not misled by what can stand where a type is tried in vain. -/
structure ReadsAll (ty : Parser TypeExpr) (D : List Token → TypeExpr → Prop) : Prop where
  reads : ∀ {ts t}, D ts t → ∀ {after}, EndsType after → ty.read (ts ++ after) = some (t, after)
  front : ∀ {ts t}, D ts t → Front ts
  rejects : ∀ {ts}, ¬ StartsType ts → ty.read ts = none
  label : ∀ {x : Token} {more t rest}, x.name?.isSome →
    ty.read (x :: .colon :: more) = some (t, rest) → rest = .colon :: more

namespace ReadsAll

variable {ty : Parser TypeExpr} {D : List Token → TypeExpr → Prop} (all : ReadsAll ty D)
  {ts after : List Token} {t : TypeExpr}

include all

theorem argument {a : TypeArgument} (h : SpellsArgument D ts a) (ends : EndsType after) :
    (projection ty).read (ts ++ after) = some (a, after) := by
  cases h with
  | star => exact read_projection_star
  | covariant inner => exact read_projection_out (all.reads inner ends)
  | contravariant inner => exact read_projection_in (all.reads inner ends)
  | invariant inner =>
    have front : Front (ts ++ after) := (all.front inner).append ends.afterName
    refine read_projection front.head?_ne_star (fun text mem more split => all.rejects ?_)
      (all.reads inner ends)
    refine front.alone ?_ more split
    rintro rfl
    revert mem
    decide

theorem parameter (h : SpellsParameter D ts t) (ends : EndsType after) :
    (parameter ty).read (ts ++ after) = some (t, after) := by
  cases h with
  | plain inner =>
    rw [read_parameter ((all.front inner).append ends.afterName).not_label]
    exact all.reads inner ends
  | labelled label inner =>
    rw [List.cons_append, List.cons_append, read_parameter_labelled label]
    exact all.reads inner ends

theorem arguments {as : List TypeArgument} (h : SpellsArguments D ts as)
    (other : after.head? ≠ some .less) :
    ∃ o, o.getD [] = as ∧ (optional (typeArguments ty)).read (ts ++ after) = some (o, after) := by
  cases h with
  | none => exact ⟨none, rfl, read_optional_of_none (read_bind_of_none (read_mark_of_ne other))⟩
  | some each =>
    refine ⟨some _, rfl, read_optional_of_read ?_⟩
    simp only [List.cons_append, List.append_assoc, List.nil_append]
    exact read_typeArguments fun j mem after next =>
      all.argument (each j mem) (.of_head? (.inr next))

theorem parameters {us : List TypeExpr} (h : SpellsParameters D ts us) (after : List Token) :
    (parameters ty).read (ts ++ after) = some (us, after) := by
  have nothing : (Grammar.parameter ty).read (.closing :: after) = none := by
    rw [read_parameter (by rintro t more ⟨⟩; rfl)]
    exact all.rejects (by simp [StartsType, Token.name?])
  cases h with
  | none => exact read_parameters_nil nothing
  | some last each =>
    simp only [List.cons_append, List.append_assoc, List.nil_append]
    exact read_parameters nothing last fun j mem after next =>
      all.parameter (each j mem) (.of_head? (next.symm.imp_right .inl))

theorem nullable (h : SpellsNullable D ts t) (closes : Closes after) :
    (nullable ty).read (ts ++ after) = some (t, after) := by
  obtain @⟨ts, t, n, primary⟩ := h
  rw [List.append_assoc]
  refine read_nullable ?_ closes.question
  cases primary with
  | @name ts us c as name arguments =>
    obtain ⟨first, rest, s, ss, rfl, stand, rfl⟩ := name
    have less : (List.replicate n Token.question ++ after).head? ≠ some .less := by
      cases n with
      | zero => exact closes.less
      | succ n => simp [List.replicate_succ]
    -- a dot after the name would be taken for more of it, were it not for what is behind it
    have ends : EndsName (us ++ (List.replicate n Token.question ++ after)) := by
      cases arguments with
      | none =>
        cases n with
        | zero => exact closes.name
        | succ n => rintro t more ⟨⟩
      | some each => rintro t more ⟨⟩
    obtain ⟨o, whole, read⟩ := all.arguments arguments less
    rw [List.append_assoc, ← whole]
    exact read_orElse_of_read _ (read_classType stand ends read)
  | parenthesized inner =>
    rw [List.cons_append, List.append_assoc, read_orElse_parenthesized]
    exact read_parenthesized (all.reads inner (.of_head? (.inl rfl)))

/-- What stands in parentheses in front of an arrow is no receiver. -/
theorem noReceiver {us : List TypeExpr} (h : SpellsParameters D ts us) (after : List Token) :
    (receiverDot ty).read (ts ++ .arrow :: after) = none := by
  have never {more : List Token}
      (unclosed : ∀ u rest, ty.read more = some (u, rest) → rest.head? ≠ some .closing) :
      (receiverDot ty).read (.opening :: more) = none := by
    have inner := read_parenthesized_of_open unclosed
    rw [← read_orElse_parenthesized] at inner
    exact read_bind_of_none (read_bind_of_none inner)
  cases h with
  | none =>
    refine never fun u rest read => ?_
    have no : ty.read (.closing :: .arrow :: after) = none :=
      all.rejects (by simp [StartsType, Token.name?])
    cases no.symm.trans read
  | @some i is last each =>
    obtain ⟨ts, t⟩ := i
    have first : SpellsParameter D ts t := each (ts, t) (List.mem_cons_self ..)
    simp only [List.cons_append, List.append_assoc, List.nil_append]
    cases first with
    | labelled label inner =>
      refine never fun u rest read => ?_
      rw [List.cons_append, List.cons_append] at read
      rw [all.label label read]
      simp
    | plain inner =>
      rcases commas_cases is last (.closing :: .arrow :: after) with comma | single
      · refine never fun u rest read => ?_
        rw [all.reads inner (.of_head? (.inr (.inl comma)))] at read
        cases read
        rw [comma]
        simp
      · -- a single parameter is a type in parentheses, and an arrow follows that one
        have closes : Closes (.arrow :: after) := closes_of_head? (by simp)
        have whole := all.nullable (.marks 0 (.parenthesized inner)) closes
        simp only [List.replicate_zero, List.append_nil, List.cons_append, List.append_assoc,
          List.nil_append] at whole
        rw [single]
        refine read_receiverDot_eq_none fun u rest read => ?_
        cases whole.symm.trans read
        simp

theorem functionType (h : SpellsFunction D ts t) (ends : EndsType after) :
    (functionType ty).read (ts ++ after) = some (t, after) := by
  obtain @⟨rs, ps, ts, r, us, t, s, receiver, parameters, returns, clear⟩ := h
  have list : (Grammar.parameters ty).read (ps ++ .arrow :: (ts ++ after))
      = some (us, .arrow :: (ts ++ after)) := all.parameters parameters _
  have received : (optional (receiverDot ty)).read (rs ++ (ps ++ .arrow :: (ts ++ after)))
      = some (r, ps ++ .arrow :: (ts ++ after)) := by
    cases receiver with
    | none => exact read_optional_of_none (all.noReceiver parameters _)
    | some receiver =>
      obtain ⟨more, rfl⟩ := parameters.exists_cons
      rw [List.append_assoc]
      exact read_optional_of_read (read_receiverDot (all.nullable receiver (closes_dot _)))
  have suspending : ∃ o : Option Unit, o.isSome = s ∧
      (optional (keyword .suspendKeyword "suspend")).read
          ((if s then [.word "suspend"] else []) ++ (rs ++ (ps ++ .arrow :: (ts ++ after))))
        = some (o, rs ++ (ps ++ .arrow :: (ts ++ after))) := by
    cases s with
    | true => exact ⟨some (), rfl, read_optional_of_read (read_keyword ..)⟩
    | false =>
      refine ⟨none, rfl, read_optional_of_none (read_keyword_eq_none ?_)⟩
      obtain ⟨more, rfl⟩ := parameters.exists_cons
      cases rs <;> exact clear rfl
  obtain ⟨o, same, suspending⟩ := suspending
  have returned := all.reads returns ends
  simp only [List.append_assoc, List.cons_append]
  rw [read_functionType suspending received list returned, same]

/-- What is no function type is not read as one. -/
theorem noFunction (h : SpellsNullable D ts t) (stops : StopsType after) :
    (Grammar.functionType ty).read (ts ++ after) = none := by
  have noReceiver : (receiverDot ty).read (ts ++ after) = none :=
    read_receiverDot_eq_none fun u rest read => by
      cases (all.nullable h stops.closes).symm.trans read
      exact stops.head?_ne (by decide)
  obtain @⟨ts, t, n, primary⟩ := h
  rw [List.append_assoc] at noReceiver ⊢
  cases primary with
  | @name ts us c as name arguments =>
    obtain ⟨first, more, rfl, named, continued⟩ := name.exists_cons
    have next : ¬ StartsType (more ++ (us ++ (List.replicate n .question ++ after))) :=
      continued.not_startsType_append (arguments.afterName.not_startsType_append
        ((afterName_replicate n).not_startsType_append stops.not_startsType))
    simp only [List.cons_append, List.append_assoc] at noReceiver ⊢
    -- a class called like the keyword is taken for the keyword, but then nothing follows it
    by_cases suspend : first = .word "suspend"
    · rw [suspend]
      exact read_functionType_of_suspend next
    · refine read_functionType_eq_none (read_optional_of_none (read_keyword_eq_none (by simpa)))
        (read_optional_of_none noReceiver) fun us rest list => ?_
      rw [read_parameters_eq_none] at list
      · cases list
      · rintro ⟨⟩
        cases named
  | @parenthesized ts t inner =>
    have list := all.parameters (.some (i := (ts, t)) false
      (List.forall_mem_singleton.2 (.plain inner))) (List.replicate n .question ++ after)
    simp only [List.cons_append, List.append_assoc, List.nil_append, commas_nil,
      Bool.false_eq_true, if_false] at list noReceiver ⊢
    refine read_functionType_eq_none (read_optional_of_none (read_keyword_eq_none (by simp)))
      (read_optional_of_none noReceiver) fun us rest read => ?_
    cases list.symm.trans read
    cases n with
    | zero => exact stops.head?_ne (by decide)
    | succ n => simp [List.replicate_succ]

/-- A nullable type is read by the second alternative. -/
theorem alternative (h : SpellsNullable D ts t) (stops : StopsType after) :
    (orElse (Grammar.functionType ty) (Grammar.nullable ty)).read (ts ++ after)
      = some (t, after) := by
  rw [read_orElse_of_none _ (all.noFunction h stops)]
  exact all.nullable h stops.closes

end ReadsAll

theorem read_type_eq_none (n : Nat) {ts : List Token} (h : ¬ StartsType ts) :
    (type n).read ts = none := by
  cases n with
  | zero => rfl
  | succ n =>
    have suspending : (optional (keyword .suspendKeyword "suspend")).read ts = some (none, ts) :=
      read_optional_of_none (read_keyword_eq_none fun first => h ⟨_, first, .inr rfl⟩)
    have receiver : (receiverDot (type n)).read ts = none :=
      read_receiverDot_eq_none fun u rest read => by
        rw [read_nullable_eq_none _ h] at read
        cases read
    have noFunction : (functionType (type n)).read ts = none :=
      read_functionType_eq_none suspending (read_optional_of_none receiver) fun ps rest read => by
        rw [read_parameters_eq_none _ (head?_ne_opening h)] at read
        cases read
    rw [type, read_orElse_of_none _ noFunction, read_nullable_eq_none _ h]

/-- Types are read at the depth at which they are spelled. -/
theorem readsAll_type (n : Nat) : ReadsAll (type n) (SpellsType n) := by
  induction n with
  | zero => exact ⟨fun h => h.elim, fun h => h.elim, fun _ => rfl, fun _ read => by cases read⟩
  | succ n ih =>
    refine ⟨fun h after ends => ?_, SpellsType.front, read_type_eq_none _,
      fun {x more t rest} label read => ?_⟩
    · rcases h with function | nullable
      · exact read_orElse_of_read _ (ih.functionType function ends)
      · exact ih.alternative nullable ends.stops
    · -- the label is taken for the name of a class, which ends at the colon
      obtain ⟨s, name⟩ := Option.isSome_iff_exists.1 label
      have spelled : SpellsNullable (SpellsType n) [x] _ :=
        .marks 0 (.name ⟨x, [], s, [], rfl, .cons name .nil, rfl⟩ .none)
      have stops : StopsType (.colon :: more) := by simp [StopsType]
      cases (ih.alternative spelled stops).symm.trans read
      rfl

/-- A text is read as a type if its tokens are those of the type. -/
theorem TypeExpr.parse_eq_ok_iff {s : String} {t : TypeExpr} :
    parse s = .ok t ↔ Spelled (tokens s) t := by
  rw [parse, readWhole_eq_ok_iff]
  constructor
  · intro read
    obtain ⟨used, split, spelled⟩ := consumes_type _ _ _ _ read
    obtain rfl : tokens s = used := by rw [split, List.append_nil]
    exact ⟨_, spelled⟩
  · intro spelled
    have ends : EndsType [] := by simp [EndsType]
    have read := (readsAll_type _).reads (spelled.type (Nat.lt_succ_self _)) ends
    rwa [List.append_nil] at read

end AssistedInjection.Kotlin
