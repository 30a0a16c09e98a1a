import AssistedInjection.Proofs.Kotlin.Derivation
import AssistedInjection.Proofs.Kotlin.Layout

/-!
Printed types can be read back. Whatever the classes are called, as long as each is spelled in
identifiers with dots between them, the tokens of a printed type spell that type with the classes
that the identifiers stand for. One thing can come between: a function type without the keyword that
begins with the name of its receiver, where this name begins with the word `suspend`.

    suspend A.(B) -> C        suspend B, but not    suspend.A.(B) -> C
-/

namespace AssistedInjection.Kotlin

/-- The class whose name a function type begins with: that of its receiver, if no keyword precedes
it. -/
def TypeExpr.leadingClass? : TypeExpr → Option ClassName
  | .functionType (some (.classType name _ _)) _ _ _ false => some name
  | _ => none

theorem TypeExpr.leadingClass?_functionType (r : Option TypeExpr) (ps : List TypeExpr)
    (t : TypeExpr) (q s : Bool) :
    (TypeExpr.functionType r ps t q s).leadingClass?
      = if s then none else r.bind TypeExpr.className? := by
  rcases r with _ | ⟨c, as, q'⟩ | _ <;> cases s <;> rfl

/-! ### Types that can be read back -/

section

variable {spelled : ClassName → List Token} {meant : ClassName → ClassName}

variable (spelled meant) in
/-- A type whose classes are spelled as what is meant by them, and in which no name that begins with
the word `suspend` could be taken for the keyword. -/
structure Readable (t : TypeExpr) : Prop where
  spells : ∀ c ∈ t.classNames, Spells (spelled c) (meant c)
  clear : ∀ u ∈ t.parts, ∀ c ∈ u.leadingClass?, (spelled c).head? ≠ some (.word "suspend")

namespace Readable

variable {c : ClassName} {as : List TypeArgument} {r : Option TypeExpr} {ps : List TypeExpr}
  {t u : TypeExpr} {v : Variance} {q s : Bool}

theorem argument (h : Readable spelled meant (.classType c as q)) (mem : .of v u ∈ as) :
    Readable spelled meant u :=
  ⟨fun d hd => h.spells d (mem_classNames_classType.2 (.inr ⟨v, u, mem, hd⟩)),
    fun w hw => h.clear w (mem_parts_classType.2 (.inr ⟨v, u, mem, hw⟩))⟩

theorem receiver (h : Readable spelled meant (.functionType (some u) ps t q s)) :
    Readable spelled meant u :=
  ⟨fun d hd => h.spells d (mem_classNames_functionType.2 (.inl ⟨u, rfl, hd⟩)),
    fun w hw => h.clear w (mem_parts_functionType.2 (.inr (.inl ⟨u, rfl, hw⟩)))⟩

theorem parameter (h : Readable spelled meant (.functionType r ps t q s)) (mem : u ∈ ps) :
    Readable spelled meant u :=
  ⟨fun d hd => h.spells d (mem_classNames_functionType.2 (.inr (.inl ⟨u, mem, hd⟩))),
    fun w hw => h.clear w (mem_parts_functionType.2 (.inr (.inr (.inl ⟨u, mem, hw⟩))))⟩

theorem returns (h : Readable spelled meant (.functionType r ps t q s)) :
    Readable spelled meant t :=
  ⟨fun d hd => h.spells d (mem_classNames_functionType.2 (.inr (.inr hd))),
    fun w hw => h.clear w (mem_parts_functionType.2 (.inr (.inr (.inr hw))))⟩

/-- Without the keyword, a function type begins with an opening parenthesis or with a name that is
not the keyword. -/
theorem clear_self (h : Readable spelled meant
    (.functionType (some (.classType c as q)) ps t s false)) :
    (spelled c).head? ≠ some (.word "suspend") :=
  h.clear _ (mem_parts_functionType.2 (.inl rfl)) c rfl

end Readable

/-! ### The derivation of a printed type -/

variable {as : List TypeArgument} {r : Option TypeExpr} {ps : List TypeExpr} {t : TypeExpr}
  {q s : Bool}

variable (spelled meant) in
/-- A printed type is spelled: a function type without a mark by its rule, every other type as a
nullable one. -/
def Prints (t : TypeExpr) : Prop :=
  if t.isBareFunction then SpellsFunction Spelled (layout spelled t.pieces) (t.mapNames meant)
  else SpellsNullable Spelled (layout spelled t.pieces) (t.mapNames meant)

theorem Prints.spells (h : Prints spelled meant t) :
    Spelled (layout spelled t.pieces) (t.mapNames meant) := by
  unfold Prints at h
  split at h
  · exact .function h
  · exact .nullable h

/-- As a receiver, too, a type is written so that it is a nullable one. -/
theorem Prints.receiver (h : Prints spelled meant t) :
    SpellsNullable Spelled (layout spelled (receiverForm t)) (t.mapNames meant) := by
  rw [layout_receiverForm]
  have inner := h.spells
  unfold Prints at h
  split at h <;> rename_i bare
  · rw [if_pos bare]
    simpa using SpellsNullable.marks 0 (.parenthesized inner)
  · rwa [if_neg bare]

theorem spells_argument {a : TypeArgument}
    (each : ∀ v u, a = .of v u → Prints spelled meant u) :
    SpellsArgument Spelled (layout spelled a.pieces) (a.mapNames meant) := by
  cases a with
  | star =>
    rw [layout_star]
    exact .star
  | of v u =>
    have inner := (each v u rfl).spells
    rw [layout_of]
    cases v with
    | invariant => exact .invariant inner
    | covariant => exact .covariant inner
    | contravariant => exact .contravariant inner

theorem spells_arguments (each : ∀ v u, .of v u ∈ as → Prints spelled meant u) :
    SpellsArguments Spelled (layout spelled (argumentPieces as)) (mapArguments meant as) := by
  cases as with
  | nil => exact .none
  | cons a as =>
    rw [layout_argumentPieces, mapArguments_eq_map]
    exact .items (f := fun a : TypeArgument => layout spelled a.pieces)
      fun b mem => spells_argument fun v u same => each v u (same ▸ mem)

theorem spells_parameters (each : ∀ u ∈ ps, Prints spelled meant u) :
    SpellsParameters Spelled (.opening :: (layout spelled (parameterPieces ps) ++ [.closing]))
      (mapParameters meant ps) := by
  cases ps with
  | nil => exact .none
  | cons u us =>
    rw [layout_parameterPieces, mapParameters_eq_map, List.append_assoc]
    exact .items (f := fun u : TypeExpr => layout spelled u.pieces) false
      fun v mem => .plain (each v mem).spells

/-- A function type without the keyword does not begin with it. -/
theorem head?_ne_suspend (readable : Readable spelled meant (.functionType r ps t q false))
    (more : List Token) :
    (layout spelled (receiverPieces r) ++ .opening :: more).head? ≠ some (.word "suspend") := by
  cases r with
  | none => simp [receiverPieces]
  | some u =>
    rw [layout_receiverPieces, layout_receiverForm]
    cases u with
    | classType c as q =>
      obtain ⟨first, rest, s, ss, spelling, -⟩ :=
        readable.receiver.spells c (mem_classNames_classType.2 (.inl rfl))
      have clear := readable.clear_self
      rw [spelling] at clear
      rw [if_neg (by simp [TypeExpr.isBareFunction]), layout_classType, spelling]
      exact clear
    | functionType r' ps' t' q' s' =>
      cases q' <;> simp [TypeExpr.isBareFunction, layout_nullableFunction]

/-- Without its mark a function type is spelled by its rule. -/
theorem spells_function (readable : Readable spelled meant (.functionType r ps t q s))
    (receiver : ∀ u, r = some u → Prints spelled meant u)
    (parameters : ∀ u ∈ ps, Prints spelled meant u) (returns : Prints spelled meant t) :
    SpellsFunction Spelled (layout spelled (TypeExpr.functionType r ps t false s).pieces)
      ((TypeExpr.functionType r ps t false s).mapNames meant) := by
  have received : SpellsReceiver Spelled (layout spelled (receiverPieces r))
      (mapReceiver meant r) := by
    cases r with
    | none => exact .none
    | some u =>
      rw [layout_receiverPieces]
      exact .some (receiver u rfl).receiver
  have arrow := SpellsFunction.arrow s received (spells_parameters parameters) returns.spells
    fun plain => by
      subst plain
      exact head?_ne_suspend readable _
  simp only [List.append_assoc, List.cons_append, List.nil_append] at arrow
  rw [layout_functionType]
  exact arrow

/-- Printed types are spelled, whatever the classes are called. -/
theorem Readable.prints (readable : Readable spelled meant t) : Prints spelled meant t := by
  induction t using TypeExpr.induct with
  | classType c as q ih =>
    have arguments := spells_arguments fun v u mem => ih v u mem (readable.argument mem)
    have name := readable.spells c (mem_classNames_classType.2 (.inl rfl))
    have primary := SpellsPrimary.name name arguments
    change SpellsNullable _ _ _
    rw [layout_classType, ← List.append_assoc]
    cases q with
    | true => exact .marks 1 primary
    | false => exact .marks 0 primary
  | functionType r ps t q s receiver parameters returns =>
    have plain := spells_function readable
      (fun u same => receiver u same (by subst same; exact readable.receiver))
      (fun u mem => parameters u mem (readable.parameter mem)) (returns readable.returns)
    cases q with
    | false => exact plain
    | true =>
      have nullable := SpellsNullable.marks 1 (.parenthesized (Spelled.function plain))
      rw [List.cons_append, List.append_assoc] at nullable
      change SpellsNullable _ _ _
      rw [layout_nullableFunction]
      exact nullable

end

end AssistedInjection.Kotlin
