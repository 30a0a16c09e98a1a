import AssistedInjection.Kotlin.TypeExpr.Printer

/-!
Types by their parts. The lists inside a type are handled one element after the other, so whatever
is gathered from them is gathered from each; and what holds of a type whenever it holds of the types
right inside it holds of every type. So the classes that a type is laid out with are those that it
mentions, in one order.

    suspend A.(B<out C>) -> D        its parts: the type itself, A, B<out C>, C, D
                                     its classes: A, B, C, D
-/

namespace AssistedInjection.Kotlin

/-! ### Lists inside a type -/

theorem argumentClassNames_eq_flatMap (as : List TypeArgument) :
    argumentClassNames as = as.flatMap (·.classNames) := by
  induction as with
  | nil => rfl
  | cons a as ih => rw [argumentClassNames, ih, List.flatMap_cons]

theorem parameterClassNames_eq_flatMap (ts : List TypeExpr) :
    parameterClassNames ts = ts.flatMap (·.classNames) := by
  induction ts with
  | nil => rfl
  | cons t ts ih => rw [parameterClassNames, ih, List.flatMap_cons]

theorem moreArgumentPieces_eq_flatMap (as : List TypeArgument) :
    moreArgumentPieces as = as.flatMap fun a => .text ", " :: a.pieces := by
  induction as with
  | nil => rfl
  | cons a as ih => rw [moreArgumentPieces, ih, List.flatMap_cons]

theorem moreParameterPieces_eq_flatMap (ts : List TypeExpr) :
    moreParameterPieces ts = ts.flatMap fun t => .text ", " :: t.pieces := by
  induction ts with
  | nil => rfl
  | cons t ts ih => rw [moreParameterPieces, ih, List.flatMap_cons]

namespace TypeExpr

/-- Induction on types, with the lists in between left out. -/
theorem induct {P : TypeExpr → Prop}
    (classType : ∀ c as q, (∀ v u, .of v u ∈ as → P u) → P (.classType c as q))
    (functionType : ∀ r ps t q s, (∀ u, r = some u → P u) → (∀ u ∈ ps, P u) → P t →
      P (.functionType r ps t q s)) : (t : TypeExpr) → P t
  | .classType c as q => classType c as q fun _ u _mem => induct classType functionType u
  | .functionType r ps t q s =>
    functionType r ps t q s (fun u _within => induct classType functionType u)
      (fun u _mem => induct classType functionType u) (induct classType functionType t)
termination_by t => sizeOf t
decreasing_by
  · have := List.sizeOf_lt_of_mem _mem
    simp at this ⊢
    omega
  · subst _within
    simp
    omega
  · have := List.sizeOf_lt_of_mem _mem
    simp
    omega
  · simp
    omega

end TypeExpr

/-! ### The types inside -/

mutual

/-- A type and all types inside it, with repetitions. -/
def TypeExpr.parts : TypeExpr → List TypeExpr
  | t@(.classType _ arguments _) => t :: argumentParts arguments
  | t@(.functionType receiver parameters returns _ _) =>
    t :: (receiverParts receiver ++ (parameterParts parameters ++ returns.parts))

/-- All types in a type argument. -/
def TypeArgument.parts : TypeArgument → List TypeExpr
  | .of _ type => type.parts
  | .star => []

/-- All types in an argument list. -/
def argumentParts : List TypeArgument → List TypeExpr
  | [] => []
  | a :: as => a.parts ++ argumentParts as

/-- All types in a receiver. -/
def receiverParts : Option TypeExpr → List TypeExpr
  | none => []
  | some t => t.parts

/-- All types in a parameter list. -/
def parameterParts : List TypeExpr → List TypeExpr
  | [] => []
  | t :: ts => t.parts ++ parameterParts ts

end

/-! ### Other names for the classes -/

mutual

/-- The type with each class called by another name. -/
def TypeExpr.mapNames (f : ClassName → ClassName) : TypeExpr → TypeExpr
  | .classType name arguments nullable => .classType (f name) (mapArguments f arguments) nullable
  | .functionType receiver parameters returns nullable suspending =>
    .functionType (mapReceiver f receiver) (mapParameters f parameters) (returns.mapNames f)
      nullable suspending

/-- The type argument with each class called by another name. -/
def TypeArgument.mapNames (f : ClassName → ClassName) : TypeArgument → TypeArgument
  | .of variance type => .of variance (type.mapNames f)
  | .star => .star

/-- The argument list with each class called by another name. -/
def mapArguments (f : ClassName → ClassName) : List TypeArgument → List TypeArgument
  | [] => []
  | a :: as => a.mapNames f :: mapArguments f as

/-- The receiver with each class called by another name. -/
def mapReceiver (f : ClassName → ClassName) : Option TypeExpr → Option TypeExpr
  | none => none
  | some t => some (t.mapNames f)

/-- The parameters with each class called by another name. -/
def mapParameters (f : ClassName → ClassName) : List TypeExpr → List TypeExpr
  | [] => []
  | t :: ts => t.mapNames f :: mapParameters f ts

end

theorem mapArguments_eq_map (f : ClassName → ClassName) (as : List TypeArgument) :
    mapArguments f as = as.map (·.mapNames f) := by
  induction as with
  | nil => rfl
  | cons a as ih => rw [mapArguments, ih, List.map_cons]

theorem mapParameters_eq_map (f : ClassName → ClassName) (ts : List TypeExpr) :
    mapParameters f ts = ts.map (·.mapNames f) := by
  induction ts with
  | nil => rfl
  | cons t ts ih => rw [mapParameters, ih, List.map_cons]

theorem argumentParts_eq_flatMap (as : List TypeArgument) :
    argumentParts as = as.flatMap (·.parts) := by
  induction as with
  | nil => rfl
  | cons a as ih => rw [argumentParts, ih, List.flatMap_cons]

theorem parameterParts_eq_flatMap (ts : List TypeExpr) :
    parameterParts ts = ts.flatMap (·.parts) := by
  induction ts with
  | nil => rfl
  | cons t ts ih => rw [parameterParts, ih, List.flatMap_cons]

/-! ### What is inside -/

theorem mem_flatMap_argument {α : Type} {f : TypeArgument → List α} {g : TypeExpr → List α}
    (of : ∀ v u, f (.of v u) = g u) (star : f .star = []) {x : α} {as : List TypeArgument} :
    x ∈ as.flatMap f ↔ ∃ v u, .of v u ∈ as ∧ x ∈ g u := by
  rw [List.mem_flatMap]
  constructor
  · rintro ⟨_ | _, mem, hx⟩
    · exact ⟨_, _, mem, of .. ▸ hx⟩
    · rw [star] at hx
      cases hx
  · rintro ⟨v, u, mem, hx⟩
    exact ⟨_, mem, of v u ▸ hx⟩

section

variable {c d : ClassName} {as : List TypeArgument} {r : Option TypeExpr} {ps : List TypeExpr}
  {t v : TypeExpr} {q s : Bool}

theorem mem_classNames_classType :
    d ∈ (TypeExpr.classType c as q).classNames ↔
      d = c ∨ ∃ v u, .of v u ∈ as ∧ d ∈ u.classNames := by
  rw [TypeExpr.classNames, List.mem_cons, argumentClassNames_eq_flatMap,
    mem_flatMap_argument (g := TypeExpr.classNames) (fun _ _ => rfl) rfl]

theorem mem_classNames_functionType :
    d ∈ (TypeExpr.functionType r ps t q s).classNames ↔
      (∃ u, r = some u ∧ d ∈ u.classNames) ∨ (∃ u ∈ ps, d ∈ u.classNames) ∨
        d ∈ t.classNames := by
  cases r <;> simp [TypeExpr.classNames, parameterClassNames_eq_flatMap]

theorem mem_parts_classType :
    v ∈ (TypeExpr.classType c as q).parts ↔
      v = .classType c as q ∨ ∃ w u, .of w u ∈ as ∧ v ∈ u.parts := by
  rw [TypeExpr.parts, List.mem_cons, argumentParts_eq_flatMap,
    mem_flatMap_argument (g := TypeExpr.parts) (fun _ _ => rfl) rfl]

theorem mem_parts_functionType :
    v ∈ (TypeExpr.functionType r ps t q s).parts ↔
      v = .functionType r ps t q s ∨ (∃ u, r = some u ∧ v ∈ u.parts) ∨ (∃ u ∈ ps, v ∈ u.parts) ∨
        v ∈ t.parts := by
  cases r <;> simp [TypeExpr.parts, receiverParts, parameterParts_eq_flatMap]

end

/-- The classes of a type inside are classes of the whole type. -/
theorem TypeExpr.mem_classNames_of_mem_parts {d : ClassName} {t u : TypeExpr} (mem : u ∈ t.parts)
    (within : d ∈ u.classNames) : d ∈ t.classNames := by
  induction t using induct with
  | classType c as q ih =>
    rcases mem_parts_classType.1 mem with rfl | ⟨v, w, among, part⟩
    · exact within
    · exact mem_classNames_classType.2 (.inr ⟨v, w, among, ih v w among part⟩)
  | functionType r ps t q s receiver parameters returns =>
    rw [mem_classNames_functionType]
    rcases mem_parts_functionType.1 mem with rfl | ⟨w, rfl, part⟩ | ⟨w, among, part⟩ | part
    · exact mem_classNames_functionType.1 within
    · exact .inl ⟨w, rfl, receiver w rfl part⟩
    · exact .inr (.inl ⟨w, among, parameters w among part⟩)
    · exact .inr (.inr (returns part))

/-- Calling the classes by other names twice. -/
theorem TypeExpr.mapNames_mapNames (f g : ClassName → ClassName) (t : TypeExpr) :
    (t.mapNames f).mapNames g = t.mapNames (g ∘ f) := by
  induction t using induct with
  | classType c as q ih =>
    have arguments : as.map (fun a => (a.mapNames f).mapNames g) = as.map (·.mapNames (g ∘ f)) := by
      refine List.map_congr_left fun a mem => ?_
      cases a with
      | of v u => exact congrArg (TypeArgument.of v) (ih v u mem)
      | star => rfl
    simp only [mapNames, mapArguments_eq_map, List.map_map, Function.comp_def] at arguments ⊢
    rw [arguments]
  | functionType r ps t q s receiver parameters returns =>
    have parameters : ps.map (fun u => (u.mapNames f).mapNames g) = ps.map (·.mapNames (g ∘ f)) :=
      List.map_congr_left fun u mem => parameters u mem
    have receiver : mapReceiver g (mapReceiver f r) = mapReceiver (g ∘ f) r := by
      cases r with
      | none => rfl
      | some u => exact congrArg some (receiver u rfl)
    simp only [mapNames, mapParameters_eq_map, List.map_map, Function.comp_def] at parameters ⊢
    rw [parameters, receiver, returns]
    rfl

/-- A type whose classes keep their names stays as it is. -/
theorem TypeExpr.mapNames_eq_self {f : ClassName → ClassName} {t : TypeExpr}
    (same : ∀ c ∈ t.classNames, f c = c) : t.mapNames f = t := by
  induction t using induct with
  | classType c as q ih =>
    simp only [mem_classNames_classType] at same
    have arguments : as.map (·.mapNames f) = as.map id := by
      refine List.map_congr_left fun a mem => ?_
      cases a with
      | of v u => exact congrArg (TypeArgument.of v) (ih v u mem fun d hd =>
          same d (.inr ⟨v, u, mem, hd⟩))
      | star => rfl
    rw [mapNames, same c (.inl rfl), mapArguments_eq_map, arguments, List.map_id]
  | functionType r ps t q s receiver parameters returns =>
    simp only [mem_classNames_functionType] at same
    have parameters : ps.map (·.mapNames f) = ps.map id :=
      List.map_congr_left fun u mem =>
        parameters u mem fun d hd => same d (.inr (.inl ⟨u, mem, hd⟩))
    have receiver : mapReceiver f r = r := by
      cases r with
      | none => rfl
      | some u => exact congrArg some (receiver u rfl fun d hd => same d (.inl ⟨u, rfl, hd⟩))
    rw [mapNames, receiver, mapParameters_eq_map, parameters, List.map_id,
      returns fun d hd => same d (.inr (.inr hd))]

/-! ### The classes among the pieces -/

/-- The classes that some pieces name, from left to right. -/
def namesIn (ps : List Piece) : List ClassName := ps.filterMap Piece.name?

@[simp]
theorem namesIn_nil : namesIn [] = [] := rfl

@[simp]
theorem namesIn_append (ps qs : List Piece) : namesIn (ps ++ qs) = namesIn ps ++ namesIn qs :=
  List.filterMap_append

@[simp]
theorem namesIn_text (s : String) (ps : List Piece) : namesIn (.text s :: ps) = namesIn ps := rfl

@[simp]
theorem namesIn_name (c : ClassName) (ps : List Piece) :
    namesIn (.name c :: ps) = c :: namesIn ps := rfl

theorem mem_namesIn {c : ClassName} {ps : List Piece} : c ∈ namesIn ps ↔ .name c ∈ ps := by
  induction ps with
  | nil => simp
  | cons p ps ih => cases p <;> simp [ih]

@[simp]
theorem namesIn_enclosed (marked : Bool) (opening closing : String) (ps : List Piece) :
    namesIn (enclosed marked opening ps closing) = namesIn ps := by
  cases marked <;> simp [enclosed]

/-- Where each of several things has its classes among its pieces, so have all of them together. -/
theorem namesIn_flatMap {α : Type} {f : α → List Piece} {g : α → List ClassName} {l : List α}
    (each : ∀ a ∈ l, namesIn (f a) = g a) : namesIn (l.flatMap f) = l.flatMap g := by
  induction l with
  | nil => rfl
  | cons a l ih =>
    obtain ⟨first, rest⟩ := List.forall_mem_cons.1 each
    rw [List.flatMap_cons, namesIn_append, first, ih rest, List.flatMap_cons]

theorem namesIn_argumentPieces {as : List TypeArgument}
    (each : ∀ a ∈ as, namesIn a.pieces = a.classNames) :
    namesIn (argumentPieces as) = argumentClassNames as := by
  cases as with
  | nil => rfl
  | cons a as =>
    obtain ⟨first, rest⟩ := List.forall_mem_cons.1 each
    have more : namesIn (moreArgumentPieces as) = argumentClassNames as := by
      rw [moreArgumentPieces_eq_flatMap, argumentClassNames_eq_flatMap]
      exact namesIn_flatMap rest
    simp [argumentPieces, argumentClassNames, first, more]

theorem namesIn_parameterPieces {ts : List TypeExpr}
    (each : ∀ t ∈ ts, namesIn t.pieces = t.classNames) :
    namesIn (parameterPieces ts) = parameterClassNames ts := by
  cases ts with
  | nil => rfl
  | cons t ts =>
    obtain ⟨first, rest⟩ := List.forall_mem_cons.1 each
    have more : namesIn (moreParameterPieces ts) = parameterClassNames ts := by
      rw [moreParameterPieces_eq_flatMap, parameterClassNames_eq_flatMap]
      exact namesIn_flatMap rest
    simp [parameterPieces, parameterClassNames, first, more]

/-- A type is laid out with the classes that it mentions, in the same order and as often. -/
theorem TypeExpr.namesIn_pieces (t : TypeExpr) : namesIn t.pieces = t.classNames := by
  induction t using induct with
  | classType c as q ih =>
    have arguments : namesIn (argumentPieces as) = argumentClassNames as := by
      refine namesIn_argumentPieces fun a mem => ?_
      cases a with
      | of v u => cases v <;> exact ih _ u mem
      | star => rfl
    cases q <;> simp [pieces, classNames, arguments]
  | functionType r ps t q s receiver parameters returns =>
    have parameters := namesIn_parameterPieces parameters
    cases r with
    | none => cases s <;> simp [pieces, classNames, receiverPieces, parameters, returns]
    | some u =>
      have receiver := receiver u rfl
      cases s <;> simp [pieces, classNames, receiverPieces, receiver, parameters, returns]

end AssistedInjection.Kotlin
