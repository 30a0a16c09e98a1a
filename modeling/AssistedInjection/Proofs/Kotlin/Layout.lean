import AssistedInjection.Proofs.Kotlin.Lexing
import AssistedInjection.Proofs.Kotlin.Parts

/-!
The tokens of a printed type. Fixed text around a name starts with a mark wherever it follows the
name, and ends with a mark or a blank; so the text of a type is cut between its pieces, whatever the
classes are called.

    |suspend |A|.(|B|) -> |C|?|    ──▶    w  w  . (  w  ) ->  w  ?
-/

namespace AssistedInjection.Kotlin

/-- The tokens of a piece. -/
def Piece.tokens (spelled : ClassName → List Token) : Piece → List Token
  | .text s => cut s.toList
  | .name c => spelled c

/-- The tokens of some pieces. -/
def layout (spelled : ClassName → List Token) (ps : List Piece) : List Token :=
  ps.flatMap (Piece.tokens spelled)

section

variable (spelled : ClassName → List Token)

@[simp]
theorem layout_nil : layout spelled [] = [] := rfl

@[simp]
theorem layout_append (ps qs : List Piece) :
    layout spelled (ps ++ qs) = layout spelled ps ++ layout spelled qs :=
  List.flatMap_append

@[simp]
theorem layout_name (c : ClassName) (ps : List Piece) :
    layout spelled (.name c :: ps) = spelled c ++ layout spelled ps := rfl

theorem layout_text (s : String) (ps : List Piece) :
    layout spelled (.text s :: ps) = cut s.toList ++ layout spelled ps := rfl

end

/-! ### Text between names -/

/-- The text around the names in types. -/
def fixedTexts : List String :=
  ["<", ", ", ">", "?", "*", "out ", "in ", "suspend ", "(", ")", ")?", ") -> ", "."]

theorem cut_fixedTexts :
    cut "<".toList = [.less] ∧ cut ", ".toList = [.comma] ∧ cut ">".toList = [.greater] ∧
      cut "?".toList = [.question] ∧ cut "*".toList = [.star] ∧
      cut "out ".toList = [.word "out"] ∧ cut "in ".toList = [.word "in"] ∧
      cut "suspend ".toList = [.word "suspend"] ∧ cut "(".toList = [.opening] ∧
      cut ")".toList = [.closing] ∧ cut ")?".toList = [.closing, .question] ∧
      cut ") -> ".toList = [.closing, .arrow] ∧ cut ".".toList = [.dot] := by
  decide +kernel

/-- Text around names and between the parts of types, and its tokens. -/
def joints : List (String × List Token) :=
  [("<", [.less]), (", ", [.comma]), (",", [.comma]), (">", [.greater]), ("?", [.question]),
    ("*", [.star]), ("out ", [.word "out"]), ("in ", [.word "in"]), ("suspend ", [.word "suspend"]),
    ("(", [.opening]), (")", [.closing]), (")?", [.closing, .question]), (").", [.closing, .dot]),
    (") -> ", [.closing, .arrow]), (".", [.dot]), (":", [.colon])]

section

variable {s : String} {ts : List Token}

theorem cut_joint (mem : (s, ts) ∈ joints) : cut s.toList = ts := by
  have all : ∀ j ∈ joints, cut j.1.toList = j.2 := by decide +kernel
  exact all _ mem

/-- Text between parts ends with a mark or a blank. -/
theorem cut_joint_append (mem : (s, ts) ∈ joints) (cs : List Char) :
    cut (s.toList ++ cs) = ts ++ cut cs := by
  have whole : ∀ j ∈ joints, j.2.all fun | .stray _ => false | _ => true := by decide
  have ends : ∀ j ∈ joints, j.1.toList.getLast?.all fun x => !continuesWord x := by
    decide +kernel
  refine cut_fixed (cut_joint mem) (fun x stray => ?_) (fun x last => ?_) cs
  · simpa using List.all_eq_true.1 (whole _ mem) _ stray
  · simpa using (Option.all_eq_true ..).1 (ends _ mem) x last

theorem cut_fixedText (mem : s ∈ fixedTexts) (cs : List Char) :
    cut (s.toList ++ cs) = cut s.toList ++ cut cs := by
  have known : ∀ s ∈ fixedTexts, s ∈ joints.map (·.1) := by decide
  obtain ⟨⟨_, ts⟩, joint, rfl⟩ := List.mem_map.1 (known s mem)
  rw [cut_joint_append joint, cut_joint joint]

end

/-! ### Pieces put together -/

/-- What is kept as pieces are put together: `P` holds of pieces that may come after fixed text, and
`F` of those that may also follow a name. -/
structure Composes (names : List ClassName) (P F : List Piece → Prop) : Prop where
  nil : F []
  weaken {ps : List Piece} : F ps → P ps
  append {ps qs : List Piece} : P ps → F qs → P (ps ++ qs)
  follow {ps qs : List Piece} : F ps → F qs → F (ps ++ qs)
  text {s : String} {ps : List Piece} : s ∈ fixedTexts → P ps → P (.text s :: ps)
  mark {s : String} {ps : List Piece} : s ∈ fixedTexts →
    (∃ c cs, s.toList = c :: cs ∧ ¬ continuesWord c) → P ps → F (.text s :: ps)
  name {c : ClassName} {ps : List Piece} : c ∈ names → F ps → P (.name c :: ps)

namespace Composes

variable {names : List ClassName} {P F : List Piece → Prop} (h : Composes names P F)

include h

theorem flatMap {α : Type} {f : α → List Piece} {l : List α} (each : ∀ a ∈ l, P (f a)) :
    F (l.flatMap fun a => .text ", " :: f a) := by
  induction l with
  | nil => exact h.nil
  | cons a l ih =>
    obtain ⟨first, rest⟩ := List.forall_mem_cons.1 each
    rw [List.flatMap_cons, List.cons_append]
    exact h.mark (by decide) ⟨',', [' '], rfl, by decide⟩ (h.append first (ih rest))

theorem argumentPieces {as : List TypeArgument} (each : ∀ a ∈ as, P a.pieces) :
    F (argumentPieces as) := by
  cases as with
  | nil => exact h.nil
  | cons a as =>
    obtain ⟨first, rest⟩ := List.forall_mem_cons.1 each
    have closing : F [.text ">"] :=
      h.mark (by decide) ⟨'>', [], rfl, by decide⟩ (h.weaken h.nil)
    rw [Kotlin.argumentPieces, moreArgumentPieces_eq_flatMap, List.append_assoc, List.cons_append]
    exact h.mark (by decide) ⟨'<', [], rfl, by decide⟩
      (h.append first (h.follow (h.flatMap rest) closing))

theorem parameterPieces {ts : List TypeExpr} (each : ∀ t ∈ ts, P t.pieces) :
    P (parameterPieces ts) := by
  cases ts with
  | nil => exact h.weaken h.nil
  | cons t ts =>
    obtain ⟨first, rest⟩ := List.forall_mem_cons.1 each
    rw [Kotlin.parameterPieces, moreParameterPieces_eq_flatMap]
    exact h.append first (h.flatMap rest)

theorem enclosed {ps : List Piece} (inner : P ps) (marked : Bool) {s : String}
    (closing : s = ")" ∨ s = ")?") : P (enclosed marked "(" ps s) := by
  have closing : F [.text s] := by
    rcases closing with rfl | rfl
    · exact h.mark (by decide) ⟨')', [], rfl, by decide⟩ (h.weaken h.nil)
    · exact h.mark (by decide) ⟨')', ['?'], rfl, by decide⟩ (h.weaken h.nil)
  cases marked with
  | true => exact h.text (by decide) (h.append inner closing)
  | false => exact inner

/-- Types are put together from fixed text and the names of their classes. -/
theorem pieces {t : TypeExpr} (all : ∀ c ∈ t.classNames, c ∈ names) : P t.pieces := by
  induction t using TypeExpr.induct with
  | classType c as q ih =>
    simp only [mem_classNames_classType] at all
    have arguments : ∀ a ∈ as, P a.pieces := by
      intro a mem
      cases a with
      | of v u =>
        have type := ih v u mem fun d hd => all d (.inr ⟨v, u, mem, hd⟩)
        cases v with
        | invariant => exact type
        | covariant => exact h.text (by decide) type
        | contravariant => exact h.text (by decide) type
      | star => exact h.text (by decide) (h.weaken h.nil)
    have mark : F (if q then [.text "?"] else []) := by
      split
      · exact h.mark (by decide) ⟨'?', [], rfl, by decide⟩ (h.weaken h.nil)
      · exact h.nil
    rw [TypeExpr.pieces, List.cons_append]
    exact h.name (all c (.inl rfl)) (h.follow (h.argumentPieces arguments) mark)
  | functionType r ps t q s receiver parameters returns =>
    simp only [mem_classNames_functionType] at all
    have parameters : P (Kotlin.parameterPieces ps) := h.parameterPieces fun u mem =>
      parameters u mem fun d hd => all d (.inr (.inl ⟨u, mem, hd⟩))
    have returns : F (.text ") -> " :: t.pieces) :=
      h.mark (by decide) ⟨')', [' ', '-', '>', ' '], rfl, by decide⟩
        (returns fun d hd => all d (.inr (.inr hd)))
    have list : F (.text "(" :: (Kotlin.parameterPieces ps ++ .text ") -> " :: t.pieces)) :=
      h.mark (by decide) ⟨'(', [], rfl, by decide⟩ (h.append parameters returns)
    have receiver : P (receiverPieces r) := by
      cases r with
      | none => exact h.weaken h.nil
      | some u =>
        have dot : F [.text "."] :=
          h.mark (by decide) ⟨'.', [], rfl, by decide⟩ (h.weaken h.nil)
        have type := receiver u rfl fun d hd => all d (.inl ⟨u, rfl, hd⟩)
        exact h.append (h.enclosed type _ (.inl rfl)) dot
    have plain := h.append receiver list
    rw [TypeExpr.pieces]
    refine h.enclosed ?_ q (.inr rfl)
    rw [List.append_assoc, List.append_assoc, List.cons_append]
    cases s with
    | true => exact h.text (by decide) plain
    | false => exact plain

end Composes

/-- Fixed text, or the name of one of some classes. -/
def Piece.Among (names : List ClassName) : Piece → Prop
  | .text s => s ∈ fixedTexts
  | .name c => c ∈ names

/-- Printed types are made of fixed text and the names of their classes. -/
theorem TypeExpr.among_pieces (t : TypeExpr) : ∀ p ∈ t.pieces, p.Among t.classNames := by
  have text {s : String} {ps : List Piece} (fixed : s ∈ fixedTexts)
      (all : ∀ p ∈ ps, p.Among t.classNames) : ∀ p ∈ .text s :: ps, p.Among t.classNames :=
    List.forall_mem_cons.2 ⟨fixed, all⟩
  have composes : Composes t.classNames (fun ps => ∀ p ∈ ps, p.Among t.classNames)
      (fun ps => ∀ p ∈ ps, p.Among t.classNames) := {
    nil := List.forall_mem_nil _
    weaken all := all
    append all all' := List.forall_mem_append.2 ⟨all, all'⟩
    follow all all' := List.forall_mem_append.2 ⟨all, all'⟩
    text := text
    mark fixed _ := text fixed
    name among all := List.forall_mem_cons.2 ⟨among, all⟩ }
  exact composes.pieces fun c mem => mem

/-! ### Cutting between pieces -/

/-- What no word goes on with. -/
def Stops (cs : List Char) : Prop := ∀ y ∈ cs.head?, ¬ continuesWord y

variable (spelling : ClassName → String)

/-- The characters of some pieces. -/
def characters (ps : List Piece) : List Char := ps.flatMap fun p => (p.spell spelling).toList

/-- The tokens of each class name. -/
abbrev spelledTokens (c : ClassName) : List Token := cut (spelling c).toList

/-- Pieces that are cut off from what follows them, if no word goes on there. -/
def Cuts (ps : List Piece) : Prop :=
  ∀ cs, Stops cs →
    cut (characters spelling ps ++ cs) = layout (spelledTokens spelling) ps ++ cut cs

/-- Pieces that may follow a name. -/
structure Follow (ps : List Piece) : Prop where
  cuts : Cuts spelling ps
  stops : ∀ cs, Stops cs → Stops (characters spelling ps ++ cs)

variable {spelling} {ps qs : List Piece} {s : String}

@[simp]
theorem characters_append :
    characters spelling (ps ++ qs) = characters spelling ps ++ characters spelling qs :=
  List.flatMap_append

theorem Cuts.append (h : Cuts spelling ps) (h' : Follow spelling qs) :
    Cuts spelling (ps ++ qs) := by
  intro cs stops
  rw [characters_append, List.append_assoc, h _ (h'.stops cs stops), h'.cuts cs stops,
    layout_append, List.append_assoc]

theorem Follow.append (h : Follow spelling ps) (h' : Follow spelling qs) :
    Follow spelling (ps ++ qs) := by
  refine ⟨h.cuts.append h', fun cs stops => ?_⟩
  rw [characters_append, List.append_assoc]
  exact h.stops _ (h'.stops cs stops)

theorem Cuts.text (fixed : s ∈ fixedTexts) (h : Cuts spelling ps) :
    Cuts spelling (.text s :: ps) := by
  intro cs stops
  have split : characters spelling (.text s :: ps) ++ cs
      = s.toList ++ (characters spelling ps ++ cs) := List.append_assoc ..
  rw [split, cut_fixedText fixed, h cs stops, layout_text, List.append_assoc]

theorem Follow.text (fixed : s ∈ fixedTexts) (mark : ∃ c cs, s.toList = c :: cs ∧ ¬ continuesWord c)
    (h : Cuts spelling ps) : Follow spelling (.text s :: ps) := by
  refine ⟨h.text fixed, fun cs _ => ?_⟩
  obtain ⟨c, more, front, stop⟩ := mark
  intro y first
  have head : (characters spelling (.text s :: ps) ++ cs).head? = some c := by
    change (s.toList ++ characters spelling ps ++ cs).head? = some c
    rw [front]
    rfl
  cases head ▸ first
  exact stop

theorem Cuts.name {c : ClassName} (whole : ∀ x, .stray x ∉ spelledTokens spelling c)
    (h : Follow spelling ps) : Cuts spelling (.name c :: ps) := by
  have characters_name : characters spelling [.name c] = (spelling c).toList := by
    simp [characters, Piece.spell]
  have name : Cuts spelling [.name c] := by
    intro cs stops
    rw [characters_name, cut_append whole fun _ _ y hy _ => stops y hy]
    simp
  exact name.append h

/-- The text of a type is cut between its pieces. -/
theorem TypeExpr.cuts_pieces {t : TypeExpr}
    (whole : ∀ c ∈ t.classNames, ∀ x, .stray x ∉ spelledTokens spelling c) :
    Cuts spelling t.pieces := by
  have composes : Composes t.classNames (Cuts spelling) (Follow spelling) := {
    nil := ⟨fun _ _ => rfl, fun _ stops => stops⟩
    weaken := Follow.cuts
    append := Cuts.append
    follow := Follow.append
    text := Cuts.text
    mark := Follow.text
    name among := Cuts.name (whole _ among) }
  exact composes.pieces fun c mem => mem

/-- The tokens of the text of a type are those of its pieces. -/
theorem TypeExpr.tokens_write {t : TypeExpr}
    (whole : ∀ c ∈ t.classNames, ∀ x, .stray x ∉ spelledTokens spelling c) :
    tokens (t.write spelling) = layout (spelledTokens spelling) t.pieces := by
  have all : (t.write spelling).toList = characters spelling t.pieces ++ [] := by
    simp [write, characters, String.toList_join, List.flatMap_def, Function.comp_def]
  change cut (t.write spelling).toList = _
  rw [all, TypeExpr.cuts_pieces whole [] (by simp [Stops]), cut_nil, List.append_nil]

/-! ### Each form of a type -/

section

variable (spelled : ClassName → List Token) (c : ClassName) (a : TypeArgument)
  (as : List TypeArgument) (r : Option TypeExpr) (t : TypeExpr) (ts : List TypeExpr) (s : Bool)

/-- The token before a type argument. -/
def Variance.tokens : Variance → List Token
  | .invariant => []
  | .covariant => [.word "out"]
  | .contravariant => [.word "in"]

/-- The receiver as it is written before its dot. -/
def receiverForm (t : TypeExpr) : List Piece := enclosed t.isBareFunction "(" t.pieces ")"

theorem layout_classType (q : Bool) :
    layout spelled (TypeExpr.classType c as q).pieces
      = spelled c ++ (layout spelled (argumentPieces as) ++ if q then [.question] else []) := by
  rw [TypeExpr.pieces, List.cons_append, layout_name, layout_append]
  cases q
  · rfl
  · simp only [if_true, layout_text, layout_nil, cut_fixedTexts, List.append_nil]

theorem layout_flatMap {α : Type} (f : α → List Piece) (l : List α) :
    layout spelled (l.flatMap fun a => .text ", " :: f a)
      = l.flatMap fun a => .comma :: layout spelled (f a) := by
  induction l with
  | nil => rfl
  | cons a l ih =>
    simp only [List.flatMap_cons, layout_append, layout_text, cut_fixedTexts, ih]
    rfl

theorem layout_argumentPieces :
    layout spelled (argumentPieces (a :: as))
      = .less :: (layout spelled a.pieces ++
          (as.flatMap (fun a => .comma :: layout spelled a.pieces) ++ [.greater])) := by
  simp only [argumentPieces, moreArgumentPieces_eq_flatMap, layout_append, layout_flatMap,
    layout_text, cut_fixedTexts, layout_nil, List.append_assoc, List.cons_append, List.append_nil,
    List.nil_append]

theorem layout_of (v : Variance) :
    layout spelled (TypeArgument.of v t).pieces = v.tokens ++ layout spelled t.pieces := by
  cases v
  · rfl
  all_goals
    simp only [TypeArgument.pieces, Variance.keyword, Variance.tokens, List.singleton_append,
      layout_text, cut_fixedTexts]

theorem layout_star : layout spelled TypeArgument.star.pieces = [.star] := by
  simp only [TypeArgument.pieces, layout_text, cut_fixedTexts, layout_nil, List.append_nil]

theorem layout_receiverForm :
    layout spelled (receiverForm t)
      = if t.isBareFunction then .opening :: (layout spelled t.pieces ++ [.closing])
        else layout spelled t.pieces := by
  unfold receiverForm enclosed
  split
  · simp only [layout_append, layout_text, cut_fixedTexts, layout_nil, List.cons_append,
      List.append_nil, List.nil_append]
  · rfl

theorem layout_receiverPieces :
    layout spelled (receiverPieces (some t)) = layout spelled (receiverForm t) ++ [.dot] := by
  simp only [receiverPieces, receiverForm, layout_append, layout_text, cut_fixedTexts, layout_nil,
    List.append_nil]

theorem layout_parameterPieces :
    layout spelled (parameterPieces (t :: ts))
      = layout spelled t.pieces ++ ts.flatMap fun t => .comma :: layout spelled t.pieces := by
  rw [parameterPieces, moreParameterPieces_eq_flatMap, layout_append, layout_flatMap]

theorem layout_functionType :
    layout spelled (TypeExpr.functionType r ts t false s).pieces
      = (if s then [.word "suspend"] else []) ++ (layout spelled (receiverPieces r) ++
          .opening :: (layout spelled (parameterPieces ts) ++
            .closing :: .arrow :: layout spelled t.pieces)) := by
  have keyword : layout spelled (if s then [.text "suspend "] else [])
      = if s then [.word "suspend"] else [] := by
    cases s
    · rfl
    · simp only [if_true, layout_text, cut_fixedTexts, layout_nil, List.append_nil]
  simp only [TypeExpr.pieces, enclosed, Bool.false_eq_true, if_false, layout_append, layout_text,
    cut_fixedTexts, keyword, List.append_assoc, List.cons_append, List.nil_append]

/-- A nullable function type is the plain one in parentheses, with a mark. -/
theorem layout_nullableFunction :
    layout spelled (TypeExpr.functionType r ts t true s).pieces
      = .opening :: (layout spelled (TypeExpr.functionType r ts t false s).pieces ++
          [.closing, .question]) := by
  simp only [TypeExpr.pieces, enclosed, Bool.false_eq_true, if_true, if_false, layout_append,
    layout_text, cut_fixedTexts, layout_nil, List.append_assoc, List.cons_append, List.append_nil,
    List.nil_append]

end

end AssistedInjection.Kotlin
