import AssistedInjection.Proofs.Kotlin.Completeness
import AssistedInjection.Proofs.Kotlin.Layout

/-!
Texts of types put together. What a text is read as does not change when it becomes part of a larger
one, however it is written: between two parts stands a mark, so the tokens of the whole are those of
its parts, and the derivations of the parts make one of the whole.

    s = "`a b`.C ?"    x = "in"    ──▶    (s).(in:s, s) -> s      Q<out s, *>
-/

namespace AssistedInjection.Kotlin

open Grammar

/-! ### Stray characters -/

/-- Tokens without a stray character. -/
def Whole (ts : List Token) : Prop := ∀ x, .stray x ∉ ts

theorem whole_append {ts us : List Token} : Whole (ts ++ us) ↔ Whole ts ∧ Whole us := by
  simp [Whole, not_or, forall_and]

theorem whole_cons {t : Token} {ts : List Token} :
    Whole (t :: ts) ↔ (∀ x, t ≠ .stray x) ∧ Whole ts := by
  simp [Whole, not_or, forall_and, eq_comm]

theorem whole_nil : Whole [] := fun _ => List.not_mem_nil

theorem ne_stray_of_name {t : Token} (named : t.name?.isSome) (x : Char) : t ≠ .stray x := by
  rintro rfl
  cases named

theorem whole_commas {α : Type} {is : List (List Token × α)} (each : ∀ i ∈ is, Whole i.1) :
    Whole (commas is) := by
  induction is with
  | nil => exact whole_nil
  | cons i is ih =>
    obtain ⟨first, more⟩ := List.forall_mem_cons.1 each
    rw [commas_cons, whole_cons, whole_append]
    exact ⟨by simp, first, ih more⟩

section

variable {D : List Token → TypeExpr → Prop} (inside : ∀ {ts t}, D ts t → Whole ts)
  {ts : List Token} {t : TypeExpr}

include inside

theorem SpellsArgument.whole {a : TypeArgument} (h : SpellsArgument D ts a) : Whole ts := by
  cases h with
  | star => simp [Whole]
  | covariant inner => exact whole_cons.2 ⟨by simp, inside inner⟩
  | contravariant inner => exact whole_cons.2 ⟨by simp, inside inner⟩
  | invariant inner => exact inside inner

theorem SpellsParameter.whole (h : SpellsParameter D ts t) : Whole ts := by
  cases h with
  | plain inner => exact inside inner
  | labelled label inner =>
    exact whole_cons.2 ⟨ne_stray_of_name label, whole_cons.2 ⟨by simp, inside inner⟩⟩

theorem SpellsNullable.whole (h : SpellsNullable D ts t) : Whole ts := by
  obtain ⟨n, primary⟩ := h
  refine whole_append.2 ⟨?_, fun x mem => by cases (List.mem_replicate.1 mem).2⟩
  cases primary with
  | name name arguments =>
    refine whole_append.2 ⟨name.whole, ?_⟩
    cases arguments with
    | none => exact whole_nil
    | some each =>
      obtain ⟨first, more⟩ := List.forall_mem_cons.1 each
      have listed := whole_commas fun i mem => (more i mem).whole inside
      simp [whole_cons, whole_append, whole_nil, first.whole inside, listed]
  | parenthesized inner => simp [whole_cons, whole_append, whole_nil, inside inner]

theorem SpellsFunction.whole (h : SpellsFunction D ts t) : Whole ts := by
  obtain ⟨s, receiver, parameters, returns, -⟩ := h
  have keyword : Whole (if s then [.word "suspend"] else []) := by
    cases s <;> simp [Whole]
  refine whole_append.2 ⟨keyword, whole_append.2 ⟨?_, whole_append.2 ⟨?_, ?_⟩⟩⟩
  · cases receiver with
    | none => exact whole_nil
    | some receiver => simp [whole_cons, whole_append, whole_nil, receiver.whole inside]
  · cases parameters with
    | none => simp [Whole]
    | some last each =>
      obtain ⟨first, more⟩ := List.forall_mem_cons.1 each
      have listed := whole_commas fun i mem => (more i mem).whole inside
      cases last <;> simp [whole_cons, whole_append, whole_nil, first.whole inside, listed]
  · exact whole_cons.2 ⟨by simp, inside returns⟩

end

theorem Spelled.whole {ts : List Token} {t : TypeExpr} (h : Spelled ts t) : Whole ts := by
  obtain ⟨n, h⟩ := h
  induction n generalizing ts t with
  | zero => cases h
  | succ n ih =>
    rcases h with function | nullable
    · exact function.whole ih
    · exact nullable.whole ih

/-! ### Texts -/

theorem tokens_joint {s : String} {l : List Token} (mem : (s, l) ∈ joints) : tokens s = l :=
  cut_joint mem

/-- A text is cut behind a joint. -/
theorem tokens_joint_append {s : String} {l : List Token} (mem : (s, l) ∈ joints) (u : String) :
    tokens (s ++ u) = l ++ tokens u := by
  change cut (s ++ u).toList = _
  rw [String.toList_append]
  exact cut_joint_append mem _

/-- A text that no word goes on with. -/
def Marked (s : String) : Prop := ∃ c cs, s.toList = c :: cs ∧ ¬ continuesWord c

theorem Marked.append {s : String} (h : Marked s) (u : String) : Marked (s ++ u) := by
  obtain ⟨c, cs, front, stop⟩ := h
  exact ⟨c, cs ++ u.toList, by rw [String.toList_append, front, List.cons_append], stop⟩

/-- A text is cut in front of a mark. -/
theorem tokens_append {s u : String} (whole : Whole (tokens s)) (marked : Marked u) :
    tokens (s ++ u) = tokens s ++ tokens u := by
  obtain ⟨c, cs, front, stop⟩ := marked
  change cut (s ++ u).toList = _
  rw [String.toList_append]
  refine cut_append whole fun x _ y first _ => ?_
  rw [front] at first
  cases first
  exact stop

/-- A list is cut at its commas. -/
theorem tokens_intercalate {α : Type} {i : String × α} {is : List (String × α)}
    (whole : ∀ j ∈ i :: is, Whole (tokens j.1)) {u : String} (marked : Marked u) :
    tokens (", ".intercalate ((i :: is).map (·.1)) ++ u)
      = tokens i.1 ++ (is.flatMap (fun j => .comma :: tokens j.1) ++ tokens u) := by
  induction is generalizing i with
  | nil =>
    rw [List.map_singleton, String.intercalate_singleton]
    exact tokens_append (whole i (List.mem_singleton_self i)) marked
  | cons j is ih =>
    obtain ⟨first, more⟩ := List.forall_mem_cons.1 whole
    have comma : Marked ", " := ⟨',', _, rfl, by decide⟩
    rw [List.map_cons, List.map_cons, String.intercalate_cons_cons, String.append_assoc,
      String.append_assoc, tokens_append first (comma.append _),
      tokens_joint_append (l := [.comma]) (by decide), ← List.map_cons, ih more]
    simp

/-! ### Larger texts -/

namespace TypeExpr

/-- A text that is read as an argument of a class type. -/
inductive ReadsArgument : String → TypeArgument → Prop
  | star : ReadsArgument "*" .star
  | covariant {s : String} {t : TypeExpr} (read : parse s = .ok t) :
    ReadsArgument ("out " ++ s) (.of .covariant t)
  | contravariant {s : String} {t : TypeExpr} (read : parse s = .ok t) :
    ReadsArgument ("in " ++ s) (.of .contravariant t)
  | invariant {s : String} {t : TypeExpr} (read : parse s = .ok t) :
    ReadsArgument s (.of .invariant t)

/-- A text that is read as a parameter: that of a type, after any identifier and a colon or not. -/
inductive ReadsParameter : String → TypeExpr → Prop
  | plain {s : String} {t : TypeExpr} (read : parse s = .ok t) : ReadsParameter s t
  | labelled {x name s : String} {t : TypeExpr} (label : ClassName.parseSimple x = .ok name)
    (read : parse s = .ok t) : ReadsParameter (x ++ ":" ++ s) t

/-- The text of a plain function type, with a comma behind the last parameter or without. -/
def arrowText (parameters : List String) (last : Bool) (returns : String) : String :=
  "(" ++ ", ".intercalate parameters ++ (if last then "," else "") ++ ") -> " ++ returns

/-- The text in front of a parameter list. -/
def frontText (suspending : Bool) (receiver : Option String) : String :=
  (if suspending then "suspend " else "") ++ receiver.elim "" fun s => "(" ++ s ++ ")."

/-- The text of a class type with arguments. -/
def classText (name : String) (arguments : List String) : String :=
  name ++ "<" ++ ", ".intercalate arguments ++ ">"

variable {s : String} {t : TypeExpr}

theorem ReadsArgument.spells {a : TypeArgument} (h : ReadsArgument s a) :
    SpellsArgument Spelled (tokens s) a := by
  cases h with
  | star =>
    rw [tokens_joint (s := "*") (l := [.star]) (by decide)]
    exact .star
  | covariant read =>
    rw [tokens_joint_append (s := "out ") (l := [.word "out"]) (by decide)]
    exact .covariant (parse_eq_ok_iff.1 read)
  | contravariant read =>
    rw [tokens_joint_append (s := "in ") (l := [.word "in"]) (by decide)]
    exact .contravariant (parse_eq_ok_iff.1 read)
  | invariant read => exact .invariant (parse_eq_ok_iff.1 read)

theorem ReadsParameter.spells (h : ReadsParameter s t) :
    SpellsParameter Spelled (tokens s) t := by
  cases h with
  | plain read => exact .plain (parse_eq_ok_iff.1 read)
  | @labelled x name s t label read =>
    obtain ⟨l, one, named⟩ := ClassName.parseSimple_eq_ok_iff.1 label
    have some : l.name?.isSome := by simp [named]
    have whole : Whole (tokens x) := by
      rw [one, whole_cons]
      exact ⟨ne_stray_of_name some, whole_nil⟩
    have colon : Marked ":" := ⟨':', _, rfl, by decide⟩
    rw [String.append_assoc, tokens_append whole (colon.append s), one,
      tokens_joint_append (l := [.colon]) (by decide)]
    exact .labelled some (parse_eq_ok_iff.1 read)

/-- In parentheses a type stays what it is, and with a mark behind them it admits null. -/
theorem parse_parenthesized (read : parse s = .ok t) :
    parse ("(" ++ s ++ ")") = .ok t ∧ parse ("(" ++ s ++ ")?") = .ok t.orNull := by
  have spelled := parse_eq_ok_iff.1 read
  have closed {close : String} {l : List Token} (mem : (close, l) ∈ joints)
      (marked : Marked close) : tokens ("(" ++ s ++ close) = .opening :: (tokens s ++ l) := by
    rw [String.append_assoc, tokens_joint_append (l := [.opening]) (by decide),
      tokens_append spelled.whole marked, tokens_joint mem]
    rfl
  have primary := SpellsPrimary.parenthesized spelled
  rw [parse_eq_ok_iff, parse_eq_ok_iff,
    closed (l := [.closing]) (by decide) ⟨')', _, rfl, by decide⟩,
    closed (l := [.closing, .question]) (by decide) ⟨')', _, rfl, by decide⟩]
  constructor
  · simpa using Spelled.nullable (.marks 0 primary)
  · simpa using Spelled.nullable (.marks 1 primary)

/-- The text of a receiver, and its dot. -/
theorem spells_receiverText {receiver : Option (String × TypeExpr)}
    (read : ∀ x ∈ receiver, parse x.1 = .ok x.2) :
    ∃ rs, SpellsReceiver Spelled rs (receiver.map (·.2)) ∧ rs.head? ≠ some (.word "suspend") ∧
      ∀ u, tokens ((receiver.map (·.1)).elim "" (fun s => "(" ++ s ++ ").") ++ u)
        = rs ++ tokens u := by
  cases receiver with
  | none => exact ⟨[], .none, by simp, fun u => by simp⟩
  | some x =>
    have spelled := parse_eq_ok_iff.1 (read x rfl)
    have dot : Marked ")." := ⟨')', _, rfl, by decide⟩
    refine ⟨_, .some (.marks 0 (.parenthesized spelled)), by simp, fun u => ?_⟩
    rw [Option.map_some, Option.elim_some, String.append_assoc, String.append_assoc,
      tokens_joint_append (l := [.opening]) (by decide),
      tokens_append spelled.whole (dot.append u),
      tokens_joint_append (l := [.closing, .dot]) (by decide)]
    simp

/-- The text of a plain function type: a parameter list, an arrow and what is returned. -/
theorem spells_arrowText {ps : List (String × TypeExpr)} {last : Bool}
    (each : ∀ p ∈ ps, ReadsParameter p.1 p.2) (items : last → ps ≠ []) :
    ∃ ls, SpellsParameters Spelled ls (ps.map (·.2)) ∧
      ∀ r, tokens (arrowText (ps.map (·.1)) last r) = ls ++ .arrow :: tokens r := by
  have arrow (u : String) : tokens (") -> " ++ u) = .closing :: .arrow :: tokens u :=
    tokens_joint_append (l := [.closing, .arrow]) (by decide) u
  cases ps with
  | nil =>
    obtain rfl : last = false := by simpa using items
    refine ⟨_, .none, fun r => ?_⟩
    rw [arrowText, String.append_assoc, String.append_assoc, String.append_assoc,
      tokens_joint_append (l := [.opening]) (by decide)]
    simp [arrow]
  | cons p ps =>
    have list := SpellsParameters.items last fun j mem => (each j mem).spells
    have ending (r : String) : Marked ((if last then "," else "") ++ (") -> " ++ r)) ∧
        tokens ((if last then "," else "") ++ (") -> " ++ r))
          = (if last then [.comma] else []) ++ .closing :: .arrow :: tokens r := by
      cases last with
      | true =>
        have comma : Marked "," := ⟨',', _, rfl, by decide⟩
        rw [if_pos rfl, tokens_joint_append (l := [.comma]) (by decide), arrow]
        exact ⟨comma.append _, rfl⟩
      | false =>
        have closing : Marked ") -> " := ⟨')', _, rfl, by decide⟩
        rw [if_neg (by simp), String.empty_append, arrow]
        exact ⟨closing.append r, rfl⟩
    refine ⟨_, list, fun r => ?_⟩
    obtain ⟨marked, cut⟩ := ending r
    rw [arrowText, String.append_assoc, String.append_assoc, String.append_assoc,
      tokens_joint_append (l := [.opening]) (by decide),
      tokens_intercalate (fun j mem => (each j mem).spells.whole Spelled.whole) marked, cut]
    simp

/-- A function type is made of what its parts are read as. -/
theorem parse_function {suspending last : Bool} {receiver : Option (String × TypeExpr)}
    {ps : List (String × TypeExpr)} {r : String} {u : TypeExpr}
    (received : ∀ x ∈ receiver, parse x.1 = .ok x.2) (each : ∀ p ∈ ps, ReadsParameter p.1 p.2)
    (items : last → ps ≠ []) (returns : parse r = .ok u) :
    parse (frontText suspending (receiver.map (·.1)) ++ arrowText (ps.map (·.1)) last r)
      = .ok (.functionType (receiver.map (·.2)) (ps.map (·.2)) u false suspending) := by
  obtain ⟨rs, receiver, clear, front⟩ := spells_receiverText received
  obtain ⟨ls, parameters, list⟩ := spells_arrowText each items
  have keyword (v : String) : tokens ((if suspending then "suspend " else "") ++ v)
      = (if suspending then [.word "suspend"] else []) ++ tokens v := by
    cases suspending with
    | true => exact tokens_joint_append (by decide) v
    | false => simp
  rw [parse_eq_ok_iff, frontText, String.append_assoc, keyword, front, list]
  refine .function (.arrow suspending receiver parameters (parse_eq_ok_iff.1 returns) fun _ => ?_)
  obtain ⟨more, rfl⟩ := parameters.exists_cons
  cases rs with
  | nil => simp
  | cons t ts => simpa using clear

/-- A class type has the arguments that their texts are read as. -/
theorem parse_class {q : String} {c : ClassName} {items : List (String × TypeArgument)}
    (name : ClassName.parse q = .ok c) (each : ∀ i ∈ items, ReadsArgument i.1 i.2)
    (some : items ≠ []) :
    parse (classText q (items.map (·.1))) = .ok (.classType c (items.map (·.2)) false) := by
  have class_ := ClassName.parse_eq_ok_iff.1 name
  cases items with
  | nil => exact absurd rfl some
  | cons i is =>
    have list := SpellsArguments.items fun j mem => (each j mem).spells
    have less : Marked "<" := ⟨'<', _, rfl, by decide⟩
    have whole : tokens (classText q ((i :: is).map (·.1)))
        = tokens q ++ .less ::
            (tokens i.1 ++ (is.flatMap (fun j => .comma :: tokens j.1) ++ [.greater])) := by
      rw [classText, String.append_assoc, String.append_assoc,
        tokens_append class_.whole (less.append _), tokens_joint_append (l := [.less]) (by decide),
        tokens_intercalate (fun j mem => (each j mem).spells.whole Spelled.whole)
          ⟨'>', _, rfl, by decide⟩, tokens_joint (s := ">") (l := [.greater]) (by decide)]
      rfl
    rw [parse_eq_ok_iff, whole]
    simpa using Spelled.nullable (.marks 0 (.name class_ list))

/-- Types are read part by part, however each part is written. -/
theorem parse_compositional :
    (∀ s t, parse s = .ok t →
      parse ("(" ++ s ++ ")") = .ok t ∧ parse ("(" ++ s ++ ")?") = .ok t.orNull) ∧
    (∀ (ps : List (String × TypeExpr)) (last : Bool) (r : String) (u : TypeExpr),
      (∀ p ∈ ps, ReadsParameter p.1 p.2) → (last → ps ≠ []) → parse r = .ok u →
        let text := arrowText (ps.map (·.1)) last r
        let type := arrow (ps.map (·.2)) u
        parse text = .ok type ∧
        parse ("suspend " ++ text) = .ok type.suspended ∧
        ∀ s t, parse s = .ok t →
          parse ("(" ++ s ++ ")." ++ text) = .ok (type.withReceiver t) ∧
          parse ("suspend " ++ ("(" ++ s ++ ")." ++ text)) = .ok (type.withReceiver t).suspended) ∧
    ∀ (q : String) (c : ClassName) (as : List (String × TypeArgument)),
      ClassName.parse q = .ok c → (∀ a ∈ as, ReadsArgument a.1 a.2) → as ≠ [] →
        parse (classText q (as.map (·.1))) = .ok ((ofClass c).withArguments (as.map (·.2))) := by
  refine ⟨fun s t read => parse_parenthesized read, ?_, fun q c as => parse_class⟩
  intro ps last r u each items returns text type
  have function (suspending : Bool) (receiver : Option (String × TypeExpr))
      (received : ∀ x ∈ receiver, parse x.1 = .ok x.2) :
      parse (frontText suspending (receiver.map (·.1)) ++ text)
        = .ok (.functionType (receiver.map (·.2)) (ps.map (·.2)) u false suspending) :=
    parse_function received each items returns
  have alone (suspending : Bool) := function suspending none (by simp)
  refine ⟨?_, ?_, fun s t read => ?_⟩
  · exact (congrArg parse (by simp [frontText])).trans (alone false)
  · exact (congrArg parse (by simp [frontText])).trans (alone true)
  · have received (suspending : Bool) := function suspending (some (s, t)) (by simpa)
    constructor
    · exact (congrArg parse (by simp [frontText])).trans (received false)
    · exact (congrArg parse (by simp [frontText, String.append_assoc])).trans (received true)

/-- A suspending function with a nullable receiver, a labelled parameter and a comma behind it, and
a class with every kind of argument. -/
theorem parse_compositional_nested :
    let a := ofClass (.topLevel "a" "A")
    let x := ofClass (.topLevel "in" "X")
    parse "suspend (`in` . X ?).((a.A), `x y`:((a . A)),) -> a.A"
        = .ok ((arrow [a, a] a).withReceiver x.orNull).suspended ∧
      parse "m.Map<out `in`.X, in (a.A)?, *, a.A>"
        = .ok ((ofClass (.topLevel "m" "Map")).withArguments
            [.of .covariant x, .of .contravariant a.orNull, .star, .of .invariant a]) := by
  intro a x
  obtain ⟨enclosed, functions, classes⟩ := parse_compositional
  have plain : parse "a.A" = .ok a := by decide +kernel
  have quoted : parse "`in`.X" = .ok x := by decide +kernel
  have receiver : parse "`in` . X ?" = .ok x.orNull := by decide +kernel
  have inner : parse "((a . A))" = .ok a := by decide +kernel
  have label : ClassName.parseSimple "`x y`" = .ok "x y" := by decide +kernel
  have map : ClassName.parse "m.Map" = .ok (.topLevel "m" "Map") := by decide +kernel
  obtain ⟨same, nullable⟩ := enclosed "a.A" a plain
  constructor
  · let ps := [("(a.A)", a), ("`x y`:((a . A))", a)]
    have each : ∀ p ∈ ps, ReadsParameter p.1 p.2 :=
      List.forall_mem_cons.2 ⟨.plain same, List.forall_mem_singleton.2 (.labelled label inner)⟩
    obtain ⟨-, -, received⟩ := functions ps true "a.A" a each (by simp [ps]) plain
    obtain ⟨-, suspending⟩ := received "`in` . X ?" x.orNull receiver
    exact (congrArg parse (by decide +kernel)).trans suspending
  · let as : List (String × TypeArgument) := [("out `in`.X", .of .covariant x),
      ("in (a.A)?", .of .contravariant a.orNull), ("*", .star), ("a.A", .of .invariant a)]
    have each : ∀ i ∈ as, ReadsArgument i.1 i.2 :=
      List.forall_mem_cons.2 ⟨.covariant quoted, List.forall_mem_cons.2 ⟨.contravariant nullable,
        List.forall_mem_cons.2 ⟨.star, List.forall_mem_singleton.2 (.invariant plain)⟩⟩⟩
    exact (congrArg parse (by decide +kernel)).trans (classes "m.Map" _ as map each (by simp [as]))

end TypeExpr

end AssistedInjection.Kotlin
