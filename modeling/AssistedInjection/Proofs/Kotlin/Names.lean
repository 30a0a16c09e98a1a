import AssistedInjection.Kotlin.Reading
import AssistedInjection.Proofs.Kotlin.Lexing
import AssistedInjection.Proofs.Kotlin.Reads

/-!
Class names and their texts. A text is read as a class name exactly when its tokens are identifiers
with dots between them; so the classes that read back from their canonical names are those that the
convention makes of some plain identifiers.

    com.test.Outer.Inner    w . w . w . w    ──▶    package com.test, Outer, Inner
-/

namespace AssistedInjection.Kotlin

/-- Identifier tokens with dots between them. -/
def chain (first : Token) (rest : List Token) : List Token :=
  first :: rest.flatMap fun t => [.dot, t]

/-- Identifiers with the names they stand for. -/
abbrev Stand (ts : List Token) (ss : List String) : Prop :=
  List.Forall₂ (fun t s => t.name? = some s) ts ss

/-- Tokens that spell the class made of some segments. -/
def Spells (ts : List Token) (c : ClassName) : Prop :=
  ∃ first rest s ss, ts = chain first rest ∧ Stand (first :: rest) (s :: ss) ∧ c = .ofSegments s ss

theorem exists_of_forall₂ {α β : Type} {R : α → β → Prop} {as : List α} {bs : List β}
    (all : List.Forall₂ R as bs) : ∀ b ∈ bs, ∃ a ∈ as, R a b := by
  induction all with
  | nil => simp
  | cons first _ ih =>
    refine List.forall_mem_cons.2 ⟨⟨_, List.mem_cons_self .., first⟩, fun b mem => ?_⟩
    obtain ⟨a, among, related⟩ := ih b mem
    exact ⟨a, List.mem_cons_of_mem _ among, related⟩

/-- An identifier or a dot is no stray character. -/
theorem Spells.whole {ts : List Token} {c : ClassName} (h : Spells ts c) :
    ∀ x, .stray x ∉ ts := by
  obtain ⟨first, rest, s, ss, rfl, stand, -⟩ := h
  intro x mem
  have named : .stray x ∉ first :: rest := by
    intro mem
    obtain ⟨s, -, name⟩ := exists_of_forall₂ stand.flip _ mem
    cases name
  refine named ?_
  rcases List.mem_cons.1 mem with rfl | mem
  · exact List.mem_cons_self ..
  · obtain ⟨t, among, mem⟩ := List.mem_flatMap.1 mem
    obtain rfl : .stray x = t := by simpa using mem
    exact List.mem_cons_of_mem _ among

theorem chain_append (first : Token) (rest more : List Token) :
    chain first (rest ++ more) = chain first rest ++ more.flatMap fun t => [.dot, t] := by
  simp [chain]

theorem mem_chain {t first : Token} {rest : List Token} (mem : t ∈ first :: rest) :
    t ∈ chain first rest := by
  rcases List.mem_cons.1 mem with rfl | mem
  · exact List.mem_cons_self ..
  · exact List.mem_cons_of_mem _ (List.mem_flatMap.2 ⟨t, mem, by simp⟩)

/-! ### Reading -/

open Kotlin.Parser Grammar

theorem read_identifier (t : Token) (ts : List Token) :
    identifier.read (t :: ts) = t.name?.map (·, ts) := rfl

/-- Where a dotted name cannot go on: no identifier after a dot. -/
def EndsName (ts : List Token) : Prop := ∀ t rest, ts = .dot :: t :: rest → t.name? = none

theorem read_segment (t : Token) (ts : List Token) :
    (do mark .dot; identifier).read (.dot :: t :: ts) = t.name?.map (·, ts) := by
  rw [read_bind_of_read (read_mark_cons ..), read_identifier]

theorem read_segment_of_endsName {ts : List Token} (ends : EndsName ts) :
    (do mark .dot; identifier).read ts = none := by
  by_cases dot : ts.head? = some .dot
  · rcases ts with _ | ⟨t, _ | ⟨t', rest⟩⟩
    · cases dot
    · cases dot
      rfl
    · cases dot
      rw [read_segment, ends t' rest rfl, Option.map_none]
  · exact read_bind_of_none (read_mark_of_ne dot)

theorem read_dotted {first : Token} {rest : List Token} {s : String} {ss : List String}
    (stand : Stand (first :: rest) (s :: ss)) {after : List Token} (ends : EndsName after) :
    dotted.read (chain first rest ++ after) = some ((s, ss), after) := by
  rcases stand with _ | ⟨name, names⟩
  have repeats : Repeats (do mark .dot; identifier) ((rest.flatMap fun t => [.dot, t]) ++ after)
      ss after := by
    induction names with
    | nil => exact .nil after
    | cons named _ ih => exact .cons (by rw [List.flatMap_cons]; simp [read_segment, named]) ih
  have short : ss.length ≤ ((rest.flatMap fun t => [.dot, t]) ++ after).length := by
    rw [← names.length_eq]
    simp [List.length_flatMap]
    omega
  have read : identifier.read (chain first rest ++ after)
      = some (s, (rest.flatMap fun t => [.dot, t]) ++ after) := by
    rw [chain, List.cons_append, read_identifier, name, Option.map_some]
  rw [dotted, read_bind_of_read read,
    read_bind_of_read (read_many repeats (read_segment_of_endsName ends) short), read_pure]

theorem consumes_identifier :
    identifier.Consumes fun used s => ∃ t, used = [t] ∧ t.name? = some s :=
  consumes_token _

/-- What is read as a dotted name is a chain of identifiers. -/
theorem consumes_dotted :
    dotted.Consumes fun used x =>
      ∃ first rest, used = chain first rest ∧ Stand (first :: rest) (x.1 :: x.2) := by
  have segment : (do mark .dot; identifier).Consumes fun used s =>
      ∃ t, used = [Token.dot, t] ∧ t.name? = some s := by
    refine (consumes_mark _).bind fun used _ dot => consumes_identifier.mono fun more s => ?_
    rintro ⟨t, rfl, named⟩
    exact ⟨t, by rw [dot]; rfl, named⟩
  refine consumes_identifier.bind fun used s => ?_
  rintro ⟨first, rfl, name⟩
  refine segment.many.bind fun more ss => ?_
  rintro ⟨parts, rfl, all⟩
  refine consumes_pure ⟨first, ?_⟩
  induction all with
  | nil => exact ⟨[], rfl, .cons name .nil⟩
  | cons part _ ih =>
    obtain ⟨t, rfl, named⟩ := part
    obtain ⟨rest, split, stand⟩ := ih
    refine ⟨t :: rest, ?_, .cons name (.cons named (List.forall₂_cons.1 stand).2)⟩
    rw [List.append_nil, chain, List.singleton_append, List.cons.injEq] at split
    simp [chain, ← split.2]

theorem readWhole_eq_ok_iff {α : Type} {construct : Construct} {p : Parser α} {text : String}
    {a : α} : readWhole construct p text = .ok a ↔ p.read (tokens text) = some (a, []) := by
  have read : (whole p).read (tokens text) = (p.read (tokens text)).bind fun x =>
      if x.2.isEmpty then some x else none := by
    rw [whole, read_bind]
    congr 1
    funext x
    rw [read_bind, read_finished]
    split <;> rfl
  rw [readWhole, read]
  rcases p.read (tokens text) with _ | ⟨a', _ | _⟩ <;> simp

/-- A text is read as a dotted name exactly when its tokens are a chain of identifiers. -/
theorem readWhole_dotted_eq_ok_iff {text : String} {x : String × List String} :
    readWhole .qualifiedName dotted text = .ok x ↔
      ∃ first rest, tokens text = chain first rest ∧ Stand (first :: rest) (x.1 :: x.2) := by
  rw [readWhole_eq_ok_iff]
  constructor
  · intro read
    obtain ⟨used, split, first, rest, rfl, stand⟩ := consumes_dotted _ _ _ read
    exact ⟨first, rest, by rw [split, List.append_nil], stand⟩
  · rintro ⟨first, rest, split, stand⟩
    have ends : EndsName [] := by
      intro t rest h
      cases h
    rw [split, ← List.append_nil (chain first rest), read_dotted stand ends]

/-- A text is read as a class exactly when its tokens spell the class. -/
theorem ClassName.parse_eq_ok_iff {text : String} {c : ClassName} :
    ClassName.parse text = .ok c ↔ Spells (tokens text) c := by
  have step : ClassName.parse text = .ok c ↔
      ∃ x, readWhole .qualifiedName dotted text = .ok x ∧ c = .ofSegments x.1 x.2 := by
    rw [ClassName.parse]
    cases readWhole .qualifiedName dotted text with
    | error e => simp [Bind.bind, Except.bind]
    | ok x => simp [Bind.bind, Except.bind, pure, Except.pure, eq_comm]
  simp only [step, readWhole_dotted_eq_ok_iff]
  constructor
  · rintro ⟨⟨s, ss⟩, ⟨first, rest, split, stand⟩, rfl⟩
    exact ⟨first, rest, s, ss, split, stand, rfl⟩
  · rintro ⟨first, rest, s, ss, split, stand, rfl⟩
    exact ⟨(s, ss), ⟨first, rest, split, stand⟩, rfl⟩

/-- A text is read as a simple name exactly when it is one identifier. -/
theorem ClassName.parseSimple_eq_ok_iff {text s : String} :
    ClassName.parseSimple text = .ok s ↔ ∃ t, tokens text = [t] ∧ t.name? = some s := by
  rw [ClassName.parseSimple, readWhole_eq_ok_iff]
  constructor
  · intro read
    obtain ⟨used, split, t, rfl, named⟩ := consumes_identifier _ _ _ read
    exact ⟨t, by rw [split, List.append_nil], named⟩
  · rintro ⟨t, single, named⟩
    rw [single, read_identifier, named, Option.map_some]

/-! ### Joined texts -/

/-- The tokens of texts joined by dots are those of the texts, with dots between them. -/
theorem cut_joined {x : String} {xs : List String}
    (whole : ∀ y ∈ x :: xs, ∀ c, .stray c ∉ cut y.toList) :
    cut (".".intercalate (x :: xs)).toList
      = cut x.toList ++ xs.flatMap fun y => .dot :: cut y.toList := by
  induction xs generalizing x with
  | nil => simp [String.intercalate_singleton]
  | cons x' xs ih =>
    obtain ⟨first, others⟩ := List.forall_mem_cons.1 whole
    have ends : ∀ y ∈ ".".toList.getLast?, ¬ continuesWord y := by
      rintro y ⟨⟩
      decide
    have token : cut ".".toList = [.dot] := by decide +kernel
    have dot := cut_fixed token (by simp) ends (".".intercalate (x' :: xs)).toList
    have apart : Apart x.toList (".".toList ++ (".".intercalate (x' :: xs)).toList) := by
      intro a _ b hb _
      cases hb
      decide
    rw [String.intercalate_cons_cons, String.append_assoc, String.toList_append,
      String.toList_append, cut_append first apart, dot, ih others]
    rfl

/-- Texts of one token each, and the tokens. -/
abbrev Single (xs : List String) (ts : List Token) : Prop :=
  List.Forall₂ (fun x t => cut x.toList = [t]) xs ts

theorem whole_of_single {xs : List String} {ts : List Token} (single : Single xs ts)
    (named : ∀ t ∈ ts, t.name?.isSome) : ∀ x ∈ xs, ∀ c, .stray c ∉ cut x.toList := by
  intro x mem c stray
  obtain ⟨t, among, token⟩ := exists_of_forall₂ single.flip x mem
  rw [token, List.mem_singleton] at stray
  have name := named t among
  rw [← stray] at name
  cases name

theorem flatMap_single {xs : List String} {ts : List Token} (single : Single xs ts) :
    (xs.flatMap fun x => Token.dot :: cut x.toList) = ts.flatMap fun t => [.dot, t] := by
  induction single with
  | nil => rfl
  | cons token _ ih => rw [List.flatMap_cons, List.flatMap_cons, token, ih]

/-- The tokens of texts of one identifier each, joined by dots. -/
theorem cut_intercalate {x : String} {xs : List String} {t : Token} {ts : List Token}
    (first : cut x.toList = [t]) (rest : Single xs ts) (named : ∀ u ∈ t :: ts, u.name?.isSome) :
    cut (".".intercalate (x :: xs)).toList = chain t ts := by
  rw [cut_joined (whole_of_single (.cons first rest) named), first, flatMap_single rest]
  rfl

theorem mem_of_mem_intercalate {c : Char} {xs : List String}
    (mem : c ∈ (".".intercalate xs).toList) : c = '.' ∨ ∃ x ∈ xs, c ∈ x.toList := by
  induction xs with
  | nil => cases mem
  | cons x xs ih =>
    cases xs with
    | nil =>
      rw [String.intercalate_singleton] at mem
      exact .inr ⟨x, List.mem_cons_self .., mem⟩
    | cons y ys =>
      rw [String.intercalate_cons_cons, String.toList_append, String.toList_append, List.mem_append,
        List.mem_append] at mem
      rcases mem with (first | dot) | more
      · exact .inr ⟨x, List.mem_cons_self .., first⟩
      · exact .inl (List.mem_singleton.1 dot)
      · exact (ih more).imp_right fun ⟨z, mem, hc⟩ => ⟨z, List.mem_cons_of_mem _ mem, hc⟩

theorem intercalate_ne_empty {x : String} (some : x ≠ "") (xs : List String) :
    ".".intercalate (x :: xs) ≠ "" := by
  cases xs with
  | nil => rwa [String.intercalate_singleton]
  | cons y ys =>
    rw [String.intercalate_cons_cons, String.append_assoc]
    exact fun empty => some (String.append_eq_empty_iff.1 empty).1

theorem intercalate_package {xs ys : List String} (package : ∀ x ∈ xs, x ≠ "") (some : ys ≠ []) :
    ".".intercalate (if ".".intercalate xs = "" then ys else ".".intercalate xs :: ys)
      = ".".intercalate (xs ++ ys) := by
  cases xs with
  | nil => simp
  | cons x xs =>
    rw [if_neg (intercalate_ne_empty (package x (List.mem_cons_self ..)) xs),
      String.intercalate_cons_of_ne_nil some, String.intercalate_append_of_ne_nil (by simp) some]

namespace ClassName

theorem exists_cons (ps : List String) (c : ClassName) :
    ∃ first rest, ps ++ c.names = first :: rest :=
  List.exists_cons_of_ne_nil (by simp [names])

theorem simpleName_mem_names (c : ClassName) : c.simpleName ∈ c.names := by
  rw [simpleName, ← List.getLast_eq_getLastD (List.cons_ne_nil c.outermost c.nested)]
  exact List.getLast_mem _

/-- Segments are cut where the class begins: at the first capital, or before the last segment if
there is none. -/
theorem exists_segments (first : String) (rest : List String) :
    ∃ ps, ps ++ (ofSegments first rest).names = first :: rest ∧
      (ofSegments first rest).package = ".".intercalate ps ∧ (∀ s ∈ ps, ¬ startsClass s) ∧
      (startsClass (ofSegments first rest).outermost ∨ (ofSegments first rest).nested = []) := by
  unfold ofSegments
  split
  · rename_i outermost nested classes
    have split : (first :: rest).takeWhile (!startsClass ·) ++ outermost :: nested
        = first :: rest := classes ▸ List.takeWhile_append_dropWhile
    refine ⟨_, split, rfl, fun s mem => ?_, .inl ?_⟩
    · simpa using List.mem_takeWhile_imp mem
    · have stop := List.head?_dropWhile_not (!startsClass ·) (first :: rest)
      simpa [classes] using stop
  · rename_i none
    have split : (first :: rest).dropLast ++ [rest.getLastD first] = first :: rest := by
      rw [← List.getLast_eq_getLastD (by simp), List.dropLast_append_getLast]
    refine ⟨_, split, rfl, fun s mem => ?_, .inr rfl⟩
    simpa using List.dropWhile_eq_nil_iff.1 none s (List.dropLast_subset _ mem)

/-- Segments that are cut as the convention has it make the class again. -/
theorem ofSegments_eq {c : ClassName} {ps : List String} (package : c.package = ".".intercalate ps)
    (lower : ∀ s ∈ ps, ¬ startsClass s) (begins : startsClass c.outermost ∨ c.nested = [])
    {first : String} {rest : List String} (segments : ps ++ c.names = first :: rest) :
    ofSegments first rest = c := by
  have before : ∀ s ∈ ps, (!startsClass s) = true := by simpa using lower
  obtain ⟨_, outermost, nested⟩ := c
  obtain rfl := package
  rw [ofSegments, ← segments]
  simp only [names, List.dropWhile_append_of_pos before, List.takeWhile_append_of_pos before]
  by_cases capital : startsClass outermost
  · simp [capital]
  · obtain rfl := begins.resolve_left capital
    have last : rest.getLastD first = outermost := by
      rw [← List.getLast_eq_getLastD (by simp)]
      simp [← segments, names]
    simpa [capital, topLevel] using last

/-- The canonical name of the class that segments make is the segments joined. -/
theorem canonical_ofSegments {first : String} {rest : List String}
    (some : ∀ s ∈ first :: rest, s ≠ "") :
    (ofSegments first rest).canonical = ".".intercalate (first :: rest) := by
  obtain ⟨ps, split, package, -⟩ := exists_segments first rest
  have filled : ∀ s ∈ ps, s ≠ "" := fun s mem =>
    some s (split ▸ List.mem_append_left _ mem)
  rw [canonical, package, intercalate_package filled (by simp [names]), split]

end ClassName

/-! ### Classes from identifiers -/

/-- Plain identifiers, and none in backticks. -/
def Plain (ts : List Token) : Prop := ∀ t ∈ ts, ∀ s, t.name? = some s → t = .word s ∧ IsWord s

/-- A class made of identifiers among some tokens. -/
def MadeOf (ts : List Token) (c : ClassName) : Prop :=
  ∃ s ss, c = .ofSegments s ss ∧ ∀ x ∈ s :: ss, ∃ t ∈ ts, t.name? = some x

theorem MadeOf.mono {ts us : List Token} {c : ClassName} (h : MadeOf ts c) (sub : ts ⊆ us) :
    MadeOf us c := by
  obtain ⟨s, ss, same, among⟩ := h
  refine ⟨s, ss, same, fun x mem => ?_⟩
  obtain ⟨t, ht, named⟩ := among x mem
  exact ⟨t, sub ht, named⟩

theorem Spells.madeOf {ts : List Token} {c : ClassName} (h : Spells ts c) : MadeOf ts c := by
  obtain ⟨first, rest, s, ss, rfl, stand, rfl⟩ := h
  refine ⟨s, ss, rfl, fun x mem => ?_⟩
  obtain ⟨t, among, named⟩ := exists_of_forall₂ stand x mem
  exact ⟨t, mem_chain among, named⟩

/-- A text without backticks has plain identifiers only. -/
theorem plain_cut {cs : List Char} (absent : '`' ∉ cs) : Plain (cut cs) := by
  intro t mem s named
  unfold Token.name? at named
  split at named <;> cases named
  · exact ⟨rfl, isWord_of_mem_cut mem⟩
  · exact absurd (quoted_of_mem_cut mem).1 absent

/-- Plain identifiers are the tokens of their names. -/
theorem Plain.stand {ts : List Token} {ss : List String} (plain : Plain ts) (stand : Stand ts ss) :
    ts = ss.map .word ∧ ∀ s ∈ ss, IsWord s := by
  induction stand with
  | nil => simp
  | cons named _ ih =>
    obtain ⟨here, there⟩ := List.forall_mem_cons.1 plain
    obtain ⟨rfl, word⟩ := here _ named
    obtain ⟨rfl, words⟩ := ih there
    exact ⟨rfl, List.forall_mem_cons.2 ⟨word, words⟩⟩

theorem MadeOf.words {ts : List Token} {c : ClassName} (h : MadeOf ts c) (plain : Plain ts) :
    ∃ first rest, (∀ s ∈ first :: rest, IsWord s) ∧ c = .ofSegments first rest := by
  obtain ⟨s, ss, rfl, among⟩ := h
  refine ⟨s, ss, fun x mem => ?_, rfl⟩
  obtain ⟨t, ht, named⟩ := among x mem
  exact (plain t ht x named).2

/-- Identifiers are not empty and have no backticks in them, escaped or not. -/
theorem name_of_mem_cut {cs : List Char} {t : Token} {s : String} (mem : t ∈ cut cs)
    (named : t.name? = some s) : s ≠ "" ∧ '`' ∉ s.toList := by
  unfold Token.name? at named
  split at named <;> cases named
  · have word := isWord_of_mem_cut mem
    exact ⟨word.ne_empty, word.not_mem (by decide)⟩
  · exact (quoted_of_mem_cut mem).2.symm

theorem MadeOf.not_mem_canonical {cs : List Char} {c : ClassName} (h : MadeOf (cut cs) c) :
    '`' ∉ c.canonical.toList := by
  obtain ⟨s, ss, rfl, among⟩ := h
  have characters : ∀ x ∈ s :: ss, x ≠ "" ∧ '`' ∉ x.toList := by
    intro x mem
    obtain ⟨t, ht, named⟩ := among x mem
    exact name_of_mem_cut ht named
  rw [ClassName.canonical_ofSegments fun x mem => (characters x mem).1]
  intro mem
  rcases mem_of_mem_intercalate mem with dot | ⟨x, among, mem⟩
  · exact absurd dot (by decide)
  · exact (characters x among).2 mem

namespace ClassName

/-- The tokens of plain identifiers joined by dots. -/
theorem cut_words {first : String} {rest : List String} (words : ∀ s ∈ first :: rest, IsWord s) :
    cut (".".intercalate (first :: rest)).toList = chain (.word first) (rest.map .word) := by
  obtain ⟨word, others⟩ := List.forall_mem_cons.1 words
  refine cut_intercalate word.cut ?_ (by simp [Token.name?])
  exact List.forall₂_map_right_iff.2 (List.forall₂_same.2 fun s mem => (others s mem).cut)

theorem parsesBack_iff_spells {c : ClassName} : c.parsesBack ↔ Spells (tokens c.canonical) c := by
  rw [← parse_eq_ok_iff, parsesBack]
  cases parse c.canonical <;> simp [Except.toOption]

/-- The classes that read back are those made of plain identifiers: in a canonical name no
identifier can be escaped, as no segment has a backtick in it. -/
theorem parsesBack_iff {c : ClassName} :
    c.parsesBack ↔ ∃ first rest, (∀ s ∈ first :: rest, IsWord s) ∧ c = ofSegments first rest := by
  rw [parsesBack_iff_spells]
  constructor
  · intro spells
    exact spells.madeOf.words (plain_cut spells.madeOf.not_mem_canonical)
  · rintro ⟨first, rest, words, rfl⟩
    have stand : Stand (.word first :: rest.map .word) (first :: rest) :=
      .cons rfl (List.forall₂_map_left_iff.2 (List.forall₂_same.2 fun _ _ => rfl))
    refine ⟨_, _, first, rest, ?_, stand, rfl⟩
    rw [canonical_ofSegments fun s mem => (words s mem).ne_empty]
    exact cut_words words

end ClassName

end AssistedInjection.Kotlin
