import AssistedInjection.Proofs.Kotlin.Layout
import AssistedInjection.Proofs.Source.Heading

/-!
The parameter list as a reader of the source sees it: the lines indented by four spaces are the
parameters, and a line is read from left to right.

    ····@Assisted("a\"b") `in`: List<Int>,
                  -----    --   ---------
                  key     name  type

Keys are the only text in the source that can hold quotes or line breaks, and they are escaped.
-/

namespace AssistedInjection.Source

open Kotlin

/-! ### Reading lines -/

/-- What the line of a parameter starts with. -/
def indent : List Char := [' ', ' ', ' ', ' ']

/-- Whether a line is indented like that of a parameter. -/
def isIndented (line : List Char) : Bool := indent.isPrefixOf line

/-- What a line says about a parameter. -/
structure ReadParameter where
  name : String
  type : String
  key : Option String
deriving DecidableEq

/-- The string literal of an annotation, if there is an annotation, and what follows it. -/
def readKey (cs : List Char) : Option (Option String × List Char) :=
  match cs with
  | '@' :: cs => do
    guard ((cs.takeWhile (· != '"')).getLast? = some '(')
    let literal ← (cs.dropWhile (· != '"')).dropPrefix? ['"']
    let (parts, rest) ← cutLiteral literal
    let key ← literalValue parts
    let rest ← rest.dropPrefix? [')', ' ']
    pure (some key, rest)
  | cs => some (none, cs)

/-- An identifier without its backticks, and what follows it. -/
def readName : List Char → Option (String × List Char)
  | [] => none
  | c :: cs => (Token.next c cs).1.name?.map (·, (Token.next c cs).2)

/-- The parameter that a line declares. -/
def readParameter (line : List Char) : Option ReadParameter := do
  let cs ← line.dropPrefix? indent
  let (key, cs) ← readKey cs
  let (name, cs) ← readName cs
  let type ← cs.dropPrefix? [':', ' ']
  guard (type.getLast? = some ',')
  pure ⟨name, .ofList type.dropLast, key⟩

/-- A type is spelled without quotes and line breaks if its classes are. -/
theorem IsBare.write {t : TypeExpr} {spelling : ClassName → String}
    (each : ∀ c ∈ t.classNames, IsBare (spelling c)) : IsBare (t.write spelling) := by
  have fixed : ∀ s ∈ fixedTexts, IsBare s := by decide
  have piece : ∀ p ∈ t.pieces, IsBare (p.spell spelling) := by
    intro p mem
    have among := t.among_pieces p mem
    cases p with
    | text s => exact fixed s among
    | name c => exact each c among
  intro c mem
  simp only [TypeExpr.write, String.toList_join, List.mem_flatMap, List.mem_map] at mem
  obtain ⟨-, ⟨p, among, rfl⟩, mem⟩ := mem
  exact piece p among c mem

/-! ### What stands around the parameters -/

/-- A line of source that is not the line of a parameter. -/
structure IsOther (line : String) : Prop where
  bare : IsBare line
  outdented : ¬ isIndented line.toList

/-- How a line begins tells whether it is indented. -/
theorem not_isIndented_append {front : String}
    (outdented : (front.toList.take indent.length).any (· ≠ ' ')) (rest : String) :
    ¬ isIndented (front ++ rest).toList := by
  intro indented
  obtain ⟨c, among, other⟩ := List.any_eq_true.1 outdented
  have start : (front.toList ++ rest.toList).take indent.length = indent :=
    (List.prefix_iff_eq_take.1 (List.isPrefixOf_iff_prefix.1
      (String.toList_append ▸ indented))).symm
  have mem : c ∈ indent := by
    rw [← start, List.take_append]
    exact List.mem_append_left _ among
  exact of_decide_eq_true other (by simpa [indent] using mem)

theorem IsOther.of_front {front rest : String} (bare : IsBare front)
    (outdented : (front.toList.take indent.length).any (· ≠ ' ')) (bare' : IsBare rest) :
    IsOther (front ++ rest) :=
  ⟨isBare_append.2 ⟨bare, bare'⟩, not_isIndented_append outdented rest⟩

theorem literalsIn_unlines {ls : List String} (others : ∀ l ∈ ls, IsOther l) (rest : List Char) :
    literalsIn ((unlines ls).toList ++ rest) = literalsIn rest := by
  refine literalsIn_append (fun quote => ?_) rest
  simp only [unlines, String.toList_join, List.mem_flatMap, List.mem_map] at quote
  obtain ⟨-, ⟨l, among, rfl⟩, mem⟩ := quote
  rcases List.mem_append.1 (String.toList_append ▸ mem) with inside | ending
  · exact ((others l among).bare _ inside).1 rfl
  · exact absurd ending (by decide)

/-- None of these lines is taken for that of a parameter. -/
theorem filter_linesOf_unlines {ls : List String} (others : ∀ l ∈ ls, IsOther l)
    (rest : List Char) :
    (linesOf ((unlines ls).toList ++ rest)).filter isIndented
      = (linesOf rest).filter isIndented := by
  have outdented : (ls.map String.toList).filter isIndented = [] := by
    rw [List.filter_eq_nil_iff, List.forall_mem_map]
    exact fun l mem => (others l mem).outdented
  rw [linesOf_unlines fun l mem => (others l mem).bare, List.filter_append, outdented,
    List.nil_append]

section

variable {p : Plan} {m : Markers}

theorem not_isIndented_of_isHeadLine {line : String} (head : isHeadLine line) :
    ¬ isIndented line.toList := by
  have outdented : ∀ words ∈ ["//", "package ", "import "],
      (words.toList.take indent.length).any (· ≠ ' ') := by decide
  rcases isHeadLine_iff.1 head with rfl | ⟨words, known, rest, rfl⟩
  · decide
  · exact not_isIndented_append (outdented words known) rest

/-- No line before those of the method is indented. -/
theorem not_isIndented_of_mem_openingLines {l : String} (mem : l ∈ openingLines p m) :
    ¬ isIndented l.toList := by
  have words : ((typeWords p.bound.kind).toList.take indent.length).any (· ≠ ' ') := by
    cases p.bound.kind <;> decide
  rcases List.mem_append.1 mem with head | type
  · exact not_isIndented_of_isHeadLine (isHeadLine_of_mem_headLines head)
  · simp only [typeLines, List.mem_cons, List.not_mem_nil, or_false] at type
    rcases type with rfl | rfl | rfl
    · exact not_isIndented_append (by decide) _
    · exact not_isIndented_append (by decide) _
    · exact not_isIndented_append words _

theorem isOther_of_mem_openingLines (classes : ∀ c ∈ mentioned p m, IsBareClass c) :
    ∀ l ∈ openingLines p m, IsOther l := fun l mem =>
  ⟨isBare_of_mem_openingLines classes l mem, not_isIndented_of_mem_openingLines mem⟩

/-- Around the lines of the parameters there are only other lines. -/
theorem content_around_parameters (classes : ∀ c ∈ mentioned p m, IsBareClass c)
    (method : IsBare p.method.name) :
    ∃ before after, (∀ l ∈ before, IsOther l) ∧ (∀ l ∈ after, IsOther l) ∧ content p m =
      unlines before ++
        String.join (p.method.parameters.map (parameterLine m (importsOf p m))) ++
          unlines after := by
  have opening := isOther_of_mem_openingLines classes
  have name : IsBare (identifier p.method.name) := method.identifier
  have returns : IsBare ((importsOf p m).spell p.annotated) :=
    (classes _ (by simp [mentioned])).spell _
  have start {rest : String} (bare : IsBare rest) :
      IsOther ("  " ++ modifiers p.bound.kind ++ rest) := by
    cases p.bound.kind <;> exact .of_front (by decide) (by decide) bare
  have brace : IsOther "\x7d" := ⟨by decide, by decide⟩
  cases parameters : p.method.parameters with
  | nil =>
    have line : IsBare (" fun " ++ identifier p.method.name ++ "(" ++ "): " ++
        (importsOf p m).spell p.annotated) := by
      simp only [isBare_append]
      exact ⟨⟨⟨⟨by decide, name⟩, by decide⟩, by decide⟩, returns⟩
    have before := List.forall_mem_append.2
      ⟨opening, List.forall_mem_cons.2 ⟨start line, List.forall_mem_singleton.2 brace⟩⟩
    refine ⟨_, [], before, List.forall_mem_nil _, ?_⟩
    simp [content_eq, methodLines, parameters, unlines, String.append_assoc]
  | cons q qs =>
    have line : IsBare (" fun " ++ identifier p.method.name ++ "(") := by
      simp only [isBare_append]
      exact ⟨⟨by decide, name⟩, by decide⟩
    have before := List.forall_mem_append.2 ⟨opening, List.forall_mem_singleton.2 (start line)⟩
    have closing : IsOther ("  ): " ++ (importsOf p m).spell p.annotated) :=
      .of_front (by decide) (by decide) returns
    have indented : "  ): " = "  " ++ "): " := rfl
    have ended : "\x7d\n" = "\x7d" ++ "\n" := rfl
    have after := List.forall_mem_cons.2 ⟨closing, List.forall_mem_singleton.2 brace⟩
    refine ⟨_, _, before, after, ?_⟩
    simp [content_eq, methodLines, parameters, unlines, indented, ended, String.append_assoc,
      -String.reduceAppend]

end

/-! ### The lines of the parameters -/

section

variable (m : Markers) (i : Imports) (q : FactoryParameter)

/-- The characters of the annotation that carries a key. -/
def keyText (key : Option String) : List Char := String.toList <| keyAnnotation m i key

theorem keyText_none : keyText m i none = [] := rfl

theorem keyText_some (key : String) : keyText m i (some key) =
    '@' :: ((i.spell m.assisted).toList ++ ['(']) ++
      ('"' :: (literalBody key).toList ++ '"' :: [')', ' ']) := by
  simp [keyText, keyAnnotation]

/-- The line of a parameter without its end. -/
def lineOf : List Char :=
  indent ++ (keyText m i q.key ++ ((identifier q.name).toList ++
    ([':', ' '] ++ ((q.type.write i.spell).toList ++ [',']))))

theorem toList_parameterLine : (parameterLine m i q).toList = lineOf m i q ++ ['\n'] := by
  simp [parameterLine, lineOf, keyText, indent]

theorem isIndented_lineOf : isIndented (lineOf m i q) :=
  List.isPrefixOf_iff_prefix.2 (List.prefix_append ..)

/-- A parameter whose line holds quotes and line breaks in its key at most. -/
structure IsTidy : Prop where
  marker : q.key.isSome → IsBare (i.spell m.assisted)
  word : IsWord q.name
  type : IsBare (q.type.write i.spell)

variable {m i q}

/-- No parameter takes up two lines. -/
theorem not_isLineBreak_of_mem_lineOf (tidy : IsTidy m i q) :
    ∀ c ∈ lineOf m i q, ¬ isLineBreak c := by
  have bare {s : String} (bare : IsBare s) : ∀ c ∈ s.toList, ¬ isLineBreak c :=
    fun c mem => (bare c mem).2
  have fixed {cs : List Char} (none : cs.all (¬ isLineBreak ·)) : ∀ c ∈ cs, ¬ isLineBreak c :=
    fun c mem => of_decide_eq_true (List.all_eq_true.1 none c mem)
  have key : ∀ c ∈ keyText m i q.key, ¬ isLineBreak c := by
    cases keyed : q.key with
    | none => simp [keyText_none]
    | some key =>
      simp only [keyText_some, List.forall_mem_append, List.forall_mem_cons (a := '@'),
        List.forall_mem_cons (a := '"')]
      exact ⟨⟨by decide, bare (tidy.marker (by simp [keyed])), fixed (by decide)⟩,
        ⟨by decide, fun c => not_isLineBreak_of_mem_literalBody⟩, by decide, fixed (by decide)⟩
  simp only [lineOf, List.forall_mem_append]
  exact ⟨fixed (by decide), key, bare (isBare_of_isWord tidy.word).identifier, fixed (by decide),
    bare tidy.type, fixed (by decide)⟩

/-- A word is read from its escaped form, if it stops there. -/
theorem readName_identifier {s : String} (word : IsWord s) {rest : List Char} (stops : Stops rest) :
    readName ((identifier s).toList ++ rest) = some (s, rest) := by
  unfold identifier
  split
  · have absent : ∀ x ∈ s.toList, (x != '`') = true := fun x mem =>
      bne_iff_ne.2 (ne_of_mem_of_not_mem mem (word.not_mem (by decide)))
    have stop : ∀ c ∈ ('`' :: rest).head?, ¬ (c != '`') = true := by simp
    obtain ⟨take, drop⟩ := span_stops absent stop
    obtain ⟨c, cs, characters, -⟩ := word
    have next : Token.next '`' (s.toList ++ '`' :: rest) = (.quoted s, rest) := by
      unfold Token.next
      rw [if_neg (by decide), if_pos rfl, take, drop, characters]
      simp [← characters]
    simp [readName, next, Token.name?]
  · obtain ⟨c, cs, characters, starts, continues⟩ := word
    obtain ⟨take, drop⟩ := span_stops continues stops
    have next : Token.next c (cs ++ rest) = (.word s, rest) := by
      unfold Token.next
      rw [if_pos starts, take, drop, ← characters, String.ofList_toList]
    simp [readName, characters, next, Token.name?]

/-- The key is read from its annotation, and nothing where there is none. -/
theorem readKey_keyText (tidy : IsTidy m i q) {rest : List Char} (plain : rest.head? ≠ some '@') :
    readKey (keyText m i q.key ++ rest) = some (q.key, rest) := by
  cases keyed : q.key with
  | none =>
    rw [keyText_none, List.nil_append]
    unfold readKey
    split
    · exact absurd rfl plain
    · rfl
  | some key =>
    have marker := tidy.marker (by simp [keyed])
    have front : ∀ c ∈ (i.spell m.assisted).toList ++ ['('], (c != '"') = true := by
      simp only [List.forall_mem_append, bne_iff_ne]
      exact ⟨fun c mem => (marker c mem).1, by simp⟩
    let literal := (literalBody key).toList ++ '"' :: ([')', ' '] ++ rest)
    have stops : ∀ c ∈ (['"'] ++ literal).head?, ¬ (c != '"') = true := by simp
    obtain ⟨take, drop⟩ := span_stops front stops
    have line : keyText m i (some key) ++ rest =
        '@' :: (((i.spell m.assisted).toList ++ ['(']) ++ (['"'] ++ literal)) := by
      simp [keyText_some, literal]
    rw [line, readKey, take, drop, dropPrefix?_append, List.getLast?_concat, guard, if_pos rfl]
    simp only [Option.bind_eq_bind, Option.bind_some, Option.pure_def, literal,
      cutLiteral_literalBody, literalValue_literalParts, dropPrefix?_append]

theorem head?_identifier_ne {s : String} (word : IsWord s) (rest : List Char) :
    ((identifier s).toList ++ rest).head? ≠ some '@' := by
  unfold identifier
  split
  · simp
  · obtain ⟨c, cs, characters, starts, -⟩ := word
    rw [characters]
    rintro ⟨⟩
    exact absurd starts (by decide)

/-- The line of a parameter is read as the parameter. -/
theorem readParameter_lineOf (tidy : IsTidy m i q) :
    readParameter (lineOf m i q) = some ⟨q.name, q.type.write i.spell, q.key⟩ := by
  have stops : Stops ([':', ' '] ++ ((q.type.write i.spell).toList ++ [','])) := by
    rintro y ⟨⟩
    decide
  refine Option.bind_eq_some_iff.2 ⟨_, dropPrefix?_append .., ?_⟩
  refine Option.bind_eq_some_iff.2
    ⟨_, readKey_keyText tidy (head?_identifier_ne tidy.word _), ?_⟩
  refine Option.bind_eq_some_iff.2 ⟨_, readName_identifier tidy.word stops, ?_⟩
  refine Option.bind_eq_some_iff.2 ⟨_, dropPrefix?_append .., ?_⟩
  rw [guard, if_pos (List.getLast?_concat ..)]
  simp

/-- The only literal in the line of a parameter is its key. -/
theorem literalsIn_lineOf (tidy : IsTidy m i q) (rest : List Char) :
    literalsIn (lineOf m i q ++ rest)
      = (literalsIn rest).map ((q.key.map literalParts).toList ++ ·) := by
  have unquoted {s : String} (bare : IsBare s) : '"' ∉ s.toList := fun mem => (bare _ mem).1 rfl
  let ending := (identifier q.name).toList ++
    ([':', ' '] ++ ((q.type.write i.spell).toList ++ [',']))
  have plain : '"' ∉ ending := by
    simp only [ending, List.mem_append, not_or]
    exact ⟨unquoted (isBare_of_isWord tidy.word).identifier, by decide, unquoted tidy.type,
      by decide⟩
  cases keyed : q.key with
  | none =>
    have line : lineOf m i q ++ rest = (indent ++ ending) ++ rest := by
      simp [lineOf, ending, keyed, keyText_none]
    have unquotedLine : '"' ∉ indent ++ ending := by
      rw [List.mem_append, not_or]
      exact ⟨by decide, plain⟩
    rw [line, literalsIn_append unquotedLine]
    simp
  | some key =>
    have marker := tidy.marker (by simp [keyed])
    let start := indent ++ ('@' :: (i.spell m.assisted).toList ++ ['('])
    have unquotedStart : '"' ∉ start := by
      simp only [start, List.mem_append, List.mem_cons, not_or]
      exact ⟨by decide, ⟨by decide, unquoted marker⟩, by decide⟩
    have unquotedEnding : '"' ∉ [')', ' '] ++ ending := by
      rw [List.mem_append, not_or]
      exact ⟨by decide, plain⟩
    have line : lineOf m i q ++ rest = start ++ ('"' :: (literalBody key).toList ++
        '"' :: (([')', ' '] ++ ending) ++ rest)) := by
      simp [lineOf, start, ending, keyed, keyText_some]
    rw [line, literalsIn_append unquotedStart, literalsIn_literal, literalsIn_append unquotedEnding]
    simp

end

/-! ### The parameter list -/

section

variable {p : Plan} {m : Markers} {i : Imports}

theorem filter_linesOf_parameters {qs : List FactoryParameter} (tidy : ∀ q ∈ qs, IsTidy m i q)
    (rest : List Char) :
    (linesOf ((String.join (qs.map (parameterLine m i))).toList ++ rest)).filter isIndented
      = qs.map (lineOf m i) ++ (linesOf rest).filter isIndented := by
  induction qs with
  | nil => simp
  | cons q qs ih =>
    obtain ⟨first, others⟩ := List.forall_mem_cons.1 tidy
    rw [List.map_cons, String.join_cons, String.toList_append, toList_parameterLine,
      List.append_assoc, List.append_assoc, List.singleton_append,
      linesOf_cons (not_isLineBreak_of_mem_lineOf first),
      List.filter_cons_of_pos (isIndented_lineOf m i q), ih others]
    rfl

theorem literalsIn_parameters {qs : List FactoryParameter} (tidy : ∀ q ∈ qs, IsTidy m i q)
    (rest : List Char) :
    literalsIn ((String.join (qs.map (parameterLine m i))).toList ++ rest)
      = (literalsIn rest).map (((qs.filterMap (·.key)).map literalParts) ++ ·) := by
  induction qs with
  | nil => simp
  | cons q qs ih =>
    obtain ⟨first, others⟩ := List.forall_mem_cons.1 tidy
    rw [List.map_cons, String.join_cons, String.toList_append, toList_parameterLine,
      List.append_assoc, List.append_assoc, literalsIn_lineOf first,
      literalsIn_append (by decide), ih others]
    cases keyed : q.key <;> simp [keyed, Function.comp_def]

theorem isTidy_of_mem (classes : ∀ c ∈ mentioned p m, IsBareClass c)
    (words : ∀ q ∈ p.method.parameters, IsWord q.name) {q : FactoryParameter}
    (parameter : q ∈ p.method.parameters) : IsTidy m i q where
  marker keyed := by
    have isKeyed : isKeyed p := List.any_eq_true.2 ⟨q, parameter, keyed⟩
    exact (classes _ (by simp [mentioned, isKeyed])).spell i
  word := words q parameter
  type := .write fun c mem => (classes c (List.mem_append_right _
    (List.mem_flatMap.2 ⟨q, parameter, mem⟩))).spell i

/-- The parameter list is read back line by line, and the literals of the whole file are the
keys. -/
theorem parameters_read_back (classes : ∀ c ∈ mentioned p m, IsBareClass c)
    (method : IsBare p.method.name) (words : ∀ q ∈ p.method.parameters, IsWord q.name) :
    ((linesOf (render p m).content.toList).filter isIndented).map readParameter
        = p.method.parameters.map
          (fun q => some ⟨q.name, q.type.write (importsOf p m).spell, q.key⟩) ∧
      ∃ literals, literalsIn (render p m).content.toList = some literals ∧
        literals.map literalValue = (p.method.parameters.filterMap (·.key)).map some ∧
        ∀ parts ∈ literals, (∀ part ∈ parts, ∀ c ∈ part.text, ¬ isLineBreak c) ∧
          .plain '$' ∉ parts := by
  obtain ⟨before, after, opening, closing, content⟩ := content_around_parameters classes method
  have tidy : ∀ q ∈ p.method.parameters, IsTidy m (importsOf p m) q := fun q mem =>
    isTidy_of_mem classes words mem
  have characters : (render p m).content.toList = (unlines before).toList ++
      ((String.join (p.method.parameters.map (parameterLine m (importsOf p m)))).toList ++
        ((unlines after).toList ++ [])) := by
    simp [render, content]
  have lines : (linesOf (render p m).content.toList).filter isIndented
      = p.method.parameters.map (lineOf m (importsOf p m)) := by
    rw [characters, filter_linesOf_unlines opening, filter_linesOf_parameters tidy,
      filter_linesOf_unlines closing]
    exact List.append_nil _
  have literals : literalsIn (render p m).content.toList
      = some ((p.method.parameters.filterMap (·.key)).map literalParts) := by
    rw [characters, literalsIn_unlines opening, literalsIn_parameters tidy,
      literalsIn_unlines closing]
    simp [literalsIn]
  refine ⟨?_, _, literals, ?_, ?_⟩
  · rw [lines, List.map_map]
    exact List.map_congr_left fun q mem => readParameter_lineOf (tidy q mem)
  · rw [List.map_map]
    exact List.map_congr_left fun key _ => literalValue_literalParts key
  · intro parts mem
    obtain ⟨key, -, rfl⟩ := List.mem_map.1 mem
    exact ⟨fun part among c => (isInert_of_mem_literalParts among).not_isLineBreak,
      fun dollar => (isInert_of_mem_literalParts dollar).2.2.2 rfl⟩

/-- A plan with a hard keyword for a name, and quotes and a line break in its key. -/
def quotingPlan : Plan where
  annotated := .topLevel "com.test" "Api"
  scope := .topLevel "com.test" "Scope"
  bound := ⟨⟨"com.test", "Api", ["Factory"]⟩, .interface⟩
  method := ⟨"create",
    [⟨"in", .ofClass (.topLevel "kotlin" "Int"), some "a\"b$c\\\n", "first"⟩,
      ⟨"next", .classType (.topLevel "com.test" "Api") [] true, none, "next"⟩]⟩
  origin := none

theorem parameters_read_back_quoting :
    (∀ c ∈ mentioned quotingPlan .standard, IsBareClass c) ∧ IsBare quotingPlan.method.name ∧
      (∀ q ∈ quotingPlan.method.parameters, IsWord q.name) ∧
      ((linesOf (render quotingPlan .standard).content.toList).filter isIndented).map readParameter
        = [some ⟨"in", "Int", some "a\"b$c\\\n"⟩, some ⟨"next", "Api?", none⟩] := by
  have classes : ∀ c ∈ mentioned quotingPlan .standard, IsBareClass c := by decide +kernel
  have words : ∀ q ∈ quotingPlan.method.parameters, IsWord q.name := by
    simp only [quotingPlan, List.forall_mem_cons]
    exact ⟨⟨'i', ['n'], rfl, by decide, List.all_eq_true.1 (by decide)⟩,
      ⟨'n', ['e', 'x', 't'], rfl, by decide, List.all_eq_true.1 (by decide)⟩, by simp⟩
  have method : IsBare quotingPlan.method.name := by decide
  have read := (parameters_read_back classes method words).1
  exact ⟨classes, method, words, read.trans (by decide +kernel)⟩

end

end AssistedInjection.Source
