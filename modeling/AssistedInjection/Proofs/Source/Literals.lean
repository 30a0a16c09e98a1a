import AssistedInjection.Source.Escape

/-!
String literals as a reader of the source sees them: a backslash takes the next character with it,
and the first quote that is not taken ends the literal. What is written for a text stays inside its
quotes and on its line, has nothing to be filled in, and is read as the text again.

    say "$x"      "say \"\$x\""      s a y ␣ \" \$ x \"
    (text)        (source)           (parts)
-/

namespace AssistedInjection.Source

/-- Whether a character ends a line. -/
def isLineBreak (c : Char) : Bool := c == '\n' || c == '\r'

/-! ### Parts of literals -/

/-- The smallest parts of the inside of a string literal. -/
inductive LiteralPart where
  | plain (c : Char)
  /-- A character behind a backslash. -/
  | escape (c : Char)
deriving DecidableEq

namespace LiteralPart

/-- How a part is written. -/
def text : LiteralPart → List Char
  | plain c => [c]
  | escape c => ['\\', c]

/-- What a part stands for, if a backslash can stand before its character. -/
def value? : LiteralPart → Option Char
  | plain c => some c
  | escape 'n' => some '\n'
  | escape 'r' => some '\r'
  | escape 't' => some '\t'
  | escape 'b' => some '\x08'
  | escape c => if ['\\', '"', '\'', '$'].contains c then some c else none

/-- A part that keeps to its literal and its line and begins no template. -/
def IsInert : LiteralPart → Prop
  | plain c => ¬ isLineBreak c ∧ c ≠ '\\' ∧ c ≠ '"' ∧ c ≠ '$'
  | escape c => ¬ isLineBreak c

/-- The part that is written for a character. -/
def ofChar : Char → LiteralPart
  | '\\' => escape '\\'
  | '"' => escape '"'
  | '$' => escape '$'
  | '\n' => escape 'n'
  | '\r' => escape 'r'
  | '\t' => escape 't'
  | c => plain c

theorem IsInert.not_isLineBreak {part : LiteralPart} (inert : part.IsInert) {c : Char}
    (written : c ∈ part.text) : ¬ isLineBreak c := by
  cases part with
  | plain d =>
    obtain rfl := List.mem_singleton.1 written
    exact inert.1
  | escape d =>
    simp only [text, List.mem_cons, List.not_mem_nil, or_false] at written
    rcases written with rfl | rfl
    · decide
    · exact inert

theorem text_ofChar (c : Char) : (ofChar c).text = literalChar c := by
  unfold ofChar
  split
  all_goals simp_all [literalChar, text]

theorem value?_ofChar (c : Char) : (ofChar c).value? = some c := by
  unfold ofChar
  split <;> rfl

theorem isInert_ofChar (c : Char) : (ofChar c).IsInert := by
  unfold ofChar
  split <;> simp_all [IsInert, isLineBreak]

end LiteralPart

/-- The parts that are written for a text. -/
def literalParts (text : String) : List LiteralPart := text.toList.map .ofChar

/-- The text that the parts of a literal stand for. -/
def literalValue (parts : List LiteralPart) : Option String :=
  (parts.mapM LiteralPart.value?).map .ofList

theorem literalBody_eq (text : String) :
    (literalBody text).toList = (literalParts text).flatMap LiteralPart.text := by
  simp [literalBody, literalParts, List.flatMap_map, LiteralPart.text_ofChar]

theorem literalValue_literalParts (text : String) :
    literalValue (literalParts text) = some text := by
  have each : ∀ cs : List Char, (cs.map LiteralPart.ofChar).mapM LiteralPart.value? = some cs := by
    intro cs
    induction cs with
    | nil => rfl
    | cons c cs ih => simp [LiteralPart.value?_ofChar, ih]
  simp [literalValue, literalParts, each]

theorem isInert_of_mem_literalParts {text : String} {part : LiteralPart}
    (mem : part ∈ literalParts text) : part.IsInert := by
  obtain ⟨c, -, rfl⟩ := List.mem_map.1 mem
  exact LiteralPart.isInert_ofChar c

/-- Nothing that is written for a text ends a line. -/
theorem not_isLineBreak_of_mem_literalBody {text : String} {c : Char}
    (mem : c ∈ (literalBody text).toList) : ¬ isLineBreak c := by
  rw [literalBody_eq] at mem
  obtain ⟨part, among, written⟩ := List.mem_flatMap.1 mem
  exact (isInert_of_mem_literalParts among).not_isLineBreak written

/-! ### Literals in source -/

/-- The inside of a literal, from behind its opening quote, and what follows its closing one. -/
def cutLiteral : List Char → Option (List LiteralPart × List Char)
  | [] => none
  | ['\\'] => none
  | '\\' :: c :: cs => (cutLiteral cs).map fun (parts, rest) => (.escape c :: parts, rest)
  | c :: cs =>
    if c = '"' then some ([], cs)
    else (cutLiteral cs).map fun (parts, rest) => (.plain c :: parts, rest)

/-- A literal is cut into the parts it is written with. -/
theorem eq_of_cutLiteral {cs rest : List Char} {parts : List LiteralPart}
    (cut : cutLiteral cs = some (parts, rest)) :
    cs = parts.flatMap LiteralPart.text ++ '"' :: rest := by
  induction cs using cutLiteral.induct generalizing parts with
  | case1 => cases cut
  | case2 => cases cut
  | case3 c cs ih =>
    obtain ⟨⟨parts, rest⟩, inner, same⟩ := Option.map_eq_some_iff.1 cut
    cases same
    rw [ih inner]
    rfl
  | case4 cs =>
    cases cut
    rfl
  | case5 c cs _ _ plain ih =>
    rw [cutLiteral, if_neg plain] at cut
    · obtain ⟨⟨parts, rest⟩, inner, same⟩ := Option.map_eq_some_iff.1 cut
      cases same
      rw [ih inner]
      rfl
    · assumption
    · assumption

theorem length_lt_of_cutLiteral {cs rest : List Char} {parts : List LiteralPart}
    (cut : cutLiteral cs = some (parts, rest)) : rest.length < cs.length := by
  rw [eq_of_cutLiteral cut, List.length_append, List.length_cons]
  omega

/-- The first quote that is left free ends a literal. -/
theorem cutLiteral_text {parts : List LiteralPart} (inert : ∀ part ∈ parts, part.IsInert)
    (rest : List Char) :
    cutLiteral (parts.flatMap LiteralPart.text ++ '"' :: rest) = some (parts, rest) := by
  induction parts with
  | nil => rfl
  | cons part parts ih =>
    obtain ⟨first, others⟩ := List.forall_mem_cons.1 inert
    cases part with
    | plain c =>
      obtain ⟨-, slash, quote, -⟩ := first
      simp [LiteralPart.text, cutLiteral, slash, quote, ih others]
    | escape c => simp [LiteralPart.text, cutLiteral, ih others]

/-- What is written for a text is a whole literal. -/
theorem cutLiteral_literalBody (text : String) (rest : List Char) :
    cutLiteral ((literalBody text).toList ++ '"' :: rest) = some (literalParts text, rest) := by
  rw [literalBody_eq]
  exact cutLiteral_text (fun _ => isInert_of_mem_literalParts) rest

/-- The literals of a source, if each of them is closed. -/
def literalsIn : List Char → Option (List (List LiteralPart))
  | [] => some []
  | c :: cs =>
    if c = '"' then
      match _closed : cutLiteral cs with
      | some (parts, rest) => (literalsIn rest).map (parts :: ·)
      | none => none
    else literalsIn cs
termination_by cs => cs.length
decreasing_by
  · exact Nat.lt_succ_of_lt (length_lt_of_cutLiteral _closed)
  · exact Nat.lt_succ_self _

theorem literalsIn_append {cs : List Char} (unquoted : '"' ∉ cs) (rest : List Char) :
    literalsIn (cs ++ rest) = literalsIn rest := by
  induction cs with
  | nil => rfl
  | cons c cs ih =>
    obtain ⟨first, others⟩ := not_or.1 (mt List.mem_cons.2 unquoted)
    rw [List.cons_append, literalsIn, if_neg (Ne.symm first), ih others]

theorem literalsIn_literal (text : String) (rest : List Char) :
    literalsIn ('"' :: (literalBody text).toList ++ '"' :: rest)
      = (literalsIn rest).map (literalParts text :: ·) := by
  rw [List.cons_append, literalsIn, if_pos rfl]
  split
  · rename_i closed
    rw [cutLiteral_literalBody] at closed
    cases closed
    rfl
  · rename_i unclosed
    rw [cutLiteral_literalBody] at unclosed
    cases unclosed

end AssistedInjection.Source
