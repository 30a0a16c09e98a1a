import AssistedInjection.Proofs.Kotlin.RoundTrip
import AssistedInjection.Proofs.Source.Heading

/-!
The source of a factory by its pieces: fixed text, and the classes that are spelled in between. All
of these are mentioned, so each is found again by a reader of the file, who takes its imports, its
package and its own type from the text; and so is each parameter's type as a whole.

    |  override fun create(⏎    x: ||(||Int||) -> ||Api||,⏎  ): ||Api||⏎
                                     kotlin.Int    com.test.Api   com.test.Api
-/

namespace AssistedInjection.Source

open Kotlin

/-! ### Pieces -/

/-- The text of pieces. -/
def textOf (spelling : ClassName → String) (ps : List Piece) : String :=
  String.join (ps.map (Piece.spell spelling))

section

variable (spelling : ClassName → String)

theorem textOf_nil : textOf spelling [] = "" := rfl

theorem textOf_cons (p : Piece) (ps : List Piece) :
    textOf spelling (p :: ps) = p.spell spelling ++ textOf spelling ps := by
  simp [textOf]

theorem textOf_append (ps qs : List Piece) :
    textOf spelling (ps ++ qs) = textOf spelling ps ++ textOf spelling qs := by
  simp [textOf]

theorem textOf_flatMap {α : Type} (f : α → List Piece) (l : List α) :
    textOf spelling (l.flatMap f) = String.join (l.map fun a => textOf spelling (f a)) := by
  induction l with
  | nil => rfl
  | cons a l ih => rw [List.flatMap_cons, textOf_append, ih, List.map_cons, String.join_cons]

end

/-- The pieces of the annotations of the generated type. -/
def annotationPieces (p : Plan) (m : Markers) : List Piece :=
  [.text "@", .name m.contributesBinding, .text "(", .name p.scope, .text "::class, ",
    .name p.bound.name, .text "::class)\n", .text "@", .name m.assistedFactory, .text "\n"]

/-- The pieces of the line that opens the generated type. -/
def typePieces (p : Plan) : List Piece :=
  [.text (typeWords p.bound.kind), .text (factoryName p.annotated).outermost, .text " : ",
    .name p.bound.name, .text (typeEnd p.bound.kind), .text "\n"]

/-- The pieces of the annotation that carries the key of a parameter. -/
def keyPieces (m : Markers) : Option String → List Piece
  | some key => [.text "@", .name m.assisted, .text "(\"", .text (literalBody key), .text "\") "]
  | none => []

/-- The pieces of the line of a parameter. -/
def linePieces (m : Markers) (q : FactoryParameter) : List Piece :=
  .text "    " :: keyPieces m q.key ++ .text (identifier q.name) :: .text ": " :: q.type.pieces ++
    [.text ",\n"]

/-- The words before the name of the method. -/
def methodWords : BoundKind → String
  | .interface => "  override fun "
  | .abstractClass => "  abstract override fun "

/-- The pieces of the method. -/
def methodPieces (p : Plan) (m : Markers) : List Piece :=
  [.text (methodWords p.bound.kind), .text (identifier p.method.name), .text "("] ++
    (if p.method.parameters.isEmpty then []
      else .text "\n" :: p.method.parameters.flatMap (linePieces m) ++ [.text "  "]) ++
    [.text "): ", .name p.annotated, .text "\n"]

/-- The pieces of the source of a factory. -/
def filePieces (p : Plan) (m : Markers) : List Piece :=
  .text (unlines (headLines (factoryName p.annotated).package (importsOf p m).lines)) ::
    annotationPieces p m ++ typePieces p ++ methodPieces p m ++ [.text "\x7d\n"]

theorem textOf_linePieces (m : Markers) (i : Imports) (q : FactoryParameter) :
    textOf i.spell (linePieces m q) = parameterLine m i q := by
  have key : textOf i.spell (keyPieces m q.key) = keyAnnotation m i q.key := by
    cases q.key <;>
      simp [keyPieces, keyAnnotation, textOf_cons, textOf_nil, Piece.spell, String.append_assoc]
  have type : textOf i.spell q.type.pieces = q.type.write i.spell := rfl
  simp [linePieces, parameterLine, textOf_cons, textOf_append, textOf_nil, Piece.spell, key, type,
    String.append_assoc]

theorem textOf_methodPieces (p : Plan) (m : Markers) (i : Imports) :
    textOf i.spell (methodPieces p m) = methodLines p m i := by
  have words : methodWords p.bound.kind = "  " ++ modifiers p.bound.kind ++ " fun " := by
    cases p.bound.kind <;> rfl
  unfold methodPieces methodLines
  split <;>
    simp [textOf_cons, textOf_append, textOf_nil, textOf_flatMap, textOf_linePieces, Piece.spell,
      words, String.append_assoc, -String.reduceAppend]

/-- The source of a factory is the text of its pieces. -/
theorem textOf_filePieces (p : Plan) (m : Markers) :
    textOf (importsOf p m).spell (filePieces p m) = content p m := by
  have type : textOf (importsOf p m).spell (annotationPieces p m ++ typePieces p)
      = unlines (typeLines p m (importsOf p m)) := by
    simp [annotationPieces, typePieces, typeLines, unlines, textOf_cons, textOf_nil, Piece.spell,
      String.append_assoc]
  rw [content_eq, openingLines, unlines_append, ← type]
  simp [filePieces, textOf_cons, textOf_append, textOf_nil, textOf_methodPieces, Piece.spell,
    String.append_assoc]

/-! ### The classes that are spelled -/

/-- The classes that are spelled in the line of a parameter. -/
def spelledInLine (m : Markers) (q : FactoryParameter) : List ClassName :=
  (if q.key.isSome then [m.assisted] else []) ++ q.type.classNames

/-- The classes that are spelled in the source of a factory, from top to bottom. -/
def spelled (p : Plan) (m : Markers) : List ClassName :=
  [m.contributesBinding, p.scope, p.bound.name, m.assistedFactory, p.bound.name] ++
    p.method.parameters.flatMap (spelledInLine m) ++ [p.annotated]

theorem namesIn_linePieces (m : Markers) (q : FactoryParameter) :
    namesIn (linePieces m q) = spelledInLine m q := by
  cases key : q.key <;>
    simp [linePieces, keyPieces, spelledInLine, key, TypeExpr.namesIn_pieces]

theorem namesIn_filePieces (p : Plan) (m : Markers) : namesIn (filePieces p m) = spelled p m := by
  have lines : namesIn (p.method.parameters.flatMap (linePieces m))
      = p.method.parameters.flatMap (spelledInLine m) :=
    namesIn_flatMap fun q _ => namesIn_linePieces m q
  have method : namesIn (methodPieces p m)
      = p.method.parameters.flatMap (spelledInLine m) ++ [p.annotated] := by
    unfold methodPieces
    split
    · rename_i none
      simp [List.isEmpty_iff.1 none]
    · simp [lines]
  simp [filePieces, annotationPieces, typePieces, spelled, method]

/-- The imports are made for the classes that are spelled, and for no others. -/
theorem mem_spelled_iff {p : Plan} {m : Markers} {c : ClassName} :
    c ∈ spelled p m ↔ c ∈ mentioned p m := by
  have keyed : isKeyed p ↔ ∃ q ∈ p.method.parameters, q.key.isSome := List.any_eq_true
  simp only [spelled, spelledInLine, mentioned, List.mem_append, List.mem_cons, List.mem_flatMap]
  grind

theorem mem_mentioned_of_mem_filePieces {p : Plan} {m : Markers} {c : ClassName}
    (mem : .name c ∈ filePieces p m) : c ∈ mentioned p m :=
  mem_spelled_iff.1 (namesIn_filePieces p m ▸ mem_namesIn.2 mem)

/-! ### Reading the source -/

/-- A type that is written into a file is read back, and the names in it stand for its classes; the
one thing that can come between is a name that begins with `suspend` where the keyword could
stand. -/
theorem parse_write_of_resolves {i : Imports} {f : FileScope} {t : TypeExpr}
    (back : ∀ c ∈ t.classNames, c.parsesBack)
    (resolves : ∀ c ∈ t.classNames, f.resolve (i.written c) = c)
    (clear : ∀ u ∈ t.parts, ∀ c ∈ u.leadingClass?,
      (tokens (i.spell c)).head? ≠ some (.word "suspend")) :
    ∃ t', TypeExpr.parse (t.write i.spell) = .ok t' ∧ t'.mapNames f.resolve = t := by
  have readable : Readable (spelledTokens i.spell) i.written t :=
    ⟨fun c mem => ClassName.parse_eq_ok_iff.1 (i.parse_spell (back c mem)), clear⟩
  exact ⟨_, TypeExpr.parse_write readable,
    (TypeExpr.mapNames_mapNames ..).trans (TypeExpr.mapNames_eq_self resolves)⟩

/-- The imports, the package and the type are read off the source of a factory as they were meant.
By what is read there, the classes that are spelled in it are found again, and so are the types of
the parameters. -/
theorem render_sound (p : Plan) (m : Markers) (back : ∀ c ∈ mentioned p m, c.parsesBack)
    (reachable : ∀ c ∈ mentioned p m, c.package ≠ "" ∨ (render p m).package = "") :
    (importsIn (render p m).content = (importsOf p m).lines ∧
        packageIn (render p m).content = (render p m).package ∧
        declaredIn (render p m).content = some (render p m).typeName) ∧
      (render p m).content = textOf (importsOf p m).spell (filePieces p m) ∧
      (∀ c, .name c ∈ filePieces p m → c ∈ mentioned p m) ∧
      (∀ c ∈ mentioned p m, ∃ name, ClassName.parse ((importsOf p m).spell c) = .ok name ∧
        (scopeOf (render p m).content (mentioned p m)).resolve name = c) ∧
      ∀ q ∈ p.method.parameters,
        (∀ u ∈ q.type.parts, ∀ c ∈ u.leadingClass?,
          (tokens ((importsOf p m).spell c)).head? ≠ some (.word "suspend")) →
        ∃ t, TypeExpr.parse (q.type.write (importsOf p m).spell) = .ok t ∧
          t.mapNames (scopeOf (render p m).content (mentioned p m)).resolve = q.type := by
  have resolves : ∀ c ∈ mentioned p m,
      (scopeOf (render p m).content (mentioned p m)).resolve ((importsOf p m).written c) = c := by
    intro c mem
    change (scopeOf (content p m) _).resolve _ = c
    rw [scopeOf_content back]
    exact resolve_written back mem (reachable c mem)
  refine ⟨readings_of_content back, (textOf_filePieces p m).symm,
    fun c => mem_mentioned_of_mem_filePieces,
    fun c mem => ⟨_, (importsOf p m).parse_spell (back c mem), resolves c mem⟩,
    fun q parameter clear => ?_⟩
  have among : ∀ c ∈ q.type.classNames, c ∈ mentioned p m := fun c mem =>
    List.mem_append_right _ (List.mem_flatMap.2 ⟨q, parameter, mem⟩)
  exact parse_write_of_resolves (fun c mem => back c (among c mem))
    (fun c mem => resolves c (among c mem)) clear

/-- A function of a class that loses its simple name to the annotated class. -/
def competing : TypeExpr :=
  .functionType (some (.ofClass (.topLevel "com.other" "Api")))
    [.classType ⟨"com.in", "Text", ["Line"]⟩ [] true] (.ofClass (.topLevel "kotlin" "Unit")) false
    false

/-- A plan with a parameter of this type. -/
def competingPlan : Plan where
  annotated := .topLevel "com.test" "Api"
  scope := .topLevel "com.test" "Scope"
  bound := ⟨⟨"com.test", "Api", ["Factory"]⟩, .interface⟩
  method := ⟨"create", [⟨"act", competing, some "act", "act"⟩]⟩
  origin := none

theorem render_sound_competing :
    (∀ c ∈ mentioned competingPlan .standard, c.parsesBack) ∧
      (∀ c ∈ mentioned competingPlan .standard,
        c.package ≠ "" ∨ (render competingPlan .standard).package = "") ∧
      "com.`in`.Text" ∈ importsIn (render competingPlan .standard).content ∧
      ∃ t, TypeExpr.parse "com.other.Api.(Text.Line?) -> Unit" = .ok t ∧
        t.mapNames (scopeOf (render competingPlan .standard).content
          (mentioned competingPlan .standard)).resolve = competing := by
  have back : ∀ c ∈ mentioned competingPlan .standard, c.parsesBack := by decide +kernel
  have reachable : ∀ c ∈ mentioned competingPlan .standard,
      c.package ≠ "" ∨ (render competingPlan .standard).package = "" := by decide +kernel
  have written : competing.write (importsOf competingPlan .standard).spell
      = "com.other.Api.(Text.Line?) -> Unit" := by decide +kernel
  have imported : "com.`in`.Text" ∈ (importsOf competingPlan .standard).lines := by decide +kernel
  obtain ⟨⟨imports, -⟩, -, -, -, types⟩ :=
    render_sound competingPlan .standard back reachable
  have sound := types _ (List.mem_singleton.2 rfl) (by decide +kernel)
  exact ⟨back, reachable, imports ▸ imported, written ▸ sound⟩

end AssistedInjection.Source
