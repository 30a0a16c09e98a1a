import AssistedInjection.Proofs.Kotlin.NamesFromParts
import AssistedInjection.Proofs.Source.Lines
import AssistedInjection.Source.Factory

/-!
The head of a file and the type below it, as a reader of the text finds them. Lines that are blank
or hold a comment, the package or an import may stand before all else; where the first other line
stands, the head is over. What is read there is what the file was written with.

                              // Generated by assisted-factory. Do not edit.
    in the package com.in     package com.`in`

    imports com.other.Text    import com.other.Text

    no part of the head       @ContributesBinding(Scope::class, Api::class)
                              @AssistedFactory
    declares Api_Factory      public interface Api_Factory : Api {
-/

namespace AssistedInjection.Source

open Kotlin

/-! ### Reading a file -/

/-- The lines of a file. -/
def linesIn (content : String) : List String := (linesOf content.toList).map .ofList

/-- What stands behind some words on a line that begins with them. -/
def behind? (words line : String) : Option String :=
  (line.toList.dropPrefix? words.toList).map .ofList

/-- Whether a line can stand before all that a file declares. -/
def isHeadLine (line : String) : Bool :=
  line.isEmpty || ["//", "package ", "import "].any fun words => (behind? words line).isSome

/-- The lines before all that a file declares. -/
def headOf (content : String) : List String := (linesIn content).takeWhile isHeadLine

/-- The lines from the first declaration on. -/
def bodyOf (content : String) : List String := (linesIn content).dropWhile isHeadLine

/-- The imports of a file, in order and without the word `import`. -/
def importsIn (content : String) : List String := (headOf content).filterMap (behind? "import ")

/-- The package of a file, without backticks; where no line names one, it is the default one. -/
def packageIn (content : String) : String :=
  ".".intercalate (((headOf content).findSome? (behind? "package ")).elim [] identifiers)

/-- The name of the type that a line opens. -/
def opened? (line : String) : Option String :=
  (behind? "public interface " line <|> behind? "public abstract class " line).map
    fun rest => .ofList (rest.toList.takeWhile (· ≠ ' '))

/-- The first type that a file declares. -/
def declaredIn (content : String) : Option String := (bodyOf content).findSome? opened?

/-- What decides which classes the names in a file stand for: what is read off its text, and the
classes that it refers to. -/
def scopeOf (content : String) (mentioned : List ClassName) : FileScope where
  package := packageIn content
  own := (declaredIn content).getD ""
  imports := importsIn content
  mentioned := mentioned

/-! ### The lines that are written -/

/-- The lines before the annotations: a comment, the package and the imports. -/
def headLines (package : String) (imports : List String) : List String :=
  "// Generated by assisted-factory. Do not edit." ::
    ((if package = "" then [] else ["package " ++ dottedName package, ""]) ++
      if imports.isEmpty then [] else imports.map ("import " ++ ·) ++ [""])

/-- The words before the name of the generated type. -/
def typeWords : BoundKind → String
  | .interface => "public interface "
  | .abstractClass => "public abstract class "

/-- What is written behind the bound type where the generated type is opened. -/
def typeEnd : BoundKind → String
  | .interface => " \x7b"
  | .abstractClass => "() \x7b"

/-- The annotations of the generated type and the line that opens it. -/
def typeLines (p : Plan) (m : Markers) (i : Imports) : List String :=
  ["@" ++ (i.spell m.contributesBinding ++ "(" ++ i.spell p.scope ++ "::class, " ++
      i.spell p.bound.name ++ "::class)"),
    "@" ++ i.spell m.assistedFactory,
    typeWords p.bound.kind ++ ((factoryName p.annotated).outermost ++ " : " ++
      i.spell p.bound.name ++ typeEnd p.bound.kind)]

/-- All lines before those of the method. -/
def openingLines (p : Plan) (m : Markers) : List String :=
  headLines (factoryName p.annotated).package (importsOf p m).lines ++ typeLines p m (importsOf p m)

theorem unlines_headLines (package : String) (i : Imports) :
    unlines (headLines package i.lines) = header ++ packageLine package ++ importLines i := by
  rw [← String.toList_inj]
  unfold headLines packageLine importLines
  split <;> split <;> simp [unlines, header, List.flatMap_map]

theorem unlines_typeLines (p : Plan) (m : Markers) (i : Imports) :
    unlines (typeLines p m i) = annotationLines p m i ++ typeLine p i := by
  rw [← String.toList_inj]
  unfold typeLine
  cases kind : p.bound.kind <;>
    simp [unlines, typeLines, annotationLines, typeWords, typeEnd, kind]

/-- The source of a factory is these lines and those of the method. -/
theorem content_eq (p : Plan) (m : Markers) :
    content p m = unlines (openingLines p m) ++ (methodLines p m (importsOf p m) ++ "\x7d\n") := by
  rw [openingLines, unlines_append, unlines_headLines, unlines_typeLines]
  simp [content, String.append_assoc]

/-! ### Lines by how they begin -/

theorem dropPrefix?_append (front rest : List Char) :
    (front ++ rest).dropPrefix? front = some rest :=
  List.dropPrefix?_append_of_beq rest BEq.rfl

theorem behind?_append (words rest : String) : behind? words (words ++ rest) = some rest := by
  rw [behind?, String.toList_append, dropPrefix?_append, Option.map_some, String.ofList_toList]

theorem behind?_eq_some_iff {words line rest : String} :
    behind? words line = some rest ↔ words ++ rest = line := by
  constructor
  · intro found
    obtain ⟨cs, dropped, rfl⟩ := Option.map_eq_some_iff.1 found
    obtain ⟨front, split, same⟩ := List.dropPrefix?_eq_some_iff.1 dropped
    rw [← String.toList_inj, split, String.toList_append, String.toList_ofList, eq_of_beq same]
  · rintro rfl
    exact behind?_append words rest

/-- Nothing stands behind words that a line does not begin with. -/
theorem behind?_eq_none {words line : String} {c : Char} (first : words.toList.head? = some c)
    (other : line.toList.head? ≠ some c) : behind? words line = none := by
  cases found : behind? words line with
  | none => rfl
  | some rest =>
    rw [← behind?_eq_some_iff.1 found, String.toList_append, List.head?_append, first] at other
    exact absurd rfl other

/-- A line of the head is blank or begins with words that are known there. -/
theorem isHeadLine_iff {line : String} : isHeadLine line ↔
    line = "" ∨ ∃ words ∈ ["//", "package ", "import "], ∃ rest, words ++ rest = line := by
  simp only [isHeadLine, Bool.or_eq_true, String.isEmpty_iff, List.any_eq_true,
    Option.isSome_iff_exists, behind?_eq_some_iff]

theorem isHeadLine_append {words : String} (known : words ∈ ["//", "package ", "import "])
    (rest : String) : isHeadLine (words ++ rest) :=
  isHeadLine_iff.2 (.inr ⟨words, known, rest, rfl⟩)

/-- The head of a file is over where an annotation stands. -/
theorem not_isHeadLine_annotation (rest : String) : ¬ isHeadLine ("@" ++ rest) := by
  have first : ("@" ++ rest).toList.head? = some '@' := by simp
  have begins : ∀ words ∈ ["//", "package ", "import "], words.toList.head?.any (· ≠ '@') := by
    decide
  intro head
  rcases isHeadLine_iff.1 head with empty | ⟨words, known, rest', same⟩
  · rw [empty] at first
    cases first
  · obtain ⟨c, start, other⟩ := (Option.any_eq_true ..).1 (begins words known)
    rw [← same, String.toList_append, List.head?_append, start] at first
    exact of_decide_eq_true other (Option.some.inj first)

section

variable {package : String} {imports : List String}

theorem isHeadLine_of_mem_headLines {l : String} (mem : l ∈ headLines package imports) :
    isHeadLine l := by
  have blank : isHeadLine "" := rfl
  rcases List.mem_cons.1 mem with rfl | mem
  · decide
  rcases List.mem_append.1 mem with mem | mem <;> split at mem
  · cases mem
  · rcases List.mem_pair.1 mem with rfl | rfl
    · exact isHeadLine_append (by decide) _
    · exact blank
  · cases mem
  · rcases List.mem_append.1 mem with mem | mem
    · obtain ⟨line, -, rfl⟩ := List.mem_map.1 mem
      exact isHeadLine_append (by decide) line
    · rw [List.mem_singleton.1 mem]
      exact blank

/-- The imports are read off the lines before the annotations. -/
theorem filterMap_import_headLines :
    (headLines package imports).filterMap (behind? "import ") = imports := by
  have comment : behind? "import " "// Generated by assisted-factory. Do not edit." = none := by
    decide
  have blank : behind? "import " "" = none := rfl
  have named (rest : String) : behind? "import " ("package " ++ rest) = none :=
    behind?_eq_none (c := 'i') rfl (by simp)
  have all : (imports.map ("import " ++ ·)).filterMap (behind? "import ") = imports := by
    have each : behind? "import " ∘ ("import " ++ ·) = some := funext (behind?_append "import ")
    rw [List.filterMap_map, each, List.filterMap_some]
  unfold headLines
  split <;> split <;> simp_all

/-- The package is read off them where it is named. -/
theorem findSome?_package_headLines :
    (headLines package imports).findSome? (behind? "package ")
      = if package = "" then none else some (dottedName package) := by
  have comment : behind? "package " "// Generated by assisted-factory. Do not edit." = none := by
    decide
  have blank : behind? "package " "" = none := rfl
  have imported (line : String) : behind? "package " ("import " ++ line) = none :=
    behind?_eq_none (c := 'p') rfl (by simp)
  have named (rest : String) : behind? "package " ("package " ++ rest) = some rest :=
    behind?_append "package " rest
  unfold headLines
  split <;> split <;> simp_all [List.findSome?_append, List.findSome?_map]

/-- The identifiers of an escaped package are its segments. -/
theorem identifiers_dottedName {ss : List String} (some : ss ≠ []) (words : ∀ s ∈ ss, IsWord s) :
    identifiers (dottedName (".".intercalate ss)) = ss := by
  obtain ⟨first, rest, rfl⟩ := List.exists_cons_of_ne_nil some
  rw [dottedName_intercalate some words]
  exact identifiers_of_chain (cut_escaped words) (stand_identifierToken (first :: rest))

/-- The name of a type is read off the line that opens it. -/
theorem opened?_typeWords (kind : BoundKind) {name : String} (unspaced : ' ' ∉ name.toList)
    (rest : String) : opened? (typeWords kind ++ (name ++ " : " ++ rest)) = some name := by
  have inside : ∀ c ∈ name.toList, decide (c ≠ ' ') = true := fun c mem =>
    decide_eq_true (ne_of_mem_of_not_mem mem unspaced)
  have split : (name ++ " : " ++ rest).toList = name.toList ++ [' ', ':', ' '] ++ rest.toList := by
    simp
  have taken : (name ++ " : " ++ rest).toList.takeWhile (· ≠ ' ') = name.toList := by
    rw [split, List.append_assoc]
    exact (span_stops inside (by simp)).1
  have found : (behind? "public interface " (typeWords kind ++ (name ++ " : " ++ rest)) <|>
      behind? "public abstract class " (typeWords kind ++ (name ++ " : " ++ rest)))
        = some (name ++ " : " ++ rest) := by
    cases kind with
    | interface => rw [typeWords, behind?_append]; rfl
    | abstractClass =>
      -- The line is tried as that of an interface first.
      have other : behind? "public interface " ("public abstract class " ++
          (name ++ " : " ++ rest)) = none := by
        simp [behind?, List.dropPrefix?]
      rw [typeWords, behind?_append, other]
      rfl
  rw [opened?, found, Option.map_some, taken, String.ofList_toList]

/-- An annotation opens no type. -/
theorem opened?_annotation (rest : String) : opened? ("@" ++ rest) = none := by
  have none {words : String} (first : words.toList.head? = some 'p') :
      behind? words ("@" ++ rest) = none :=
    behind?_eq_none first (by simp)
  rw [opened?, none rfl, none rfl]
  rfl

end

/-! ### Reading what was written -/

section

variable {p : Plan} {m : Markers}

theorem isBare_of_mem_headLines {package : String} {imports : List String} (bare : IsBare package)
    (each : ∀ line ∈ imports, IsBare line) :
    ∀ l ∈ headLines package imports, IsBare l := by
  have comment : IsBare "// Generated by assisted-factory. Do not edit." := by decide
  have blank : IsBare "" := by decide
  have named : IsBare ("package " ++ dottedName package) :=
    isBare_append.2 ⟨by decide, bare.dottedName⟩
  have imported : ∀ line ∈ imports, IsBare ("import " ++ line) := fun line mem =>
    isBare_append.2 ⟨by decide, each line mem⟩
  unfold headLines
  split <;> split <;> simp_all [or_imp]

theorem isBare_of_mem_typeLines (classes : ∀ c ∈ mentioned p m, IsBareClass c) (i : Imports) :
    ∀ l ∈ typeLines p m i, IsBare l := by
  have spelled {c : ClassName} (mem : c ∈ mentioned p m) : IsBare (i.spell c) :=
    (classes c mem).spell i
  have binding : IsBare (i.spell m.contributesBinding) := spelled (by simp [mentioned])
  have factory : IsBare (i.spell m.assistedFactory) := spelled (by simp [mentioned])
  have scope : IsBare (i.spell p.scope) := spelled (by simp [mentioned])
  have bound : IsBare (i.spell p.bound.name) := spelled (by simp [mentioned])
  have annotated : IsBareClass p.annotated := classes _ (by simp [mentioned])
  have name : IsBare (factoryName p.annotated).outermost :=
    isBare_append.2 ⟨annotated.simpleName, by decide⟩
  have words : IsBare (typeWords p.bound.kind) := by cases p.bound.kind <;> decide
  have ending : IsBare (typeEnd p.bound.kind) := by cases p.bound.kind <;> decide
  simp only [typeLines, List.forall_mem_cons, isBare_append]
  refine ⟨⟨by decide, ⟨⟨⟨⟨binding, by decide⟩, scope⟩, by decide⟩, bound⟩, by decide⟩,
    ⟨by decide, factory⟩, ⟨words, ⟨⟨name, by decide⟩, bound⟩, ending⟩, List.forall_mem_nil _⟩

/-- No line before those of the method has quotes or is more than one line. -/
theorem isBare_of_mem_openingLines (classes : ∀ c ∈ mentioned p m, IsBareClass c) :
    ∀ l ∈ openingLines p m, IsBare l := by
  have annotated : IsBareClass p.annotated := classes _ (by simp [mentioned])
  have imports : ∀ line ∈ (importsOf p m).lines, IsBare line := by
    intro line mem
    obtain ⟨d, far, -, rfl⟩ := Imports.mem_lines.1 mem
    obtain ⟨c, among, rfl⟩ := List.mem_map.1 (Imports.mem_far.1 far).1
    exact (classes c among).container.canonical.dottedName
  refine List.forall_mem_append.2 ⟨?_, isBare_of_mem_typeLines classes _⟩
  exact isBare_of_mem_headLines (annotated _ (List.mem_cons_self ..)) imports

theorem exists_linesIn_content (classes : ∀ c ∈ mentioned p m, IsBareClass c) :
    ∃ rest, linesIn (content p m) = openingLines p m ++ rest := by
  refine ⟨linesIn (methodLines p m (importsOf p m) ++ "\x7d\n"), ?_⟩
  rw [linesIn, content_eq, String.toList_append,
    linesOf_unlines (isBare_of_mem_openingLines classes), List.map_append, List.map_map]
  simp [linesIn, Function.comp_def]

/-- The head of the source of a factory, and the lines that open the type below it. -/
theorem span_content (classes : ∀ c ∈ mentioned p m, IsBareClass c) :
    headOf (content p m) = headLines (factoryName p.annotated).package (importsOf p m).lines ∧
      ∃ rest, bodyOf (content p m) = typeLines p m (importsOf p m) ++ rest := by
  obtain ⟨rest, lines⟩ := exists_linesIn_content classes
  have inside : ∀ l ∈ headLines (factoryName p.annotated).package (importsOf p m).lines,
      isHeadLine l := fun l mem => isHeadLine_of_mem_headLines mem
  have stops : ∀ l ∈ (typeLines p m (importsOf p m) ++ rest).head?, ¬ isHeadLine l := by
    rintro l ⟨⟩
    exact not_isHeadLine_annotation _
  obtain ⟨head, body⟩ := span_stops inside stops
  rw [headOf, bodyOf, lines, openingLines, List.append_assoc]
  exact ⟨head, rest, body⟩

end

/-- What is read off the source of a factory: the imports, the package and the type, as they were
meant. -/
theorem readings_of_content {p : Plan} {m : Markers} (back : ∀ c ∈ mentioned p m, c.parsesBack) :
    importsIn (content p m) = (importsOf p m).lines ∧
      packageIn (content p m) = (factoryName p.annotated).package ∧
      declaredIn (content p m) = some (factoryName p.annotated).outermost := by
  have annotated : p.annotated ∈ mentioned p m := by simp [mentioned]
  obtain ⟨ps, h⟩ := exists_byConvention (back _ annotated)
  obtain ⟨head, rest, body⟩ := span_content fun c mem => IsBareClass.of_parsesBack (back c mem)
  refine ⟨?_, ?_, ?_⟩
  · rw [importsIn, head, filterMap_import_headLines]
  · rw [packageIn, head, findSome?_package_headLines]
    split
    · rename_i default
      exact default.symm
    · rename_i named
      have package : (factoryName p.annotated).package = ".".intercalate ps := h.package
      have some : ps ≠ [] := by
        rintro rfl
        exact named package
      have words : ∀ s ∈ ps, IsWord s := fun s mem => h.words s (List.mem_append_left _ mem)
      rw [package, Option.elim_some, identifiers_dottedName some words]
  · have word : IsWord p.annotated.simpleName :=
      h.words _ (List.mem_append_right _ p.annotated.simpleName_mem_names)
    have unspaced : ' ' ∉ (factoryName p.annotated).outermost.toList := by
      change ' ' ∉ (p.annotated.simpleName ++ suffix).toList
      rw [String.toList_append, List.mem_append, not_or]
      exact ⟨word.not_mem (by decide), by decide⟩
    rw [declaredIn, body, typeLines]
    simp only [List.cons_append, List.findSome?_cons, opened?_annotation]
    rw [String.append_assoc, opened?_typeWords _ unspaced]

theorem scopeOf_content {p : Plan} {m : Markers} (back : ∀ c ∈ mentioned p m, c.parsesBack) :
    scopeOf (content p m) (mentioned p m)
      = fileScope (factoryName p.annotated).package (factoryName p.annotated).outermost
          (mentioned p m) := by
  obtain ⟨imports, package, declared⟩ := readings_of_content back
  rw [scopeOf, imports, package, declared]
  rfl

end AssistedInjection.Source
