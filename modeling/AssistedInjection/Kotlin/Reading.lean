import AssistedInjection.Kotlin.Grammar
import AssistedInjection.Kotlin.TypeExpr.Printer

/-!
Reading class names and types from text.

A text that is no name or type is refused with the constructs that were expected at the furthest
place any attempt reached, and the column of that place in its line.
-/

namespace AssistedInjection.Kotlin

/-- Why a text was refused. -/
inductive SyntaxProblem where
  /-- What was expected, and the column, counted from one. -/
  | expected (constructs : String) (column : Nat)
  /-- A class needs at least one simple name. -/
  | noNames
deriving DecidableEq, Repr

/-- A text that was refused, and why. -/
structure SyntaxError where
  input : String
  problem : SyntaxProblem
deriving DecidableEq, Repr

namespace SyntaxProblem

/-- The wording of a problem. -/
def message : SyntaxProblem → String
  | expected constructs column => "expected " ++ constructs ++ " at column " ++ toString column
  | noNames => "empty class name"

end SyntaxProblem

/-- The wording of an error, which quotes the text. -/
def SyntaxError.message (e : SyntaxError) : String :=
  "bad type `" ++ e.input ++ "`: " ++ e.problem.message

/-- The column, counted from one, of what comes after the given text: lines end with a line feed. -/
def columnAfter (before : List Char) : Nat := (before.reverse.takeWhile (· != '\n')).length + 1

/-- The characters before the place where `left` lexemes remain. One more than there are lexemes
stands for the very start of the text. -/
def textBefore (text : List Char) (ls : List Lexeme) (left : Nat) : List Char :=
  if ls.length < left then []
  else match ls[ls.length - left]? with
    | some l => text.take l.start
    | none => text

/-- The place of the very start of a text, which layout in front of the first lexeme sets apart from
the place of that lexeme. -/
def startOf (text : List Char) (ls : List Lexeme) : Nat :=
  if text.head?.any isLayout then ls.length + 1 else ls.length

/-- Where and why `p`, tried as `construct` on a whole text, fails. -/
def problemOf {α : Type} (construct : Construct) (p : Parser α) (text : List Char) :
    SyntaxProblem :=
  let ls := lexemes 0 text
  let origin := startOf text ls
  let attempts := (p.trace (.start origin) (ls.map (·.token))).2.fail construct origin 0
  .expected attempts.text (columnAfter (textBefore text ls attempts.left))

/-- What `p` reads from the whole of a text. -/
def readWhole {α : Type} (construct : Construct) (p : Parser α) (text : String) :
    Except SyntaxError α :=
  match (Grammar.whole p).read (tokens text) with
  | some (a, _) => .ok a
  | none => .error ⟨text, problemOf construct (Grammar.whole p) text.toList⟩

namespace ClassName

/-- The class named by a dotted text, split by convention. -/
def parse (text : String) : Except SyntaxError ClassName := do
  let (first, rest) ← readWhole .qualifiedName Grammar.dotted text
  return ofSegments first rest

/-- A simple name: an identifier with nothing but layout around it. -/
def parseSimple (text : String) : Except SyntaxError String :=
  readWhole .simpleName Grammar.identifier text

/-- Whether a text can stand for a package; the empty text stands for the default one. -/
def checkPackage (package : String) : Except SyntaxError Unit := do
  if package ≠ "" then
    let _ ← readWhole .qualifiedName Grammar.dotted package

/-- The class with the given package and simple names. The package is checked first and kept as it
is written; then each name is read. -/
def ofParts (package : String) (names : List String) : Except SyntaxError ClassName := do
  checkPackage package
  match ← names.mapM parseSimple with
  | outermost :: nested => return ⟨package, outermost, nested⟩
  | [] => throw ⟨package, .noNames⟩

/-- Whether the canonical name alone leads back to this name. -/
def parsesBack (c : ClassName) : Bool := (parse c.canonical).toOption == some c

end ClassName

namespace TypeExpr

/-- The type a text spells. Types cannot nest deeper than there are tokens. -/
def parse (text : String) : Except SyntaxError TypeExpr :=
  readWhole .typeText (Grammar.type ((tokens text).length + 1)) text

end TypeExpr

end AssistedInjection.Kotlin
