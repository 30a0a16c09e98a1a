import AssistedInjection.Source.GeneratedFile
import AssistedInjection.Source.Escape

/-!
Paths of generated files: one directory for each segment of the package.

A path is text with slashes between its components. To extend a path by an absolute one is to
replace it. Empty components and single dots say nothing, and two dots lead one level up:

    out//a/./b/../X.kt        components out, a, b, .., X.kt        place out, a, X.kt
-/

namespace AssistedInjection.Output

open Source

/-- The path of `segment` below `base`. -/
def extend (base segment : String) : String :=
  if segment.toList.head? = some '/' then segment
  else if base = "" || base.toList.getLast? = some '/' then base ++ segment
  else base ++ "/" ++ segment

/-- The directories of a package: its segments, empty ones aside. -/
def directories (package : String) : List String := (segments package).filter (· ≠ "")

/-- The path of a generated file below a root. -/
def pathFor (root : String) (f : GeneratedFile) : String :=
  extend ((directories f.package).foldl extend root) f.fileName

/-- A path, from its last character to its first, without what says nothing at its end. What a path
starts with stays. -/
def trimEnd : List Char → List Char
  | ['/'] => ['/']
  | '/' :: cs => trimEnd cs
  | '.' :: '/' :: cs => trimEnd ('/' :: cs)
  | cs => cs

/-- A path without what says nothing at its front. -/
def trimFront : List Char → List Char
  | '/' :: cs => trimFront cs
  | '.' :: '/' :: cs => trimFront cs
  | ['.'] => []
  | cs => cs

/-- The path of the directory that a path lies in: the text before the last component. -/
def parent (path : String) : String :=
  .ofList (trimEnd ((trimEnd path.toList.reverse).dropWhile (· != '/'))).reverse

/-- A path below a root as it is seen from there; any other path stays as it is. -/
def relativeTo (root path : String) : String :=
  if root.toList.isPrefixOf path.toList then
    match path.toList.drop root.length with
    | [] => ""
    | '/' :: rest => .ofList (trimFront rest)
    | _ => path
  else path

/-- The components of a path that say something: the parts between slashes, but for empty ones and
single dots. -/
def components (path : String) : List String :=
  ((path.toList.splitOn '/').map .ofList).filter fun part => part ≠ "" && part ≠ "."

/-- The place one component further: two dots go up, and the top is above itself. -/
def follow (place : List String) (component : String) : List String :=
  if component = ".." then place.dropLast else place ++ [component]

/-- The place that a path leads to, as names from the top. -/
def placeOf (path : String) : List String := (components path).foldl follow []

/-- The most bytes that the name of a file or a directory can have. -/
def nameLimit : Nat := 255

/-- The most bytes that a path can have. -/
def pathLimit : Nat := 4095

/-- Whether a path can be looked up at all: it is not too long and has no null character. -/
def isUsable (path : String) : Bool :=
  path.utf8ByteSize ≤ pathLimit && !path.toList.contains '\x00'

end AssistedInjection.Output
