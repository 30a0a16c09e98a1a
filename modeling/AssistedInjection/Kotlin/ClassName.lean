import AssistedInjection.Unicode.Uppercase

/-!
Fully qualified class names: a package and the chain of simple names that leads to the class.

    kotlin.collections . Map . Entry
    ------------------   ---   -----
    package              outermost, nested

The chain is never empty by its type. A dotted list of segments is split by convention: the first
segment that starts with a capital begins the class, and where none does the last segment is the
class.
-/

namespace AssistedInjection.Kotlin

open Unicode

/-- The name of a class: its package and its simple names from the outermost class inwards. -/
structure ClassName where
  /-- Dotted; empty for the default package. -/
  package : String
  outermost : String
  /-- The classes nested in the outermost one, on the way to the class named. -/
  nested : List String
deriving DecidableEq, Repr

namespace ClassName

/-- All simple names, outermost first. -/
def names (c : ClassName) : List String := c.outermost :: c.nested

/-- The innermost simple name. -/
def simpleName (c : ClassName) : String := c.nested.getLastD c.outermost

/-- The name of a class that is nested in no other. -/
def topLevel (package name : String) : ClassName := ⟨package, name, []⟩

/-- The name of a class directly inside this one. -/
def inside (c : ClassName) (name : String) : ClassName := { c with nested := c.nested ++ [name] }

/-- The outermost class that contains this one. -/
def container (c : ClassName) : ClassName := topLevel c.package c.outermost

/-- Package and simple names, separated by dots. -/
def canonical (c : ClassName) : String :=
  ".".intercalate (if c.package = "" then c.names else c.package :: c.names)

/-- Whether a segment begins a class by convention. -/
def startsClass (segment : String) : Bool := segment.toList.head?.any isUppercase

/-- The name spelled by the segments `first :: rest`. -/
def ofSegments (first : String) (rest : List String) : ClassName :=
  match (first :: rest).dropWhile (!startsClass ·) with
  | outermost :: nested =>
    ⟨".".intercalate ((first :: rest).takeWhile (!startsClass ·)), outermost, nested⟩
  | [] => topLevel (".".intercalate (first :: rest).dropLast) (rest.getLastD first)

/-- By package, then by the chain of simple names. -/
instance : Ord ClassName where
  compare a b := (compare a.package b.package).then (compare a.names b.names)

end ClassName

end AssistedInjection.Kotlin
