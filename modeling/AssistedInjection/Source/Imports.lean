import AssistedInjection.Source.Escape
import AssistedInjection.Kotlin.ClassName
import AssistedInjection.Order.Insertion

/-!
How the classes a file mentions are spelled in it.

Classes are reached through their outermost class, which is imported where it needs to be. If
several outermost classes share a simple name, one claims it: the generated type itself first, then
a class of its package, then the first of the others by canonical name. The others are spelled in
full.
-/

namespace AssistedInjection.Source

open Kotlin

/-- The classes that may claim a simple name, those with precedence first. -/
structure Imports where
  package : String
  /-- The generated type and the classes of its package. -/
  near : List ClassName
  /-- The other outermost classes, by canonical name. -/
  far : List ClassName

namespace Imports

/-- The outermost classes of those mentioned, by canonical name. -/
def outermost (mentioned : List ClassName) : List ClassName :=
  Order.sortBy (fun a b => a.canonical ≤ b.canonical) (mentioned.map ClassName.container)

/-- The claims in a file that holds the type `own` of a package and mentions some classes. -/
def ofMentioned (package own : String) (mentioned : List ClassName) : Imports :=
  let (near, far) := (outermost mentioned).partition (·.package = package)
  ⟨package, .topLevel package own :: near, far⟩

/-- The class that claims a simple name. -/
def claimant? (i : Imports) (name : String) : Option ClassName :=
  (i.near ++ i.far).find? (·.outermost = name)

/-- Whether a class is spelled by its simple name. -/
def claims (i : Imports) (c : ClassName) : Bool := i.claimant? c.outermost == some c

/-- Whether a class that claims its name is visible only if it is imported. -/
def needsImport (c : ClassName) : Bool := c.package ≠ "" && c.package ≠ "kotlin"

/-- The canonical names that are imported, in order. -/
def imported (i : Imports) : List String :=
  ((i.far.filter fun c => i.claims c && needsImport c).map ClassName.canonical).eraseDups

/-- The imports as they are written. -/
def lines (i : Imports) : List String := i.imported.map dottedName

/-- The spelling of a class. -/
def spell (i : Imports) (c : ClassName) : String :=
  let simple := ".".intercalate (c.names.map identifier)
  if i.claims c.container || c.package = "" then simple else dottedName c.package ++ "." ++ simple

end Imports

end AssistedInjection.Source
