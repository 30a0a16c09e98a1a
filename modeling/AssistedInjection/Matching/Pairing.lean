import AssistedInjection.Matching.Key
import AssistedInjection.Declaration.Basic

/-!
Pairing the parameters of a factory method with the assisted parameters of a constructor, by key.

    constructor     @Assisted("id") id: Long    @Assisted name: String
                                  \                   /
    factory            @AssistedKey("id") x: Long,  y: String

The constructor's keys have to differ from each other. Every factory parameter is then looked up by
itself.
-/

namespace AssistedInjection.Matching

open Declaration

/-- A parameter together with its key. -/
abbrev Keyed := ParameterKey × Parameter

/-- Two assisted constructor parameters with one key. -/
structure Collision where
  key : ParameterKey
  first : Parameter
  second : Parameter
deriving DecidableEq

/-- A factory parameter whose key no constructor parameter has. -/
structure Unmatched where
  key : ParameterKey
  parameter : Parameter
deriving DecidableEq

/-- A factory parameter and the constructor parameter it supplies. -/
structure Match where
  key : ParameterKey
  factory : Parameter
  constructor : Parameter
deriving DecidableEq

/-- Assisted constructor parameters with keys that differ. -/
structure KeyIndex where
  entries : List Keyed
deriving DecidableEq

namespace KeyIndex

/-- The constructor parameter with a key. -/
def get? (index : KeyIndex) (key : ParameterKey) : Option Parameter := index.entries.lookup key

/-- The number of constructor parameters. -/
def size (index : KeyIndex) : Nat := index.entries.length

/-- Whether there are no constructor parameters. -/
def isEmpty (index : KeyIndex) : Bool := index.entries.isEmpty

/-- Adds a parameter unless its key is taken. -/
def add (index : KeyIndex) (entry : Keyed) : Except Collision KeyIndex :=
  match index.get? entry.1 with
  | some first => .error ⟨entry.1, first, entry.2⟩
  | none => .ok ⟨index.entries ++ [entry]⟩

/-- Adds parameters from left to right. -/
def addAll (index : KeyIndex) : List Keyed → Except Collision KeyIndex
  | [] => .ok index
  | entry :: entries => do addAll (← index.add entry) entries

/-- The index of a list of parameters; it fails at the first whose key was there before. -/
def ofList (entries : List Keyed) : Except Collision KeyIndex := addAll ⟨[]⟩ entries

/-- The match of one factory parameter. -/
def matchOne (index : KeyIndex) (factory : Keyed) : Except Unmatched Match :=
  match index.get? factory.1 with
  | some constructor => .ok ⟨factory.1, factory.2, constructor⟩
  | none => .error ⟨factory.1, factory.2⟩

/-- The matches of factory parameters, in their order; it fails at the first without one. -/
def pair (index : KeyIndex) : List Keyed → Except Unmatched (List Match)
  | [] => .ok []
  | factory :: rest => do return (← index.matchOne factory) :: (← pair index rest)

end KeyIndex

end AssistedInjection.Matching
