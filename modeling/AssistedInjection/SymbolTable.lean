import AssistedInjection.Manifest

/-!
Class declarations by name, in the order in which their names first came in. A later declaration of
a class takes the place of an earlier one. An index leads from a name to the position of its class:

    insert A₁, B, A₂        classes  A₂, B        index  A ↦ 0, B ↦ 1
-/

namespace AssistedInjection

open Kotlin Declaration

/-- The index has the positions of the classes by their names, and nothing else. -/
def Locates (index : List (ClassName × Nat)) (classes : List ClassDeclaration) : Prop :=
  ∀ name i, index.lookup name = some i ↔ (classes.map (·.name))[i]? = some name

/-- The classes in order, with an index by which they are found. -/
structure SymbolTable where
  classes : List ClassDeclaration
  index : List (ClassName × Nat)
  located : Locates index classes
deriving DecidableEq

section

variable {index : List (ClassName × Nat)} {classes : List ClassDeclaration}
  (located : Locates index classes) {c : ClassDeclaration}

include located

/-- Where the index leads from its name, a class takes the place of another one of that name. -/
theorem Locates.names_set {i : Nat} (found : index.lookup c.name = some i) :
    (classes.set i c).map (·.name) = classes.map (·.name) := by
  obtain ⟨inBounds, here⟩ := List.getElem?_eq_some_iff.1 ((located c.name i).1 found)
  rw [List.map_set, ← here, List.set_getElem_self]

/-- The index is still right when a class has been replaced. -/
theorem Locates.set {i : Nat} (found : index.lookup c.name = some i) :
    Locates index (classes.set i c) := by
  rw [Locates, located.names_set found]
  exact located

/-- The index is right with the position at the end for a class of a new name. -/
theorem Locates.concat (new : index.lookup c.name = none) :
    Locates ((c.name, classes.length) :: index) (classes ++ [c]) := by
  intro name i
  have size : (classes.map (·.name)).length = classes.length := List.length_map _
  rw [List.map_append, List.map_singleton]
  by_cases named : name = c.name
  · subst named
    rw [List.lookup_cons_self, Option.some_inj]
    constructor
    · rintro rfl
      rw [← size, List.getElem?_concat_length]
    · intro here
      rcases Nat.lt_or_ge i classes.length with before | after
      · rw [List.getElem?_append_left (size ▸ before), ← located, new] at here
        cases here
      · have last := (List.getElem?_eq_some_iff.1 here).1
        rw [List.length_append, size, List.length_singleton] at last
        omega
  · have other : (name == c.name) = false := by simpa using named
    rw [List.lookup_cons, other, located]
    rcases Nat.lt_or_ge i classes.length with before | after
    · rw [List.getElem?_append_left (size ▸ before)]
    · have old : (classes.map (·.name))[i]? = none := by
        rw [List.getElem?_eq_none_iff, size]
        exact after
      rw [List.getElem?_append_right (size ▸ after), old, List.getElem?_singleton]
      split
      · simpa using Ne.symm named
      · rfl

end

namespace SymbolTable

/-- No classes. -/
def empty : SymbolTable := ⟨[], [], fun _ _ => by simp⟩

/-- Adds a class or puts it in the place of the one with its name. -/
def insert (t : SymbolTable) (c : ClassDeclaration) : SymbolTable :=
  match found : t.index.lookup c.name with
  | some i => ⟨t.classes.set i c, t.index, t.located.set found⟩
  | none => ⟨t.classes ++ [c], (c.name, t.classes.length) :: t.index, t.located.concat found⟩

/-- Adds classes from left to right. -/
def insertMany (t : SymbolTable) (cs : List ClassDeclaration) : SymbolTable := cs.foldl insert t

/-- The table of a list of classes. -/
def ofList (cs : List ClassDeclaration) : SymbolTable := empty.insertMany cs

/-- The table of the classes of a manifest. -/
def ofManifest (m : Manifest) : SymbolTable := ofList m.classes

/-- The names of the classes, in order. -/
def names (t : SymbolTable) : List ClassName := t.classes.map (·.name)

/-- Where the class of a name stands. -/
def position? (t : SymbolTable) (name : ClassName) : Option Nat := t.index.lookup name

/-- The class of a name. -/
def get? (t : SymbolTable) (name : ClassName) : Option ClassDeclaration :=
  (t.position? name).bind (t.classes[·]?)

/-- The number of classes. -/
def size (t : SymbolTable) : Nat := t.classes.length

/-- Whether there are no classes. -/
def isEmpty (t : SymbolTable) : Bool := t.classes.isEmpty

/-- The classes that carry an annotation of the given name. -/
def annotatedWith (t : SymbolTable) (marker : ClassName) : List ClassDeclaration :=
  t.classes.filter (·.isAnnotatedWith marker)

end SymbolTable

end AssistedInjection
