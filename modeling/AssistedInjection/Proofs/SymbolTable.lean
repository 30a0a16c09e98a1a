import AssistedInjection.Rounds.Resolver
import Mathlib.Data.Finset.Card

/-!
A table against the classes that were put into it. Its names are distinct, since the index has one
position for each, and a look-up finds the class of the name. After any operations the table shows
what was inserted since it was made:

    inserted      A₁  B₁  A₂  C₁  A₃
    classes       A₃  B₁  C₁           the names as they first came in, each with its last class
-/

namespace AssistedInjection.SymbolTable

open Kotlin Declaration Rounds

variable {t : SymbolTable} {name : ClassName} {c : ClassDeclaration}

/-! ### One table -/

theorem position?_eq_some_iff {i : Nat} :
    t.position? name = some i ↔ ∃ h : i < t.classes.length, t.classes[i].name = name := by
  rw [position?, t.located, List.getElem?_map, Option.map_eq_some_iff]
  simp only [List.getElem?_eq_some_iff]
  constructor
  · rintro ⟨c, ⟨inBounds, rfl⟩, named⟩
    exact ⟨inBounds, named⟩
  · rintro ⟨inBounds, named⟩
    exact ⟨_, ⟨inBounds, rfl⟩, named⟩

theorem nodup_names (t : SymbolTable) : t.names.Nodup := by
  refine List.pairwise_iff_getElem.2 fun i j hi hj before same => ?_
  have first := (t.located t.names[i] i).2 (List.getElem?_eq_getElem hi)
  have second := (t.located t.names[j] j).2 (List.getElem?_eq_getElem hj)
  rw [same, second] at first
  exact before.ne' (Option.some.inj first)

theorem nodup_names_ofList (cs : List ClassDeclaration) : (ofList cs).names.Nodup :=
  nodup_names _

/-- Looking up a name finds the class of that name. -/
theorem get?_eq_some_iff : t.get? name = some c ↔ c ∈ t.classes ∧ c.name = name := by
  rw [get?, Option.bind_eq_some_iff]
  simp only [position?_eq_some_iff, List.getElem?_eq_some_iff]
  constructor
  · rintro ⟨i, ⟨inBounds, named⟩, -, rfl⟩
    exact ⟨List.getElem_mem inBounds, named⟩
  · rintro ⟨mem, named⟩
    obtain ⟨i, inBounds, rfl⟩ := List.getElem_of_mem mem
    exact ⟨i, ⟨inBounds, named⟩, inBounds, rfl⟩

/-- A name is declared when looking it up finds something. -/
theorem get?_eq_none_iff : t.get? name = none ↔ name ∉ t.names := by
  rw [Option.eq_none_iff_forall_ne_some, names, List.mem_map]
  simp only [Ne, get?_eq_some_iff, not_exists]

/-- The classes are what their names lead to. -/
theorem map_get?_names (t : SymbolTable) : t.names.map t.get? = t.classes.map some := by
  rw [names, List.map_map]
  exact List.map_congr_left fun c mem => get?_eq_some_iff.2 ⟨mem, rfl⟩

/-! ### One insertion -/

/-- A class takes the position of its name, or a new position at the end. -/
theorem insert_cases (t : SymbolTable) (c : ClassDeclaration) :
    (∃ i, t.position? c.name = some i ∧ (t.insert c).classes = t.classes.set i c ∧
        ∀ name, (t.insert c).position? name = t.position? name) ∨
      (t.position? c.name = none ∧ (t.insert c).classes = t.classes ++ [c] ∧
        ∀ name, (t.insert c).position? name
          = if name = c.name then some t.classes.length else t.position? name) := by
  rw [insert]
  split
  · rename_i i found
    exact .inl ⟨i, found, rfl, fun _ => rfl⟩
  · rename_i absent
    refine .inr ⟨absent, rfl, fun name => ?_⟩
    rw [position?, List.lookup_cons]
    by_cases here : name = c.name
    · simp [here]
    · have apart : (name == c.name) = false := by simpa using here
      simp only [apart, here, if_false, position?]

/-- A new name comes last, and an old one stays where it is. -/
theorem names_insert (t : SymbolTable) (c : ClassDeclaration) :
    (t.insert c).names = if c.name ∈ t.names then t.names else t.names ++ [c.name] := by
  rcases t.insert_cases c with ⟨i, here, classes, -⟩ | ⟨absent, classes, -⟩
  · have old : c.name ∈ t.names := List.mem_of_getElem? ((t.located c.name i).1 here)
    rw [if_pos old, names, classes]
    exact t.located.names_set here
  · have new : c.name ∉ t.names := by
      intro old
      obtain ⟨i, here⟩ := List.getElem?_of_mem old
      rw [position?, (t.located c.name i).2 here] at absent
      cases absent
    rw [if_neg new, names, classes, List.map_append]
    rfl

/-- Under the name of an inserted class that class is found, under another name what was found
before. -/
theorem get?_insert (t : SymbolTable) (c : ClassDeclaration) (name : ClassName) :
    (t.insert c).get? name = if name = c.name then some c else t.get? name := by
  rcases t.insert_cases c with ⟨i, found, classes, positions⟩ | ⟨-, classes, positions⟩
  · obtain ⟨inBounds, named⟩ := position?_eq_some_iff.1 found
    rw [get?, positions, classes]
    split
    · subst name
      rw [found, Option.bind_some, List.getElem?_set_self inBounds]
    · rename_i other
      refine Option.bind_congr fun j there => List.getElem?_set_ne fun same => other ?_
      obtain ⟨_, named'⟩ := position?_eq_some_iff.1 there
      subst same
      exact named'.symm.trans named
  · rw [get?, positions, classes]
    split
    · rw [Option.bind_some, List.getElem?_concat_length]
    · refine Option.bind_congr fun j there => ?_
      obtain ⟨inBounds, -⟩ := position?_eq_some_iff.1 there
      exact List.getElem?_append_left inBounds

/-! ### Any operations -/

/-- What can be done about a table: put classes into it, or make another one instead. -/
inductive Operation where
  | insert (c : ClassDeclaration)
  | extend (cs : List ClassDeclaration)
  | fromManifest (m : Manifest)
  | fromList (cs : List ClassDeclaration)

/-- The table after an operation. -/
def apply (t : SymbolTable) : Operation → SymbolTable
  | .insert c => t.insert c
  | .extend cs => t.insertMany cs
  | .fromManifest m => ofManifest m
  | .fromList cs => ofList cs

/-- The classes that were inserted since the table was made, when those before an operation are
given. -/
def inserted (before : List ClassDeclaration) : Operation → List ClassDeclaration
  | .insert c => before ++ [c]
  | .extend cs => before ++ cs
  | .fromManifest m => m.classes
  | .fromList cs => cs

/-- A table shows what was inserted: the names as they first came in, each with its last class. -/
structure Shows (t : SymbolTable) (cs : List ClassDeclaration) : Prop where
  names : t.names = (cs.map (·.name)).eraseDups
  found : ∀ name, t.get? name = cs.reverse.find? (·.name = name)

namespace Shows

variable {cs : List ClassDeclaration}

theorem empty : SymbolTable.empty.Shows [] := ⟨rfl, fun _ => rfl⟩

theorem insert (shows : t.Shows cs) (c : ClassDeclaration) : (t.insert c).Shows (cs ++ [c]) where
  names := by
    rw [names_insert, List.map_append, List.eraseDups_append, ← shows.names, List.map_singleton]
    by_cases old : c.name ∈ cs.map (·.name)
    · have known : c.name ∈ t.names := by rwa [shows.names, List.mem_eraseDups]
      have nothing : [c.name].removeAll (cs.map (·.name)) = [] := by
        simpa [List.removeAll] using old
      rw [if_pos known, nothing, List.eraseDups_nil, List.append_nil]
    · have unknown : c.name ∉ t.names := by rwa [shows.names, List.mem_eraseDups]
      have itself : [c.name].removeAll (cs.map (·.name)) = [c.name] := by
        simpa [List.removeAll] using old
      rw [if_neg unknown, itself]
      rfl
  found name := by
    rw [get?_insert, List.reverse_concat, List.find?_cons]
    by_cases here : name = c.name
    · simp [here]
    · have apart : c.name ≠ name := Ne.symm here
      simp only [if_neg here, shows.found, apart, decide_false]

theorem insertMany (shows : t.Shows cs) (ds : List ClassDeclaration) :
    (t.insertMany ds).Shows (cs ++ ds) := by
  induction ds generalizing t cs with
  | nil => rwa [List.append_nil]
  | cons d ds ih =>
    rw [List.append_cons]
    exact ih (shows.insert d)

theorem apply (shows : t.Shows cs) (o : Operation) : (t.apply o).Shows (inserted cs o) := by
  cases o with
  | insert c => exact shows.insert c
  | extend ds => exact shows.insertMany ds
  | fromManifest m => exact empty.insertMany m.classes
  | fromList ds => exact empty.insertMany ds

theorem run (shows : t.Shows cs) (os : List Operation) :
    (os.foldl SymbolTable.apply t).Shows (os.foldl inserted cs) := by
  induction os generalizing t cs with
  | nil => exact shows
  | cons o os ih => exact ih (shows.apply o)

end Shows

/-- After any operations the table has the names that were inserted since it was made, each once and
as they first came in, with the class that was inserted last; the index leads to that class. -/
theorem run_shows_insertions (os : List Operation) :
    let t := os.foldl apply empty
    let cs := os.foldl inserted []
    t.names.Nodup ∧
      (∀ name i, t.index.lookup name = some i
        ↔ ∃ h : i < t.classes.length, t.classes[i].name = name) ∧
      (∀ name, t.get? name = cs.reverse.find? (·.name = name)) ∧
      (∀ asked name, (Resolver.ofTable t).answer asked name = cs.reverse.find? (·.name = name)) ∧
      t.names = (cs.map (·.name)).eraseDups ∧
      t.classes.map some = t.names.map t.get? ∧
      t.size = (cs.map (·.name)).toFinset.card ∧
      ∀ marker, (Resolver.ofTable t).candidates marker
        = t.classes.filter fun c => ∃ a ∈ c.annotations, a.name = marker := by
  intro t cs
  have shows : t.Shows cs := Shows.empty.run os
  have distinct := t.nodup_names
  have size : t.size = (cs.map (·.name)).toFinset.card := by
    have same : t.names.toFinset = (cs.map (·.name)).toFinset := by
      ext name
      rw [List.mem_toFinset, shows.names, List.mem_eraseDups, List.mem_toFinset]
    rw [← same, List.toFinset_card_of_nodup distinct, size, names, List.length_map]
  refine ⟨distinct, fun _ _ => position?_eq_some_iff, shows.found, fun _ => shows.found,
    shows.names, t.map_get?_names.symm, size, fun marker => ?_⟩
  refine List.filter_congr fun c _ => ?_
  rw [ClassDeclaration.isAnnotatedWith, ClassDeclaration.annotationFor?, annotationFor?,
    Bool.eq_iff_iff, List.find?_isSome]
  simp

end AssistedInjection.SymbolTable
