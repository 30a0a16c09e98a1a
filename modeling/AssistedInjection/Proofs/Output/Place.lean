import AssistedInjection.Output.Filer
import AssistedInjection.Proofs.Source.Segments
import Mathlib.Logic.Function.Basic

/-!
Where a generated file goes. As long as package and name hold no slashes, the path of a file has the
components of the root, one for each segment of the package and one for the file, and the place it
leads to is as far below the root. So files of different packages or names go to different places,
and writing one of them leaves what the others hold.

    root out    package com.test    file Api.kt    ──▶    out / com / test / Api.kt
-/

namespace AssistedInjection.Output

open Source Kotlin

/-- A text that is one step down from a directory. -/
structure IsComponent (s : String) : Prop where
  slash : '/' ∉ s.toList
  nonempty : s ≠ ""
  here : s ≠ "."
  up : s ≠ ".."

/-- To go one component further is to have one component more. -/
theorem components_extend (base : String) {s : String} (h : IsComponent s) :
    components (extend base s) = components base ++ [s] := by
  have alone : s.toList.splitOn '/' = [s.toList] := List.splitOn_eq_singleton h.slash
  have relative : s.toList.head? ≠ some '/' := fun first => h.slash (List.mem_of_head? first)
  have after (cs : List Char) :
      (cs ++ '/' :: s.toList).splitOn '/' = cs.splitOn '/' ++ [s.toList] := by
    rw [List.splitOn_append_cons_self, alone]
  unfold extend
  rw [if_neg relative]
  simp only [components]
  split
  · rename_i ends
    simp only [Bool.or_eq_true, decide_eq_true_eq] at ends
    rcases ends with rfl | ends
    · simp [alone, h.nonempty, h.here]
    · -- the empty part behind the last slash says nothing
      obtain ⟨cs, last⟩ := List.getLast?_eq_some_iff.1 ends
      have longer : (base ++ s).toList = cs ++ '/' :: s.toList := by simp [last]
      rw [longer, after, last, List.splitOn_append_cons_self]
      simp [h.nonempty, h.here]
  · have longer : (base ++ "/" ++ s).toList = base.toList ++ '/' :: s.toList := by simp
    rw [longer, after]
    simp [h.nonempty, h.here]

/-- Steps that each add their name to a view of the state add all their names to it. -/
theorem foldl_of_concat {σ : Type} (view : σ → List String) {step : σ → String → σ}
    {ss : List String} (adds : ∀ state, ∀ s ∈ ss, view (step state s) = view state ++ [s])
    (state : σ) : view (ss.foldl step state) = view state ++ ss := by
  induction ss generalizing state with
  | nil => simp
  | cons s ss ih =>
    rw [List.foldl_cons, ih fun state s mem => adds state s (List.mem_cons_of_mem _ mem),
      adds state s (List.mem_cons_self ..)]
    simp

theorem components_foldl_extend {ss : List String} (h : ∀ s ∈ ss, IsComponent s) (base : String) :
    components (ss.foldl extend base) = components base ++ ss :=
  foldl_of_concat components (fun base s mem => components_extend base (h s mem)) base

/-- The directories of a package lead back to it, unless some segment is empty. -/
theorem directories_injective {p q : String} (hp : p = "" ∨ "" ∉ segments p)
    (hq : q = "" ∨ "" ∉ segments q) (same : directories p = directories q) : p = q := by
  have whole {p : String} (h : "" ∉ segments p) : directories p = segments p :=
    List.filter_eq_self.2 fun s mem => by simpa using fun empty : s = "" => h (empty ▸ mem)
  have none : directories "" = [] := rfl
  rcases hp with rfl | hp <;> rcases hq with rfl | hq
  · rfl
  · rw [none, whole hq] at same
    exact absurd same.symm (segments_ne_nil q)
  · rw [none, whole hp] at same
    exact absurd same (segments_ne_nil p)
  · rw [whole hp, whole hq] at same
    rw [← intercalate_segments p, ← intercalate_segments q, same]

/-- The way from the root to a file: the directories of its package, and its own name. -/
def steps (f : GeneratedFile) : List String := directories f.package ++ [f.fileName]

theorem pathFor_eq_foldl (root : String) (f : GeneratedFile) :
    pathFor root f = (steps f).foldl extend root := by
  rw [steps, List.foldl_append]
  rfl

theorem isComponent_of_mem_directories {p s : String} (slash : '/' ∉ p.toList)
    (mem : s ∈ directories p) : IsComponent s := by
  obtain ⟨among, some⟩ := List.mem_filter.1 mem
  have plain := mem_of_mem_segments among
  refine ⟨fun slash' => slash (plain _ slash').1, by simpa using some, ?_, ?_⟩
  · rintro rfl
    exact (plain '.' (by simp)).2 rfl
  · rintro rfl
    exact (plain '.' (by simp)).2 rfl

theorem isComponent_fileName {f : GeneratedFile} (slash : '/' ∉ f.typeName.toList) :
    IsComponent f.fileName := by
  have long : 3 ≤ f.fileName.length := by
    have ending : ".kt".length = 3 := rfl
    simp [GeneratedFile.fileName, ending]
  refine ⟨?_, ?_, ?_, ?_⟩
  · simpa [GeneratedFile.fileName] using slash
  all_goals
    intro short
    rw [short] at long
    exact absurd long (by decide)

/-- Without slashes in package and name, every step leads one directory down. -/
theorem isComponent_of_mem_steps {f : GeneratedFile} (package : '/' ∉ f.package.toList)
    (name : '/' ∉ f.typeName.toList) : ∀ s ∈ steps f, IsComponent s := by
  refine List.forall_mem_append.2 ⟨fun s => isComponent_of_mem_directories package, ?_⟩
  exact List.forall_mem_singleton.2 (isComponent_fileName name)

/-- A step down from a place is one name more. -/
theorem foldl_follow {ss : List String} (h : ∀ s ∈ ss, IsComponent s) (place : List String) :
    ss.foldl follow place = place ++ ss :=
  foldl_of_concat id (fun _ s mem => if_neg (h s mem).up) place

section

variable {f : GeneratedFile} (down : ∀ s ∈ steps f, IsComponent s) (root : String)

include down

/-- The components of the path of a file. -/
theorem components_pathFor : components (pathFor root f) = components root ++ steps f := by
  rw [pathFor_eq_foldl, components_foldl_extend down]

/-- The place of a file: below that of the root, the package and the file's own name. -/
theorem placeOf_pathFor : placeOf (pathFor root f) = placeOf root ++ steps f := by
  rw [placeOf, components_pathFor down, List.foldl_append, foldl_follow down, placeOf]

end

/-- A file whose package and name take one component for each of their parts. -/
structure Placeable (f : GeneratedFile) : Prop where
  segments : f.package = "" ∨ "" ∉ segments f.package
  packageSlash : '/' ∉ f.package.toList
  nameSlash : '/' ∉ f.typeName.toList

/-- Only files of one package and name go to one place. -/
theorem Placeable.placeOf_pathFor_eq_iff {f f' : GeneratedFile} (h : Placeable f)
    (h' : Placeable f') (root : String) :
    placeOf (pathFor root f) = placeOf (pathFor root f') ↔
      f.package = f'.package ∧ f.typeName = f'.typeName := by
  rw [placeOf_pathFor (isComponent_of_mem_steps h.packageSlash h.nameSlash),
    placeOf_pathFor (isComponent_of_mem_steps h'.packageSlash h'.nameSlash),
    List.append_cancel_left_eq]
  constructor
  · intro same
    obtain ⟨dirs, names⟩ := List.append_inj' same rfl
    refine ⟨directories_injective h.segments h'.segments dirs, ?_⟩
    simpa [GeneratedFile.fileName] using names
  · rintro ⟨package, name⟩
    rw [steps, steps, package, GeneratedFile.fileName, GeneratedFile.fileName, name]

/-! ### Writing -/

theorem files_enterAll (cs : List String) (t : FileTree) (place : List String) :
    (t.enterAll place cs).1.files = t.files := by
  induction cs generalizing t place with
  | nil => rfl
  | cons c cs ih =>
    rw [FileTree.enterAll]
    cases entered : t.enter place c with
    | none => rfl
    | some t' =>
      have same : t'.files = t.files := by
        revert entered
        unfold FileTree.enter
        dsimp only
        split
        · rintro ⟨⟩; rfl
        · split
          · rintro ⟨⟩
          · rintro ⟨⟩; rfl
      exact (ih t' _).trans same

theorem files_makeDirectories (t : FileTree) (path : String) :
    (t.makeDirectories path).1.files = t.files := by
  unfold FileTree.makeDirectories
  split
  · exact files_enterAll ..
  · rfl

theorem contentOf?_makeDirectories (t : FileTree) (path : String) :
    (t.makeDirectories path).1.contentOf? = t.contentOf? :=
  funext fun place => congrArg (List.lookup place) (files_makeDirectories t path)

theorem lookup_filter_ne {α β : Type} [BEq α] [LawfulBEq α] [DecidableEq α] {a b : α}
    (apart : a ≠ b) (l : List (α × β)) : (l.filter (·.1 ≠ b)).lookup a = l.lookup a := by
  induction l with
  | nil => rfl
  | cons e l ih =>
    by_cases same : e.1 = b
    · have other : (a == e.1) = false := by simpa [same] using apart
      rw [List.filter_cons_of_neg (by simpa using same), ih, List.lookup_cons, other]
    · rw [List.filter_cons_of_pos (by simpa using same), List.lookup_cons, List.lookup_cons, ih]

/-- Writing to a place sets what it holds and leaves what other places hold. -/
theorem contentOf?_write {t t' : FileTree} {path content : String}
    (written : t.write path content = some t') :
    t'.contentOf? = Function.update t.contentOf? (placeOf path) (some content) := by
  unfold FileTree.write at written
  split at written
  · cases written
    funext place
    rw [FileTree.contentOf?, List.lookup_append]
    by_cases here : place = placeOf path
    · subst here
      have emptied : (t.files.filter (·.1 ≠ placeOf path)).lookup (placeOf path) = none := by
        refine List.lookup_eq_none_iff.2 fun e mem => ?_
        simpa using Ne.symm (of_decide_eq_true (List.mem_filter.1 mem).2)
      rw [emptied, List.lookup_cons_self, Function.update_self]
      rfl
    · have other : (place == placeOf path) = false := by simpa using here
      rw [lookup_filter_ne here, List.lookup_cons, other, Function.update_of_ne here]
      simp [FileTree.contentOf?]
  · cases written

/-- Writing a file, whether it succeeds or fails, leaves what other places hold. -/
theorem contentOf?_filer_write (file : GeneratedFile) (filer : Filer) {place : List String}
    (apart : place ≠ placeOf (pathFor filer.root file)) :
    (Filer.write file filer).2.tree.contentOf? place = filer.tree.contentOf? place := by
  have made := contentOf?_makeDirectories filer.tree (parent (pathFor filer.root file))
  unfold Filer.write
  dsimp only
  split
  · rename_i tree refused
    rw [refused] at made
    exact congrFun made place
  · rename_i tree entered
    rw [entered] at made
    split
    · exact congrFun made place
    · rename_i written
      rw [contentOf?_write written, Function.update_of_ne apart]
      exact congrFun made place

end AssistedInjection.Output
