import AssistedInjection.Proofs.Source.Importing
import AssistedInjection.Proofs.Source.Rendering

/-!
What is spelled was mentioned. While a type is written, a spelling that notes down the classes it is
asked for notes the classes that the type mentions, and nothing else. So the imports of a file are
made for every class that is spelled in it, and each simple name that comes first in a spelling is
claimed: by the outermost class itself, or by the one that wins over it in a clash.

    Value.(b.Value.Inner) -> Value      noted     a.Value  b.Value.Inner  a.Value
                                        claimed   Value, by a.Value over b.Value
-/

namespace AssistedInjection.Source

open Kotlin

/-! ### Noting down -/

section

variable {m : Type → Type} [Monad m]

/-- The text of a piece, where spelling a class may have an effect. -/
def spellM (spelling : ClassName → m String) : Piece → m String
  | .text s => return s
  | .name c => spelling c

/-- The text of pieces whose classes are spelled from left to right, each with its effect. -/
def textOfM (spelling : ClassName → m String) (ps : List Piece) : m String :=
  return String.join (← ps.mapM (spellM spelling))

end

/-- The spelling that notes down each class it is asked for. -/
def noting (spelling : ClassName → String) (c : ClassName) : StateM (List ClassName) String := do
  modify (· ++ [c])
  return spelling c

section

variable (spelling : ClassName → String) (ps : List Piece) (log : List ClassName)

theorem run_mapM_noting :
    (ps.mapM (spellM (noting spelling))).run log
      = pure (ps.map (Piece.spell spelling), log ++ namesIn ps) := by
  induction ps generalizing log with
  | nil => simp
  | cons p ps ih =>
    rw [List.mapM_cons]
    cases p with
    | text s => simp [spellM, ih, Piece.spell]
    | name c => simp [spellM, noting, ih, Piece.spell]

/-- Noting down leaves the text as it is. -/
theorem run_textOfM_noting :
    (textOfM (noting spelling) ps).run log = pure (textOf spelling ps, log ++ namesIn ps) := by
  simp [textOfM, run_mapM_noting, textOf]

end

/-! ### Claimed names -/

/-- The outcome of a clash: of two outermost classes with one simple name, the winner is near and the
other one is not, or both are further away and the winner comes first by canonical name. -/
structure WinsOver (package own : String) (mentioned : List ClassName) (d e : ClassName) :
    Prop where
  among : d = .topLevel package own ∨ d ∈ mentioned.map ClassName.container
  clash : d.outermost = e.outermost
  further : e.package ≠ package
  before : d.package = package ∨ d.canonical < e.canonical

namespace Imports

variable {package own : String} {mentioned : List ClassName} {c : ClassName}

/-- The simple name of the outermost class of each class mentioned is claimed. -/
theorem exists_claimant (mem : c ∈ mentioned) :
    ∃ d, (ofMentioned package own mentioned).claimant? c.outermost = some d ∧
      (d = c.container ∨ WinsOver package own mentioned d c.container) := by
  have among : c.container ∈ mentioned.map ClassName.container := List.mem_map_of_mem mem
  -- A class near claims its name; the name of one further away may be claimed by another.
  by_cases inside : c.package = package
  · have near : c.container ∈ (ofMentioned package own mentioned).near :=
      mem_near.2 (.inr ⟨among, inside⟩)
    have claims : (ofMentioned package own mentioned).claims c.container := claims_of_mem_near near
    exact ⟨c.container, claims_iff.1 claims, .inl rfl⟩
  have far : c.container ∈ (ofMentioned package own mentioned).far := mem_far.2 ⟨among, inside⟩
  obtain ⟨d, claims, clash⟩ := exists_claims (List.mem_append_right _ far)
  have found : (ofMentioned package own mentioned).claimant? c.outermost = some d :=
    clash ▸ claims_iff.1 claims
  refine ⟨d, found, ?_⟩
  rcases mem_of_claims claims with near | far'
  · have winner := (mem_near.1 near).imp_right And.left
    exact .inr ⟨winner, clash, inside, .inl (package_of_mem_near near)⟩
  · have among' := (mem_far.1 far').1
    have first := canonical_le_of_claims far' claims far clash.symm
    by_cases same : d.canonical = c.container.canonical
    · exact .inl (eq_of_canonical_eq among' among clash same)
    · exact .inr ⟨.inr among', clash, inside, .inr (Std.lt_of_le_of_ne first same)⟩

end Imports

/-- Writing a type asks for the spellings of the classes that it mentions, one after the other and
each as often as it is mentioned; so does writing the source of a factory. The classes that are
spelled there are those that the imports are made for, so the simple name of the outermost class of
each is claimed, by this class or by one that wins over it. -/
theorem spelled_classes_are_claimed :
    (∀ (t : TypeExpr) (spelling : ClassName → String) (log : List ClassName),
        (textOfM (noting spelling) t.pieces).run log = (t.write spelling, log ++ t.classNames)) ∧
      ∀ (p : Plan) (m : Markers),
        (∀ log : List ClassName,
            (textOfM (noting (importsOf p m).spell) (filePieces p m)).run log
              = (content p m, log ++ spelled p m)) ∧
          (∀ c, c ∈ spelled p m ↔ c ∈ mentioned p m) ∧
          ∀ c ∈ spelled p m, ∃ d, (importsOf p m).claimant? c.outermost = some d ∧
            (d = c.container ∨
              WinsOver (factoryName p.annotated).package (factoryName p.annotated).outermost
                (mentioned p m) d c.container) := by
  refine ⟨fun t spelling log => ?_, fun p m => ⟨fun log => ?_, fun c => mem_spelled_iff,
    fun c mem => Imports.exists_claimant (mem_spelled_iff.1 mem)⟩⟩
  · rw [run_textOfM_noting, t.namesIn_pieces]
    rfl
  · rw [run_textOfM_noting, textOf_filePieces, namesIn_filePieces]
    rfl

/-- A type that mentions two classes of one simple name, and one of them twice. -/
def layered : TypeExpr :=
  .functionType (some (.ofClass (.topLevel "com.a" "Value")))
    [.classType (.topLevel "kotlin" "Map")
      [.star, .of .covariant (.ofClass ⟨"com.b", "Value", ["Inner"]⟩)] true]
    (.ofClass (.topLevel "com.a" "Value")) true true

/-- A plan with a parameter of this type. -/
def layeredPlan : Plan := withParameters clashingPlan [⟨"act", layered, some "act", "act"⟩]

theorem spelled_classes_are_claimed_layered :
    let i := importsOf layeredPlan .standard
    let value : ClassName := .topLevel "com.a" "Value"
    let inner : ClassName := ⟨"com.b", "Value", ["Inner"]⟩
    (textOfM (noting i.spell) layered.pieces).run []
        = ("(suspend Value.(Map<*, out com.b.Value.Inner>?) -> Value)?",
          [value, .topLevel "kotlin" "Map", inner, value]) ∧
      inner ∈ spelled layeredPlan .standard ∧ i.claimant? "Value" = some value ∧
      WinsOver "com.test" "Api_AssistedFactory" (mentioned layeredPlan .standard) value
        inner.container := by
  intro i value inner
  obtain ⟨types, files⟩ := spelled_classes_are_claimed
  have text : layered.write i.spell
      = "(suspend Value.(Map<*, out com.b.Value.Inner>?) -> Value)?" := by decide +kernel
  have mem : inner ∈ spelled layeredPlan .standard := by decide +kernel
  have claimed : i.claimant? "Value" = some value := by decide +kernel
  obtain ⟨d, found, winner⟩ := (files layeredPlan .standard).2.2 inner mem
  obtain rfl : d = value := Option.some.inj (found.symm.trans claimed)
  have noted := types layered i.spell []
  rw [text] at noted
  exact ⟨noted, mem, claimed, winner.resolve_left (by decide)⟩

end AssistedInjection.Source
