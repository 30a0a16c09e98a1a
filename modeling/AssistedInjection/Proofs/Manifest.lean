import AssistedInjection.Manifest
import AssistedInjection.Proofs.Declaration.References
import AssistedInjection.Proofs.Json.Forms

/-!
Manifests and their texts. A manifest is read back from its own text exactly when the class names
and the type references in it come back, one by one; everything else in it, and all the text around
it, comes back in any case.

    manifest ─▶ class ─▶ function ─▶ parameter ─▶ annotation ─▶ argument ─▶ constant
     markers    name       returns     type          name                     reference
-/

namespace AssistedInjection

open Kotlin Declaration
open Json (Form Field Row Doc)

/-! ### Parts -/

/-- The parts of a manifest that may be lost in its text. -/
inductive Part where
  | className (c : ClassName)
  | reference (r : TypeRef)

namespace Part

/-- A part that comes back from its own JSON. -/
def ComesBack : Part → Prop
  | className c => ClassName.ofJson c.toJson = .ok c
  | reference r => TypeRef.ofJson r.toJson = .ok r

/-- The classes that a part names. -/
def classNames : Part → List ClassName
  | className c => [c]
  | reference r => r.classNames

/-- The reference that a part is. -/
def reference? : Part → Option TypeRef
  | className _ => none
  | reference r => some r

end Part

section

variable {room : Nat}

theorem Kotlin.ClassName.fits_parts (c : ClassName) : c.parts.Fits (room + 2) := by
  refine .object (List.forall_mem_cons.2 ⟨.string _, List.forall_mem_singleton.2 (.list ?_)⟩)
  exact List.forall_mem_map.2 fun s _ => .string s

theorem Kotlin.ClassName.fits_toJson (c : ClassName) : c.toJson.Fits (room + 2) := by
  unfold ClassName.toJson
  split
  · exact .string _
  · exact c.fits_parts

theorem Declaration.TypeRef.fits_toJson (r : TypeRef) : r.toJson.Fits (room + 2) := by
  unfold TypeRef.toJson
  split
  · exact .object (List.forall_mem_singleton.2 (.string _))
  · rename_i c
    split
    · exact .string _
    · exact c.fits_parts
  · exact .string _

theorem Declaration.TypeRef.form_isFull : TypeRef.form.IsFull := by
  intro r
  change r.toJson ≠ .null
  unfold TypeRef.toJson ClassName.parts
  split
  · rintro ⟨⟩
  · split <;> rintro ⟨⟩
  · rintro ⟨⟩

theorem Kotlin.ClassName.form_readsBack_iff {c : ClassName} :
    ClassName.form.ReadsBack (room + 2) c ↔ (Part.className c).ComesBack :=
  Form.chosen_readsBack_iff c.fits_toJson

theorem Declaration.TypeRef.form_readsBack_iff {r : TypeRef} :
    TypeRef.form.ReadsBack (room + 2) r ↔ (Part.reference r).ComesBack :=
  Form.chosen_readsBack_iff r.fits_toJson

end

/-! ### Annotations -/

namespace Declaration

variable {room : Nat}

/-- The parts of a constant. -/
def Constant.mentions (c : Constant) : List Part := c.typeRef?.toList.map .reference

/-- The only key of the object tells how its value is read. -/
theorem Constant.read_object {kind : String} {read : Nat → Doc → Except Json.ReadError Constant}
    (known : kinds.lookup kind = some read) (j : Json) :
    Constant.form.read (room + 1) (.ofJson (.object [(kind, j)])) = read room (.ofJson j) := by
  simp only [Constant.form, Doc.ofJson, Doc.ofMembers, Form.onlyMember, Json.descend,
    Json.liftFault, Constant.kindOf, Doc.key, known, bind, Except.bind, pure, Except.pure]
  cases read room (.ofJson j) <;> rfl

theorem Constant.form_readsBack_iff {c : Constant} :
    Constant.form.ReadsBack (room + 3) c ↔ ∀ part ∈ c.mentions, part.ComesBack := by
  cases c with
  | string s =>
    refine iff_of_true ((Constant.read_object rfl _).trans ?_) (by simp [mentions, typeRef?])
    exact congrArg (Except.map string) (Form.string_readsBack s)
  | classLiteral r =>
    have back : Constant.form.ReadsBack (room + 3) (.classLiteral r) ↔
        TypeRef.form.ReadsBack (room + 2) r := by
      change Constant.form.read (room + 3) (.ofJson (.object [("class", r.toJson)])) = _ ↔
        TypeRef.form.read (room + 2) (.ofJson r.toJson) = .ok r
      rw [Constant.read_object rfl]
      cases TypeRef.form.read (room + 2) (.ofJson r.toJson) <;> simp [Except.map]
    simp [back, TypeRef.form_readsBack_iff, mentions, typeRef?]
  | boolean b =>
    refine iff_of_true ((Constant.read_object rfl _).trans ?_) (by simp [mentions, typeRef?])
    exact congrArg (Except.map boolean) (Form.boolean_readsBack b)
  | int n =>
    refine iff_of_true ((Constant.read_object rfl _).trans ?_) (by simp [mentions, typeRef?])
    exact congrArg (Except.map int) (Form.int64_readsBack n)

/-- The parts of an argument. -/
def Argument.mentions (a : Argument) : List Part := a.value.mentions

theorem Argument.form_readsBack_iff {a : Argument} :
    Argument.form.ReadsBack (room + 4) a ↔ ∀ part ∈ a.mentions, part.ComesBack := by
  refine (Form.record_readsBack_iff (by decide) (fun _ => rfl) (fun _ => rfl)).trans ?_
  simp [Row.ReadsBack, Field.required_readsBack_iff, Constant.form_readsBack_iff, mentions,
    Field.optional_readsBack_iff Form.string_isFull, Form.string_readsBack]

/-- The parts of an annotation. -/
def Annotation.mentions (a : Annotation) : List Part :=
  .className a.name :: a.arguments.flatMap Argument.mentions

theorem Annotation.form_readsBack_iff {a : Annotation} :
    Annotation.form.ReadsBack (room + 6) a ↔ ∀ part ∈ a.mentions, part.ComesBack := by
  refine (Form.record_readsBack_iff (by decide) (fun _ => rfl) (fun _ => rfl)).trans ?_
  simp only [Row.ReadsBack, Field.required_readsBack_iff, Field.listed_readsBack_iff,
    ClassName.form_readsBack_iff, Argument.form_readsBack_iff, mentions, List.forall_mem_cons,
    List.forall_mem_flatMap, and_true]

/-! ### Functions and classes -/

/-- The parts of a parameter. -/
def Parameter.mentions (p : Parameter) : List Part :=
  .reference p.type :: p.annotations.flatMap Annotation.mentions

theorem Parameter.form_readsBack_iff {p : Parameter} :
    Parameter.form.ReadsBack (room + 8) p ↔ ∀ part ∈ p.mentions, part.ComesBack := by
  refine (Form.record_readsBack_iff (by decide) (fun _ => rfl) (fun _ => rfl)).trans ?_
  simp only [Row.ReadsBack, Field.required_readsBack_iff, Field.listed_readsBack_iff,
    Form.string_readsBack, TypeRef.form_readsBack_iff, Annotation.form_readsBack_iff, mentions,
    List.forall_mem_cons, List.forall_mem_flatMap, and_true, true_and]

/-- The parts of a function. -/
def Function.mentions (f : Function) : List Part :=
  f.parameters.flatMap Parameter.mentions ++ f.returns.toList.map .reference ++
    f.annotations.flatMap Annotation.mentions

theorem Function.form_readsBack_iff {f : Function} :
    Function.form.ReadsBack (room + 10) f ↔ ∀ part ∈ f.mentions, part.ComesBack := by
  refine (Form.record_readsBack_iff (by decide) (fun _ => rfl) (fun _ => rfl)).trans ?_
  simp only [Row.ReadsBack, Field.required_readsBack_iff, Field.listed_readsBack_iff,
    Field.optional_readsBack_iff TypeRef.form_isFull, Field.withDefault_readsBack_iff,
    Form.string_readsBack, Form.boolean_readsBack, Parameter.form_readsBack_iff,
    TypeRef.form_readsBack_iff, Annotation.form_readsBack_iff, mentions, List.forall_mem_append,
    List.forall_mem_flatMap, List.forall_mem_map, Option.mem_toList, Option.mem_def, and_true,
    true_and, and_assoc]

theorem ClassKind.form_readsBack (k : ClassKind) : ClassKind.form.ReadsBack room k :=
  Form.named_readsBack (by cases k <;> rfl)

/-- The parts of a class. -/
def ClassDeclaration.mentions (c : ClassDeclaration) : List Part :=
  .className c.name :: (c.annotations.flatMap Annotation.mentions ++
    c.constructors.flatMap Function.mentions ++ c.supertypes.map .reference ++
    c.functions.flatMap Function.mentions)

theorem ClassDeclaration.form_readsBack_iff {c : ClassDeclaration} :
    ClassDeclaration.form.ReadsBack (room + 12) c ↔ ∀ part ∈ c.mentions, part.ComesBack := by
  refine (Form.record_readsBack_iff (by decide) (fun _ => rfl) (fun _ => rfl)).trans ?_
  simp only [Row.ReadsBack, Field.required_readsBack_iff, Field.listed_readsBack_iff,
    Field.optional_readsBack_iff Form.path_isFull, Field.withDefault_readsBack_iff,
    ClassName.form_readsBack_iff, ClassKind.form_readsBack, Form.path_readsBack,
    Annotation.form_readsBack_iff, Function.form_readsBack_iff, TypeRef.form_readsBack_iff,
    mentions, List.forall_mem_cons, List.forall_mem_append, List.forall_mem_flatMap,
    List.forall_mem_map, implies_true, and_true, true_and, and_assoc]

end Declaration

/-! ### Whole numbers -/

theorem Kotlin.ClassName.isWhole_parts (c : ClassName) : c.parts.IsWhole := by
  refine .object (List.forall_mem_cons.2 ⟨.string _, List.forall_mem_singleton.2 (.list ?_)⟩)
  exact List.forall_mem_map.2 fun s _ => .string s

theorem Kotlin.ClassName.form_writesWhole : ClassName.form.WritesWhole := by
  intro c
  change c.toJson.IsWhole
  unfold ClassName.toJson
  split
  · exact .string _
  · exact c.isWhole_parts

namespace Declaration

theorem TypeRef.form_writesWhole : TypeRef.form.WritesWhole := by
  intro r
  change r.toJson.IsWhole
  unfold TypeRef.toJson
  split
  · exact .object (List.forall_mem_singleton.2 (.string _))
  · rename_i c
    split
    · exact .string _
    · exact c.isWhole_parts
  · exact .string _

theorem Constant.form_writesWhole : Constant.form.WritesWhole
  | string s => .object (List.forall_mem_singleton.2 (.string s))
  | classLiteral r => .object (List.forall_mem_singleton.2 (TypeRef.form_writesWhole r))
  | boolean b => .object (List.forall_mem_singleton.2 (.boolean b))
  | int n => .object (List.forall_mem_singleton.2 (Form.WritesWhole.int64 n))

theorem Argument.form_writesWhole : Argument.form.WritesWhole := by
  refine Form.WritesWhole.record ?_
  simp only [List.forall_mem_cons]
  exact ⟨.orNull (.text _), Constant.form_writesWhole, List.forall_mem_nil _⟩

theorem Annotation.form_writesWhole : Annotation.form.WritesWhole := by
  refine Form.WritesWhole.record ?_
  simp only [List.forall_mem_cons]
  exact ⟨ClassName.form_writesWhole, .list Argument.form_writesWhole, List.forall_mem_nil _⟩

theorem Parameter.form_writesWhole : Parameter.form.WritesWhole := by
  refine Form.WritesWhole.record ?_
  simp only [List.forall_mem_cons]
  exact ⟨.text _, TypeRef.form_writesWhole, .list Annotation.form_writesWhole,
    List.forall_mem_nil _⟩

theorem Function.form_writesWhole : Function.form.WritesWhole := by
  refine Form.WritesWhole.record ?_
  simp only [List.forall_mem_cons]
  exact ⟨.text _, .list Parameter.form_writesWhole, .orNull TypeRef.form_writesWhole,
    .list Annotation.form_writesWhole, .boolean, List.forall_mem_nil _⟩

theorem ClassDeclaration.form_writesWhole : ClassDeclaration.form.WritesWhole := by
  refine Form.WritesWhole.record ?_
  simp only [List.forall_mem_cons]
  exact ⟨ClassName.form_writesWhole, .named _ _, .orNull (.text _),
    .list Annotation.form_writesWhole, .list Function.form_writesWhole,
    .list TypeRef.form_writesWhole, .list Function.form_writesWhole, List.forall_mem_nil _⟩

end Declaration

theorem Markers.form_writesWhole : Markers.form.WritesWhole := by
  refine Form.WritesWhole.record ?_
  simp only [List.forall_mem_cons]
  exact ⟨ClassName.form_writesWhole, ClassName.form_writesWhole, ClassName.form_writesWhole,
    ClassName.form_writesWhole, ClassName.form_writesWhole, ClassName.form_writesWhole,
    List.forall_mem_nil _⟩

/-! ### Manifests -/

/-- The parts of the markers. -/
def Markers.mentions (m : Markers) : List Part :=
  [m.contributesAssistedFactory, m.assistedInject, m.assisted, m.assistedKey, m.assistedFactory,
    m.contributesBinding].map .className

theorem Markers.form_isFull : Markers.form.IsFull := by rintro m ⟨⟩

theorem Markers.form_readsBack_iff {room : Nat} {m : Markers} :
    Markers.form.ReadsBack (room + 3) m ↔ ∀ part ∈ m.mentions, part.ComesBack := by
  refine (Form.record_readsBack_iff (by decide) (fun _ => rfl) (fun _ => rfl)).trans ?_
  simp only [Row.ReadsBack, Field.withDefault_readsBack_iff, ClassName.form_readsBack_iff, mentions,
    List.forall_mem_map, List.forall_mem_cons, List.not_mem_nil, false_implies, implies_true]

namespace Manifest

/-- The parts of a manifest. -/
def mentions (m : Manifest) : List Part :=
  m.markers.toList.flatMap Markers.mentions ++ m.classes.flatMap ClassDeclaration.mentions

theorem form_readsBack_iff {room : Nat} {m : Manifest} :
    form.ReadsBack (room + 14) m ↔ ∀ part ∈ m.mentions, part.ComesBack := by
  refine (Form.record_readsBack_iff (by decide) (fun _ => rfl) (fun _ => rfl)).trans ?_
  simp only [Row.ReadsBack, Field.optional_readsBack_iff Markers.form_isFull,
    Field.withDefault_readsBack_iff, Form.list_readsBack_iff, Markers.form_readsBack_iff,
    ClassDeclaration.form_readsBack_iff, mentions, List.forall_mem_append, List.forall_mem_flatMap,
    Option.mem_toList, Option.mem_def, and_true]

theorem form_writesWhole : form.WritesWhole := by
  refine Form.WritesWhole.record ?_
  simp only [List.forall_mem_cons]
  exact ⟨.orNull Markers.form_writesWhole, .list ClassDeclaration.form_writesWhole,
    List.forall_mem_nil _⟩

/-- The classes that a manifest names, those in its references included. -/
def classNames (m : Manifest) : List ClassName := m.mentions.flatMap Part.classNames

/-- The references in a manifest. -/
def references (m : Manifest) : List TypeRef := m.mentions.filterMap Part.reference?

/-- A manifest is read back from its text exactly when all its class names and references come back
from their JSON; and a reference comes back if it is unresolved, or if its type is read from its own
text, or if it is a class that comes back, without arguments and not nullable. -/
theorem reads_back_iff (m : Manifest) :
    (parse m.text = .ok m ↔
        (∀ c ∈ m.classNames, ClassName.ofJson c.toJson = .ok c) ∧
          ∀ r ∈ m.references, TypeRef.ofJson r.toJson = .ok r) ∧
      ∀ r : TypeRef, TypeRef.ofJson r.toJson = .ok r ↔
        (∃ spelling, r = .unresolved spelling) ∨
          ∃ t, r = .resolved t ∧ (TypeExpr.parse t.text = .ok t ∨
            ∃ c, t = .classType c [] false ∧ ClassName.ofJson c.toJson = .ok c) := by
  refine ⟨?_, TypeRef.ofJson_toJson_iff⟩
  have read : parse m.text = .ok m ↔ ∀ part ∈ m.mentions, part.ComesBack :=
    (Form.ofString_spread_iff form_writesWhole m).trans (@form_readsBack_iff 113 m)
  rw [read, classNames, references, List.forall_mem_flatMap]
  constructor
  · intro back
    refine ⟨fun part mem c among => ?_, fun r mem => ?_⟩
    · cases part with
      | className d => exact List.mem_singleton.1 among ▸ back _ mem
      | reference r => exact TypeRef.ofJson_toJson_of_mem_classNames (back _ mem) c among
    · obtain ⟨part, among, same⟩ := List.mem_filterMap.1 mem
      cases part with
      | className c => cases same
      | reference r' => cases same; exact back _ among
  · rintro ⟨names, references⟩ part mem
    cases part with
    | className c => exact names _ mem c (List.mem_singleton_self c)
    | reference r => exact references r (List.mem_filterMap.2 ⟨_, mem, rfl⟩)

end Manifest

end AssistedInjection
