import AssistedInjection.Json.Record
import AssistedInjection.Proofs.Checks
import AssistedInjection.Proofs.Json.Rereading

/-!
What is read back from what was written. Since a form writes and reads over one description, a value
reads back exactly when its parts do; of a record these are the fields, of which one that was left
out reads back if it is the one that stands for it.

    record  ⟵▶  each field        left out  ⟵▶  it is the fallback
    list    ⟵▶  each item         choice    ⟵▶  it is chosen again
-/

namespace AssistedInjection.Json

open Checks (bind_eq_ok_iff pure_eq_ok_iff mapM_eq_ok_iff)

/-! ### Whole values -/

/-- A value in which at most `room` lists and objects are open at once. -/
inductive Fits : Nat → Json → Prop
  | null {room : Nat} : Fits room .null
  | boolean {room : Nat} (b : Bool) : Fits room (.boolean b)
  | number {room : Nat} (n : Number) : Fits room (.number n)
  | string {room : Nat} (s : String) : Fits room (.string s)
  | list {room : Nat} {items : List Json} :
    (∀ j ∈ items, Fits room j) → Fits (room + 1) (.list items)
  | object {room : Nat} {members : List (String × Json)} :
    (∀ m ∈ members, Fits room m.2) → Fits (room + 1) (.object members)

namespace Doc

variable {room : Nat}

theorem ofItems_eq_map (js : List Json) : ofItems js = js.map ofJson := by
  induction js with
  | nil => rw [ofItems, List.map_nil]
  | cons j js ih => rw [ofItems, ih, List.map_cons]

theorem values_ofItems {js : List Json} (each : ∀ j ∈ js, (ofJson j).value room = .ok j) :
    values room (ofItems js) = .ok js := by
  induction js with
  | nil => simp [ofItems, values]
  | cons j js ih =>
    obtain ⟨first, others⟩ := List.forall_mem_cons.1 each
    simp [ofItems, values, first, ih others, bind, Except.bind, pure, Except.pure]

theorem memberValues_ofMembers {ms : List (String × Json)}
    (each : ∀ m ∈ ms, (ofJson m.2).value room = .ok m.2) :
    memberValues room (ofMembers ms) = .ok ms := by
  induction ms with
  | nil => simp [ofMembers, memberValues]
  | cons m ms ih =>
    obtain ⟨first, others⟩ := List.forall_mem_cons.1 each
    simp [ofMembers, memberValues, key, first, ih others, bind, Except.bind, pure, Except.pure]

/-- A careful reader finds the value that a document was made of. -/
theorem value_ofJson {j : Json} (fits : j.Fits room) : (ofJson j).value room = .ok j := by
  induction fits with
  | list _ each =>
    simp [ofJson, value, descend, values_ofItems each, Stop.inList, bind, Except.bind, pure,
      Except.pure]
  | object _ each =>
    simp [ofJson, value, descend, memberValues_ofMembers each, Stop.inObject, bind, Except.bind,
      pure, Except.pure]
  | _ => simp [ofJson, value, Except.map]

end Doc

/-! ### Forms -/

namespace Form

variable {α : Type}

/-- A value that is read from the document of what is written for it. -/
def ReadsBack (f : Form α) (room : Nat) (a : α) : Prop := f.read room (.ofJson (f.write a)) = .ok a

/-- A form that never writes null. -/
def IsFull (f : Form α) : Prop := ∀ a, f.write a ≠ .null

theorem string_isFull : string.IsFull := by rintro s ⟨⟩

theorem path_isFull : path.IsFull := by rintro s ⟨⟩

/-- A form that writes whole numbers only. -/
def WritesWhole (f : Form α) : Prop := ∀ a, (f.write a).IsWhole

/-- A value is read from its text, in any style, exactly when it reads back. -/
theorem ofString_write_iff {f : Form α} {style : Style} (blank : style.IsBlank)
    (whole : f.WritesWhole) (a : α) :
    f.ofString ((f.write a).write style 0) = .ok a ↔ f.ReadsBack nestingLimit a := by
  rw [ofString, Source.ofString_write blank (whole a)]
  simp [ReadsBack]

theorem ofString_spread_iff {f : Form α} (whole : f.WritesWhole) (a : α) :
    f.ofString (f.write a).spread = .ok a ↔ f.ReadsBack nestingLimit a :=
  ofString_write_iff isBlank_spread whole a

theorem ofString_compact_iff {f : Form α} (whole : f.WritesWhole) (a : α) :
    f.ofString (f.write a).compact = .ok a ↔ f.ReadsBack nestingLimit a :=
  ofString_write_iff isBlank_compact whole a

variable {room : Nat}

theorem text_readsBack (expected s : String) : (text expected).ReadsBack room s := by
  simp [ReadsBack, text, Doc.ofJson, liftFault]

theorem string_readsBack (s : String) : string.ReadsBack room s := text_readsBack _ s

theorem path_readsBack (s : String) : path.ReadsBack room s := text_readsBack _ s

theorem boolean_readsBack (b : Bool) : boolean.ReadsBack room b := by
  simp [ReadsBack, boolean, Doc.ofJson]

theorem int64_readsBack (n : Int64) : int64.ReadsBack room n := by
  have most : ¬ Int64.maxValue.toInt < n.toInt := Int.not_lt.2 n.toInt_le
  have least : Int64.minValue.toInt ≤ n.toInt := n.le_toInt
  simp only [ReadsBack, int64, ofInt, Doc.ofJson, if_neg most, if_pos least, Int64.ofInt_toInt]

theorem list_readsBack_iff {f : Form α} {as : List α} :
    f.list.ReadsBack (room + 1) as ↔ ∀ a ∈ as, f.ReadsBack room a := by
  have items : (Doc.ofItems (as.map f.write)).mapM (f.read room) = .ok as ↔
      ∀ a ∈ as, f.ReadsBack room a := by
    rw [Doc.ofItems_eq_map, mapM_eq_ok_iff, List.forall₂_map_left_iff, List.forall₂_map_left_iff,
      List.forall₂_same]
    rfl
  rw [← items, ReadsBack, list, Doc.ofJson]
  simp [descend, liftFault, Stop.inList, bind_eq_ok_iff]

/-- A value that is never null is read back behind the choice of null. -/
theorem orNull_readsBack_iff {f : Form α} (full : f.IsFull) {o : Option α} :
    f.orNull.ReadsBack room o ↔ ∀ a ∈ o, f.ReadsBack room a := by
  cases o with
  | none => simp [ReadsBack, orNull, ofOption, Doc.ofJson]
  | some a =>
    have other : Doc.ofJson (f.write a) ≠ .null := by
      have written := full a
      revert written
      cases f.write a <;> simp [Doc.ofJson]
    have read : f.orNull.read room (.ofJson (f.write a))
        = (f.read room (.ofJson (f.write a))).map some := by
      simp only [orNull]
    change f.orNull.read room (.ofJson (f.write a)) = .ok (some a) ↔ _
    rw [read]
    cases back : f.read room (.ofJson (f.write a)) <;> simp [ReadsBack, Except.map, back]

/-- A choice is read back if it is made again. -/
theorem chosen_readsBack_iff {write : α → Json} {choose : Json → Except ReadError α} {a : α}
    (fits : (write a).Fits room) :
    (chosen write choose).ReadsBack room a ↔ choose (write a) = .ok a := by
  simp [ReadsBack, chosen, Doc.value_ofJson fits, liftFault, bind_eq_ok_iff]

theorem named_readsBack {variants : List (String × α)} {name : α → String} {a : α}
    (listed : variants.lookup (name a) = some a) : (named variants name).ReadsBack room a := by
  simp [ReadsBack, named, named.lookUp, Doc.ofJson, Doc.key, liftFault, listed, bind_eq_ok_iff,
    pure_eq_ok_iff]

end Form

/-! ### Records -/

namespace Field

/-- Whether the value of a field is read back, be it written or left out. -/
def ReadsBack (f : Field) (room : Nat) (v : f.Carrier) : Prop :=
  if f.omitted v then f.fallback = some v else f.form.ReadsBack room v

variable {α : Type} {name : String} {form : Form α} {room : Nat}

theorem required_readsBack_iff {a : α} :
    (required name form).ReadsBack room a ↔ form.ReadsBack room a := by
  simp [ReadsBack, required]

theorem withDefault_readsBack_iff {fallback a : α} :
    (withDefault name form fallback).ReadsBack room a ↔ form.ReadsBack room a := by
  simp [ReadsBack, withDefault]

theorem optional_readsBack_iff (full : form.IsFull) {o : Option α} :
    (optional name form).ReadsBack room o ↔ ∀ a ∈ o, form.ReadsBack room a := by
  cases o with
  | none => simp [ReadsBack, optional]
  | some a => simpa [ReadsBack, optional] using Form.orNull_readsBack_iff full (o := some a)

theorem listed_readsBack_iff {as : List α} :
    (listed name form).ReadsBack (room + 1) as ↔ ∀ a ∈ as, form.ReadsBack room a := by
  cases as with
  | nil => simp [ReadsBack, listed]
  | cons a as =>
    have items : form.list.ReadsBack (room + 1) (a :: as) ↔ _ := Form.list_readsBack_iff
    simpa [ReadsBack, listed] using items

end Field

/-- Whether the values of all fields are read back. -/
def Row.ReadsBack (room : Nat) : (fs : List Field) → Row fs → Prop
  | [], () => True
  | f :: fs, (v, vs) => f.ReadsBack room v ∧ Row.ReadsBack room fs vs

namespace Draft

variable {room : Nat} {f : Field} {fs : List Field}

/-- Members of other names leave the value of a field as it is. -/
theorem takeAll_cons {ms : List (String × Json)} (other : ∀ m ∈ ms, m.1 ≠ f.name)
    (v : Option f.Carrier) (vs : Draft fs) :
    takeAll room (f :: fs) (Doc.ofMembers ms) (v, vs)
      = (takeAll room fs (Doc.ofMembers ms) vs).map (v, ·) := by
  induction ms generalizing vs with
  | nil => rfl
  | cons m ms ih =>
    obtain ⟨first, others⟩ := List.forall_mem_cons.1 other
    have passed : take room m.1 (.ofJson m.2) (f :: fs) (v, vs)
        = (take room m.1 (.ofJson m.2) fs vs).map (v, ·) := if_neg (Ne.symm first)
    simp only [Doc.ofMembers, takeAll, Doc.key, liftFault, bind, Except.bind]
    rw [passed]
    cases take room m.1 (.ofJson m.2) fs vs with
    | error e => rfl
    | ok vs => exact ih others vs

/-- The member of the first field gives the field its value. -/
theorem takeAll_first (j : Json) (ms : List (String × Json)) (vs : Draft fs) :
    takeAll room (f :: fs) (Doc.ofMembers ((f.name, j) :: ms)) (none, vs) = (do
      let v ← f.form.read room (.ofJson j)
      takeAll room (f :: fs) (Doc.ofMembers ms) (some v, vs)) := by
  have first : take room f.name (.ofJson j) (f :: fs) (none, vs)
      = (f.form.read room (.ofJson j)).map (some ·, vs) := if_pos rfl
  simp only [Doc.ofMembers, takeAll, Doc.key, liftFault, bind, Except.bind]
  rw [first]
  cases f.form.read room (.ofJson j) <;> rfl

/-- A row is complete if its first field is met or has a fallback, and the others are complete. -/
theorem finish_cons_iff {w : Option f.Carrier} {ds : Draft fs} {v : f.Carrier} {vs : Row fs} :
    finish (f :: fs) (w, ds) = .ok (v, vs) ↔ w.or f.fallback = some v ∧ finish fs ds = .ok vs := by
  rw [finish]
  cases w.or f.fallback with
  | none => simp
  | some u =>
    cases finish fs ds with
    | error e => simp [Except.map]
    | ok us =>
      rw [Option.some.injEq, Except.ok.injEq us vs]
      exact (Except.ok.injEq ..).to_iff.trans Prod.mk_inj

end Draft

namespace Row

variable {room : Nat} {fs : List Field}

theorem mem_names {row : Row fs} {m : String × Json} (mem : m ∈ members fs row) :
    m.1 ∈ fs.map (·.name) := by
  induction fs with
  | nil => cases mem
  | cons f fs ih =>
    obtain ⟨v, vs⟩ := row
    rcases List.mem_append.1 mem with here | there
    · split at here
      · cases here
      · obtain rfl := List.mem_singleton.1 here
        exact List.mem_cons_self ..
    · exact List.mem_cons_of_mem _ (ih there)

/-- What is read from members in which no field is named twice. -/
def ofMembers (room : Nat) (fs : List Field) (ms : List (String × Json)) :
    Except ReadError (Row fs) := do
  let draft ← Draft.takeAll room fs (Doc.ofMembers ms) (Draft.empty fs)
  Draft.finish fs draft

/-- A row is read back from its members if each of its fields is. -/
theorem ofMembers_members_iff (distinct : (fs.map (·.name)).Nodup) {row : Row fs} :
    ofMembers room fs (members fs row) = .ok row ↔ Row.ReadsBack room fs row := by
  induction fs with
  | nil => exact iff_of_true rfl trivial
  | cons f fs ih =>
    obtain ⟨v, vs⟩ := row
    obtain ⟨new, distinct⟩ := List.nodup_cons.1 distinct
    have other : ∀ m ∈ members fs vs, m.1 ≠ f.name := by
      intro m mem same
      have among := mem_names mem
      rw [same] at among
      exact new among
    -- The other fields are read in the same way, whatever is known of the first.
    have others (w : Option f.Carrier) :
        (Draft.takeAll room (f :: fs) (Doc.ofMembers (members fs vs)) (w, Draft.empty fs) >>=
            Draft.finish (f :: fs)) = .ok (v, vs) ↔
          w.or f.fallback = some v ∧ Row.ReadsBack room fs vs := by
      rw [Draft.takeAll_cons other, ← ih distinct, ofMembers]
      cases Draft.takeAll room fs (Doc.ofMembers (members fs vs)) (Draft.empty fs) with
      | error e => exact iff_of_false (by rintro ⟨⟩) (by rintro ⟨-, ⟨⟩⟩)
      | ok ds => exact Draft.finish_cons_iff
    by_cases omitted : f.omitted v
    · have left : members (f :: fs) (v, vs) = members fs vs := by
        simp [members, omitted]
      have field : f.ReadsBack room v ↔ f.fallback = some v := by simp [Field.ReadsBack, omitted]
      rw [left, ofMembers]
      refine (others none).trans ?_
      rw [Option.none_or, ← field]
      rfl
    · have written : members (f :: fs) (v, vs) = (f.name, f.form.write v) :: members fs vs := by
        simp [members, omitted]
      have field : f.ReadsBack room v ↔ f.form.ReadsBack room v := by
        simp [Field.ReadsBack, omitted]
      rw [written, ofMembers]
      refine Iff.trans (b := f.ReadsBack room v ∧ Row.ReadsBack room fs vs) ?_ Iff.rfl
      rw [Draft.empty, Draft.takeAll_first, field, Form.ReadsBack]
      cases f.form.read room (.ofJson (f.form.write v)) with
      | error e => exact iff_of_false (by rintro ⟨⟩) (by rintro ⟨⟨⟩, -⟩)
      | ok u => exact (others (some u)).trans (by simp)

end Row

namespace Form

section

variable {α : Type} {name : String} {fields : List Field} {toRow : α → Row fields}
variable {ofRow : Row fields → α} {room : Nat}

theorem read_record (ms : List (String × Json)) :
    (record name fields toRow ofRow).read (room + 1) (.ofJson (.object ms))
      = (Row.ofMembers room fields ms).map ofRow := by
  rw [record, Doc.ofJson, Row.ofMembers]
  simp only [descend, liftFault, Stop.inObject, bind, Except.bind, pure, Except.pure]
  cases Draft.takeAll room fields (Doc.ofMembers ms) (Draft.empty fields) with
  | error e => rfl
  | ok draft => cases Draft.finish fields draft <;> rfl

/-- A record is read back if each of its fields is. -/
theorem record_readsBack_iff (distinct : (fields.map (·.name)).Nodup)
    (inverse : ∀ a, ofRow (toRow a) = a) (inverse' : ∀ row, toRow (ofRow row) = row) {a : α} :
    (record name fields toRow ofRow).ReadsBack (room + 1) a ↔
      Row.ReadsBack room fields (toRow a) := by
  rw [← Row.ofMembers_members_iff distinct, ReadsBack]
  change read _ _ (.ofJson (.object (Row.members fields (toRow a)))) = _ ↔ _
  rw [read_record]
  cases Row.ofMembers room fields (Row.members fields (toRow a)) with
  | error e => simp [Except.map]
  | ok row =>
    simp only [Except.map, Except.ok.injEq]
    exact ⟨fun same => same ▸ (inverse' row).symm, fun same => same ▸ inverse a⟩

end

end Form

/-! ### Whole numbers -/

theorem Row.isWhole_of_mem {fs : List Field} (each : ∀ f ∈ fs, f.form.WritesWhole) {row : Row fs}
    {m : String × Json} (mem : m ∈ members fs row) : m.2.IsWhole := by
  induction fs with
  | nil => cases mem
  | cons f fs ih =>
    obtain ⟨v, vs⟩ := row
    obtain ⟨first, others⟩ := List.forall_mem_cons.1 each
    rcases List.mem_append.1 mem with here | there
    · split at here
      · cases here
      · obtain rfl := List.mem_singleton.1 here
        exact first v
    · exact ih others there

namespace Form

variable {α : Type}

namespace WritesWhole

theorem text (expected : String) : (Form.text expected).WritesWhole := fun s => .string s

theorem boolean : Form.boolean.WritesWhole := fun b => .boolean b

theorem int64 : Form.int64.WritesWhole := by
  intro n
  have most := n.toInt_lt
  have least := n.le_toInt
  exact .integer ⟨by omega, by omega⟩

theorem named (variants : List (String × α)) (name : α → String) :
    (Form.named variants name).WritesWhole := fun a => .string (name a)

theorem list {f : Form α} (whole : f.WritesWhole) : f.list.WritesWhole := by
  intro as
  refine .list fun j mem => ?_
  obtain ⟨a, -, rfl⟩ := List.mem_map.1 mem
  exact whole a

theorem orNull {f : Form α} (whole : f.WritesWhole) : f.orNull.WritesWhole
  | none => .null
  | some a => whole a

theorem record {name : String} {fields : List Field} {toRow : α → Row fields}
    {ofRow : Row fields → α} (each : ∀ f ∈ fields, f.form.WritesWhole) :
    (Form.record name fields toRow ofRow).WritesWhole := by
  intro a
  exact .object fun m => Row.isWhole_of_mem each

end WritesWhole

end Form

end AssistedInjection.Json
