import AssistedInjection.Source.Escape

/-!
Dotted names and their segments: joining the segments of a name gives the name back, and a list of
texts without dots is what its join is cut into again.
-/

namespace AssistedInjection.Source

theorem intercalate_segments (text : String) : ".".intercalate (segments text) = text := by
  have dot : ".".toList = ['.'] := rfl
  rw [← String.toList_inj, String.toList_intercalate, segments, List.map_map, dot]
  simp

theorem segments_intercalate {ss : List String} (some : ss ≠ [])
    (plain : ∀ s ∈ ss, '.' ∉ s.toList) : segments (".".intercalate ss) = ss := by
  have dot : ".".toList = ['.'] := rfl
  have cut : (['.'].intercalate (ss.map String.toList)).splitOn '.' = ss.map String.toList :=
    List.splitOn_intercalate '.' (by simpa using plain) (by simpa using some)
  rw [segments, String.toList_intercalate, dot, cut, List.map_map]
  simp

theorem segments_ne_nil (text : String) : segments text ≠ [] := by
  simp [segments]

/-- A part between separators keeps to the elements of the list and has no separator. -/
theorem mem_of_mem_splitOn {α : Type} [DecidableEq α] {a : α} {l part : List α}
    (mem : part ∈ l.splitOn a) : ∀ c ∈ part, c ∈ l ∧ c ≠ a := by
  induction l generalizing part with
  | nil => simp_all
  | cons x l ih =>
    obtain ⟨s, ss, split⟩ := List.exists_cons_of_ne_nil (List.splitOn_ne_nil a l)
    rw [List.splitOn_cons_eq_if_modifyHead, split] at mem
    have keep {part : List α} (old : part ∈ s :: ss) : ∀ d ∈ part, d ∈ x :: l ∧ d ≠ a := by
      intro d hd
      obtain ⟨among, plain⟩ := ih (split ▸ old) d hd
      exact ⟨List.mem_cons_of_mem _ among, plain⟩
    split at mem
    · rcases List.mem_cons.1 mem with rfl | old
      · simp
      · exact keep old
    · rename_i other
      rcases List.mem_cons.1 mem with rfl | old
      · rintro d (_ | ⟨_, hd⟩)
        · exact ⟨List.mem_cons_self .., by simpa using other⟩
        · exact keep (List.mem_cons_self ..) d hd
      · exact keep (List.mem_cons_of_mem _ old)

/-- A segment keeps to the characters of its name and has no dot. -/
theorem mem_of_mem_segments {text s : String} (mem : s ∈ segments text) :
    ∀ c ∈ s.toList, c ∈ text.toList ∧ c ≠ '.' := by
  obtain ⟨part, among, rfl⟩ := List.mem_map.1 mem
  simpa using mem_of_mem_splitOn among

end AssistedInjection.Source
