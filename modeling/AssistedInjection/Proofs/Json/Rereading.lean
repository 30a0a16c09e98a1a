import AssistedInjection.Json.Reader
import AssistedInjection.Proofs.Json.Numbers
import AssistedInjection.Proofs.Json.Strings

/-!
The text of a JSON value is read as the value, without any fault and up to its end, in whatever
style it was written. A value may hold every text; its numbers have to be whole and of 64 bits.

    {"a": [1, "x"]}  ,        object [("a", list [1, "x"])]  │  ,
     2 steps for a bracket, at most one for every other character
-/

namespace AssistedInjection.Json

/-- A value whose numbers are whole and of 64 bits. -/
inductive IsWhole : Json → Prop
  | null : IsWhole .null
  | boolean (b : Bool) : IsWhole (.boolean b)
  | integer {n : Int} : IsWord64 n → IsWhole (.ofInt n)
  | string (s : String) : IsWhole (.string s)
  | list {items : List Json} : (∀ j ∈ items, IsWhole j) → IsWhole (.list items)
  | object {members : List (String × Json)} :
    (∀ m ∈ members, IsWhole m.2) → IsWhole (.object members)

/-- A style that puts nothing but blanks between tokens. -/
structure Style.IsBlank (style : Style) : Prop where
  lineBreak : ∀ depth, ∀ c ∈ (style.lineBreak depth).toList, isGap c
  afterColon : ∀ c ∈ style.afterColon.toList, isGap c

theorem isBlank_spread : Style.spread.IsBlank where
  lineBreak depth c mem := by
    simp only [Style.spread, String.toList_append, String.toList_ofList, List.mem_append,
      List.mem_replicate] at mem
    rcases mem with newline | ⟨-, rfl⟩
    · obtain rfl := List.mem_singleton.1 newline
      decide
    · decide
  afterColon := List.all_eq_true.1 (by decide)

theorem isBlank_compact : Style.compact.IsBlank where
  lineBreak _ _ mem := absurd mem List.not_mem_nil
  afterColon _ mem := absurd mem List.not_mem_nil

/-! ### Between tokens -/

theorem skipGap_append {gap : List Char} (blank : ∀ c ∈ gap, isGap c) (text : List Char) :
    skipGap (gap ++ text) = skipGap text :=
  List.dropWhile_append_of_pos blank

/-- What a value starts with. -/
structure Opens (c : Char) : Prop where
  dense : ¬ isGap c
  list : c ≠ ']'
  object : c ≠ '\x7d'

theorem Opens.cons_ne_listEnd {c : Char} (opens : Opens c) (cs : List Char) :
    ∀ rest, c :: cs ≠ ']' :: rest :=
  fun _ same => opens.list (List.cons.inj same).1

theorem Opens.cons_ne_objectEnd {c : Char} (opens : Opens c) (cs : List Char) :
    ∀ rest, c :: cs ≠ '\x7d' :: rest :=
  fun _ same => opens.object (List.cons.inj same).1

theorem skipGap_cons {c : Char} (dense : ¬ isGap c) (cs : List Char) :
    skipGap (c :: cs) = c :: cs :=
  List.dropWhile_cons_of_neg dense

theorem opens_of_isDigit {c : Char} (digit : c.isDigit) : Opens c := by
  have other {d : Char} (other : ¬ d.isDigit) : c ≠ d := fun same => other (same ▸ digit)
  refine ⟨?_, other (by decide), other (by decide)⟩
  simp only [isGap, Bool.or_eq_true, beq_iff_eq, not_or]
  exact ⟨⟨⟨other (by decide), other (by decide)⟩, other (by decide)⟩, other (by decide)⟩

theorem head?_toString (n : Int) :
    ∃ c, (toString n).toList.head? = some c ∧ (c.isDigit || c == '-') := by
  rw [Numeral.toList_toString]
  by_cases negative : n < 0
  · exact ⟨'-', by simp [negative], by decide⟩
  · obtain ⟨d, ds, digits⟩ := List.exists_cons_of_ne_nil (@Nat.toDigits_ne_nil n.natAbs 10)
    have digit : d.isDigit := isDigit_of_mem (digits ▸ List.mem_cons_self)
    exact ⟨d, by simp [negative, digits], by simp [digit]⟩

/-- Every value starts with a token of its own. -/
theorem head?_write {j : Json} (whole : j.IsWhole) (style : Style) (depth : Nat) :
    ∃ c, (j.write style depth).toList.head? = some c ∧ Opens c := by
  have opens : ∀ c ∈ ['n', 't', 'f', '"', '[', '\x7b', '-'], Opens c := by
    simp only [List.forall_mem_cons]
    refine ⟨?_, ?_, ?_, ?_, ?_, ?_, ?_, by simp⟩ <;> exact ⟨by decide, by decide, by decide⟩
  cases whole with
  | null => exact ⟨'n', by simp [write], opens _ (by decide)⟩
  | boolean b =>
    cases b
    · exact ⟨'f', by simp [write], opens _ (by decide)⟩
    · exact ⟨'t', by simp [write], opens _ (by decide)⟩
  | @integer n =>
    obtain ⟨c, front, starts⟩ := head?_toString n
    refine ⟨c, by rwa [ofInt, write], ?_⟩
    rcases Bool.or_eq_true_iff.1 starts with digit | minus
    · exact opens_of_isDigit digit
    · exact opens c (by simp [eq_of_beq minus])
  | string s => exact ⟨'"', by simp [write, toList_stringText], opens _ (by decide)⟩
  | @list items =>
    cases items
    · exact ⟨'[', by simp [write], opens _ (by decide)⟩
    · exact ⟨'[', by simp [write], opens _ (by decide)⟩
  | @object members =>
    cases members
    · exact ⟨'\x7b', by simp [write], opens _ (by decide)⟩
    · exact ⟨'\x7b', by simp [write], opens _ (by decide)⟩

/-! ### One value -/

namespace Doc

theorem ofText_skipGap {gap : List Char} (blank : ∀ c ∈ gap, isGap c) (n : Nat) (text : List Char) :
    ofText n (gap ++ text) = ofText n text := by
  cases n with
  | zero => simp [ofText]
  | succ n => simp only [ofText, skipGap_append blank]

theorem ofText_stringText (n : Nat) (s : String) (rest : List Char) :
    ofText (n + 1) ((stringText s).toList ++ rest) = (.string (.ok s) (.ok ()), rest) := by
  have front : (stringText s).toList ++ rest =
      '"' :: (s.toList.flatMap (fun c => (escapedChar c).toList) ++ '"' :: rest) := by
    simp [toList_stringText]
  rw [front, ofText, skipGap_cons (by decide)]
  simp [ofLiteralText, scanString_escaped, skimString_escaped, Except.map]

theorem ofText_toString (n : Nat) {i : Int} (fits : IsWord64 i) {rest : List Char}
    (ends : EndsNumber rest) :
    ofText (n + 1) ((toString i).toList ++ rest)
      = (.number (.ok (.integer i)) (.ok ()), rest) := by
  obtain ⟨c, front, starts⟩ := head?_toString i
  obtain ⟨cs, text⟩ := List.head?_eq_some_iff.1 front
  have read : ofNumeral ((toString i).toList ++ rest)
      = (.number (.ok (.integer i)) (.ok ()), rest) := by
    rw [ofNumeral, Numeral.cut_toString i ends]
    simp only [Numeral.value_ofInt fits]
  have dense : ¬ isGap c := by
    rcases Bool.or_eq_true_iff.1 starts with digit | minus
    · exact (opens_of_isDigit digit).dense
    · rw [eq_of_beq minus]
      decide
  rw [text, List.cons_append] at read ⊢
  rw [ofText, skipGap_cons dense]
  split
  case h_8 =>
    rename_i same
    obtain ⟨rfl, rfl⟩ := List.cons.inj same
    rw [if_pos starts, read]
  -- No other token starts with a digit or a minus.
  all_goals
    rename_i same
    cases same <;> exact absurd starts (by decide)

end Doc

/-! ### Items and members -/

namespace Doc

section

variable {n : Nat} {text after after' rest cs ds : List Char} {c c' : Char} {k d : Doc}

theorem itemsOf_last (item : ofText n text = (d, after)) (closing : skipGap after = ']' :: rest) :
    itemsOf (n + 1) text = ([d], .closed, rest) := by
  simp [itemsOf, item, closing]

theorem itemsOf_more (item : ofText n text = (d, after)) (comma : skipGap after = ',' :: after')
    (next : skipGap after' = c :: cs) (opens : Opens c) :
    itemsOf (n + 1) text = (d :: (itemsOf n (c :: cs)).1, (itemsOf n (c :: cs)).2) := by
  have bracket := opens.cons_ne_listEnd cs
  simp [itemsOf, item, comma, next]

theorem ofText_list (next : skipGap text = c :: cs) (opens : Opens c) :
    ofText (n + 1) ('[' :: text)
      = (.list (itemsOf n (c :: cs)).1 (itemsOf n (c :: cs)).2.1, (itemsOf n (c :: cs)).2.2) := by
  have bracket := opens.cons_ne_listEnd cs
  rw [ofText, skipGap_cons (by decide)]
  simp [next]

theorem ofText_object (next : skipGap text = c :: cs) (opens : Opens c) :
    ofText (n + 1) ('\x7b' :: text)
      = (.object (membersOf n (c :: cs)).1 (membersOf n (c :: cs)).2.1,
          (membersOf n (c :: cs)).2.2) := by
  have bracket := opens.cons_ne_objectEnd cs
  rw [ofText, skipGap_cons (by decide)]
  simp [next]

theorem membersOf_last (key : ofText n text = (k, ':' :: cs)) (value : ofText n cs = (d, after))
    (closing : skipGap after = '\x7d' :: rest) :
    membersOf (n + 1) text = ([(k, d)], .closed, rest) := by
  have colon : skipGap (':' :: cs) = ':' :: cs := skipGap_cons (by decide) cs
  simp [membersOf, key, colon, value, closing]

theorem membersOf_more (key : ofText n text = (k, ':' :: cs)) (value : ofText n cs = (d, after))
    (comma : skipGap after = ',' :: after') (next : skipGap after' = c :: ds) (opens : Opens c) :
    membersOf (n + 1) text
      = ((k, d) :: (membersOf n (c :: ds)).1, (membersOf n (c :: ds)).2) := by
  have bracket := opens.cons_ne_objectEnd ds
  have colon : skipGap (':' :: cs) = ':' :: cs := skipGap_cons (by decide) cs
  simp [membersOf, key, colon, value, comma, next]

end

end Doc

/-- A value that is read from its text where enough steps are left. -/
def ReadsBack (style : Style) (j : Json) : Prop :=
  ∀ (depth n : Nat) (rest : List Char), EndsNumber rest → 2 * (j.write style depth).length ≤ n →
    Doc.ofText (n + 1) ((j.write style depth).toList ++ rest) = (.ofJson j, rest)

section

variable {style : Style} {gap : List Char} (depth : Nat)

theorem endsNumber_gap (blank : ∀ c ∈ gap, isGap c) {c : Char} {cs : List Char}
    (mark : EndsNumber (c :: cs)) : EndsNumber (gap ++ c :: cs) := by
  cases gap with
  | nil => exact mark
  | cons d ds =>
    have isGap : isGap d := blank d List.mem_cons_self
    rintro x ⟨⟩
    simp only [Json.isGap, Bool.or_eq_true, beq_iff_eq] at isGap
    rcases isGap with ((rfl | rfl) | rfl) | rfl <;> decide

theorem endsNumber_mark {c : Char} (mark : c ∈ [',', ']', '\x7d']) (cs : List Char) :
    EndsNumber (c :: cs) := by
  rintro x ⟨⟩
  simp only [List.mem_cons, List.not_mem_nil, or_false] at mark
  rcases mark with rfl | rfl | rfl <;> decide

/-- Blanks are passed over up to the token behind them. -/
theorem skipGap_token (blank : ∀ c ∈ gap, isGap c) {token : List Char} {c : Char}
    (front : token.head? = some c) (opens : Opens c) (rest : List Char) :
    ∃ cs, token ++ rest = c :: cs ∧ skipGap (gap ++ (token ++ rest)) = c :: cs := by
  obtain ⟨cs, rfl⟩ := List.head?_eq_some_iff.1 front
  refine ⟨cs ++ rest, rfl, ?_⟩
  rw [skipGap_append blank, List.cons_append, skipGap_cons opens.dense]

theorem head?_writeMember (m : String × Json) :
    (writeMember style depth m).toList.head? = some '"' := by
  obtain ⟨k, j⟩ := m
  simp [writeMember, toList_stringText]

theorem opens_quote : Opens '"' := ⟨by decide, by decide, by decide⟩

/-- Items are read one after the other up to the bracket. -/
theorem itemsOf_write (blank : style.IsBlank) (blankGap : ∀ c ∈ gap, isGap c) (rest : List Char)
    {j : Json} {js : List Json} (whole : ∀ i ∈ j :: js, i.IsWhole)
    (each : ∀ i ∈ j :: js, ReadsBack style i) {n : Nat}
    (enough : 2 * ((j.write style depth).length + (writeItems style depth js).length) ≤ n) :
    Doc.itemsOf (n + 2) ((j.write style depth).toList ++
        ((writeItems style depth js).toList ++ (gap ++ ']' :: rest)))
      = (Doc.ofItems (j :: js), .closed, rest) := by
  induction js generalizing j n with
  | nil =>
    have ends : EndsNumber (gap ++ ']' :: rest) :=
      endsNumber_gap blankGap (endsNumber_mark (by decide) _)
    have item := each j (List.mem_cons_self ..) depth n _ ends (by omega)
    refine Doc.itemsOf_last item ?_
    rw [skipGap_append blankGap, skipGap_cons (by decide)]
  | cons i is ih =>
    obtain ⟨-, wholes⟩ := List.forall_mem_cons.1 whole
    obtain ⟨first, others⟩ := List.forall_mem_cons.1 each
    have comma : ",".length = 1 := rfl
    simp only [writeItems, String.length_append, comma] at enough
    obtain ⟨n, rfl⟩ := Nat.exists_eq_add_one.2 (show 0 < n by omega)
    let more := (writeItems style depth is).toList ++ (gap ++ ']' :: rest)
    let tail := (style.lineBreak depth).toList ++ ((i.write style depth).toList ++ more)
    have text : (writeItems style depth (i :: is)).toList ++ (gap ++ ']' :: rest)
        = ',' :: tail := by
      simp [writeItems, more, tail]
    obtain ⟨c, begins, opens⟩ := head?_write (wholes i (List.mem_cons_self ..)) style depth
    obtain ⟨cs, front, skip⟩ := skipGap_token (blank.lineBreak depth) begins opens more
    have item := first depth (n + 1) (',' :: tail) (endsNumber_mark (by decide) _) (by omega)
    have next := ih (n := n) wholes others (by omega)
    rw [front] at next
    rw [text, Doc.itemsOf_more item (skipGap_cons (by decide) _) skip opens, next]
    rfl

/-- The key of a member is read up to its colon, and the value behind it. -/
theorem ofText_writeMember (blank : style.IsBlank) {m : String × Json}
    (reads : ReadsBack style m.2) {n : Nat} (enough : 2 * (writeMember style depth m).length ≤ n)
    {tail : List Char} (ends : EndsNumber tail) :
    ∃ cs, Doc.ofText (n + 1) ((writeMember style depth m).toList ++ tail)
          = (.string (.ok m.1) (.ok ()), ':' :: cs) ∧
        Doc.ofText (n + 1) cs = (.ofJson m.2, tail) := by
  obtain ⟨k, j⟩ := m
  change ReadsBack style j at reads
  have text : (writeMember style depth (k, j)).toList ++ tail = (stringText k).toList ++
      ':' :: (style.afterColon.toList ++ ((j.write style depth).toList ++ tail)) := by
    simp [writeMember]
  simp only [writeMember, String.length_append] at enough
  refine ⟨_, by rw [text, Doc.ofText_stringText], ?_⟩
  rw [Doc.ofText_skipGap blank.afterColon]
  exact reads depth n tail ends (by omega)

/-- Members are read one after the other up to the bracket. -/
theorem membersOf_write (blank : style.IsBlank) (blankGap : ∀ c ∈ gap, isGap c) (rest : List Char)
    {m : String × Json} {ms : List (String × Json)}
    (each : ∀ m' ∈ m :: ms, ReadsBack style m'.2) {n : Nat}
    (enough : 2 * ((writeMember style depth m).length + (writeMembers style depth ms).length) ≤ n) :
    Doc.membersOf (n + 2) ((writeMember style depth m).toList ++
        ((writeMembers style depth ms).toList ++ (gap ++ '\x7d' :: rest)))
      = (Doc.ofMembers (m :: ms), .closed, rest) := by
  induction ms generalizing m n with
  | nil =>
    have ends : EndsNumber (gap ++ '\x7d' :: rest) :=
      endsNumber_gap blankGap (endsNumber_mark (by decide) _)
    obtain ⟨cs, key, value⟩ := ofText_writeMember (n := n) depth blank
      (each m (List.mem_cons_self ..)) (by omega) ends
    refine Doc.membersOf_last key value ?_
    rw [skipGap_append blankGap, skipGap_cons (by decide)]
  | cons l ls ih =>
    obtain ⟨first, others⟩ := List.forall_mem_cons.1 each
    have comma : ",".length = 1 := rfl
    simp only [writeMembers, String.length_append, comma] at enough
    obtain ⟨n, rfl⟩ := Nat.exists_eq_add_one.2 (show 0 < n by omega)
    let more := (writeMembers style depth ls).toList ++ (gap ++ '\x7d' :: rest)
    let tail := (style.lineBreak depth).toList ++ ((writeMember style depth l).toList ++ more)
    have text : (writeMembers style depth (l :: ls)).toList ++ (gap ++ '\x7d' :: rest)
        = ',' :: tail := by
      simp [writeMembers, more, tail]
    obtain ⟨ds, front, skip⟩ := skipGap_token (blank.lineBreak depth) (head?_writeMember depth l)
      opens_quote more
    obtain ⟨cs, key, value⟩ := ofText_writeMember (n := n + 1) depth blank first (by omega)
      (endsNumber_mark (c := ',') (by decide) tail)
    have next := ih (n := n) others (by omega)
    rw [front] at next
    rw [text, Doc.membersOf_more key value (skipGap_cons (by decide) _) skip opens_quote, next]
    rfl

theorem ReadsBack.list (blank : style.IsBlank) {items : List Json}
    (whole : ∀ j ∈ items, j.IsWhole) (each : ∀ j ∈ items, ReadsBack style j) :
    ReadsBack style (.list items) := by
  intro depth n rest _ enough
  cases items with
  | nil =>
    simp [write, Doc.ofText, skipGap_cons (c := '[') (by decide),
      skipGap_cons (c := ']') (by decide), Doc.ofJson, Doc.ofItems]
  | cons j js =>
    let more := (writeItems style (depth + 1) js).toList ++
      ((style.lineBreak depth).toList ++ ']' :: rest)
    have text : (write style depth (.list (j :: js))).toList ++ rest =
        '[' :: ((style.lineBreak (depth + 1)).toList ++
          ((write style (depth + 1) j).toList ++ more)) := by
      simp [write, more]
    have opening : "[".length = 1 := rfl
    simp only [write, String.length_append, opening] at enough
    obtain ⟨n, rfl⟩ := Nat.exists_eq_add_of_le' (show 2 ≤ n by omega)
    have inside := itemsOf_write (n := n) (depth + 1) blank (blank.lineBreak depth) rest whole
      each (by omega)
    obtain ⟨c, begins, opens⟩ := head?_write (whole j (List.mem_cons_self ..)) style (depth + 1)
    obtain ⟨cs, front, skip⟩ := skipGap_token (blank.lineBreak (depth + 1)) begins opens more
    rw [front] at inside
    rw [text, Doc.ofText_list skip opens, inside, Doc.ofJson]

theorem ReadsBack.object (blank : style.IsBlank) {members : List (String × Json)}
    (each : ∀ m ∈ members, ReadsBack style m.2) : ReadsBack style (.object members) := by
  intro depth n rest _ enough
  cases members with
  | nil =>
    simp [write, Doc.ofText, skipGap_cons (c := '\x7b') (by decide),
      skipGap_cons (c := '\x7d') (by decide), Doc.ofJson, Doc.ofMembers]
  | cons m ms =>
    let more := (writeMembers style (depth + 1) ms).toList ++
      ((style.lineBreak depth).toList ++ '\x7d' :: rest)
    have text : (write style depth (.object (m :: ms))).toList ++ rest =
        '\x7b' :: ((style.lineBreak (depth + 1)).toList ++
          ((writeMember style (depth + 1) m).toList ++ more)) := by
      simp [write, more]
    have opening : "\x7b".length = 1 := rfl
    simp only [write, String.length_append, opening] at enough
    obtain ⟨n, rfl⟩ := Nat.exists_eq_add_of_le' (show 2 ≤ n by omega)
    have inside := membersOf_write (n := n) (depth + 1) blank (blank.lineBreak depth) rest each
      (by omega)
    obtain ⟨cs, front, skip⟩ := skipGap_token (blank.lineBreak (depth + 1))
      (head?_writeMember (depth + 1) m) opens_quote more
    rw [front] at inside
    rw [text, Doc.ofText_object skip opens_quote, inside, Doc.ofJson]

end

/-! ### Whole texts -/

/-- Every value is read from its text. -/
theorem IsWhole.readsBack {style : Style} (blank : style.IsBlank) {j : Json} (whole : j.IsWhole) :
    ReadsBack style j := by
  induction whole with
  | list whole each => exact .list blank whole each
  | object _ each => exact .object blank each
  | null =>
    intro depth n rest _ _
    simp [write, Doc.ofText, skipGap_cons (c := 'n') (by decide), Doc.ofLiteral, Doc.ofJson]
  | boolean b =>
    intro depth n rest _ _
    cases b
    · simp [write, Doc.ofText, skipGap_cons (c := 'f') (by decide), Doc.ofLiteral, Doc.ofJson]
    · simp [write, Doc.ofText, skipGap_cons (c := 't') (by decide), Doc.ofLiteral, Doc.ofJson]
  | integer fits =>
    intro depth n rest ends _
    rw [ofInt, write, Doc.ofJson]
    exact Doc.ofText_toString n fits ends
  | string s =>
    intro depth n rest _ _
    rw [write, Doc.ofJson, Doc.ofText_stringText]

/-- Nothing is lost in the text of a value. -/
theorem Source.ofString_write {style : Style} (blank : style.IsBlank) {j : Json}
    (whole : j.IsWhole) : Source.ofString (j.write style 0) = ⟨.ofJson j, false⟩ := by
  have read := whole.readsBack blank 0 (2 * (j.write style 0).length + 1) [] (by rintro c ⟨⟩)
    (Nat.le_succ _)
  have steps : 2 * ((j.write style 0).length + 1) = 2 * (j.write style 0).length + 1 + 1 := by
    omega
  rw [List.append_nil] at read
  rw [Source.ofString, steps, read]
  rfl

end AssistedInjection.Json
