import TraceArchive.Proofs.Json.Rereading
import TraceArchive.Proofs.Json.Taking
/-!
Records read back.  From a text of a value a field is read as it is taken from the value that is
read back, if it is one of a string, of an integer or of an array; and so is a record that has such
a field for each member.
-/

namespace TraceArchive

namespace Json

variable {σ τ : Type} {depth : Nat} {t rest : Bytes} {v : Value} {expected : String}

namespace Value

variable {u : Value}

/-! A value that is read back stays of its kind. -/

theorem opener_reread (h : v.reread? = some u) : u.opener = v.opener := by
  cases v with
  | null | bool | string =>
      obtain rfl := Option.some.inj h
      rfl
  | number | array | object =>
      obtain ⟨_, _, rfl⟩ := Option.map_eq_some_iff.mp h
      rfl

theorem opener_eq_quote (h : v.opener = 0x22) : ∃ s, v = .string s := by
  rcases v with _ | (_ | _) | _ | s | _ | _
  case string => exact ⟨s, rfl⟩
  all_goals exact absurd h (by simp [opener])

theorem opener_eq_digit (h : v.opener = 0x30) : ∃ n, v = .number n := by
  rcases v with _ | (_ | _) | n | _ | _ | _
  case number => exact ⟨n, rfl⟩
  all_goals exact absurd h (by simp [opener])

theorem asString?_of_opener (h : v.opener ≠ 0x22) : v.asString? = none := by
  cases v <;> first | rfl | exact absurd rfl h

theorem integerWithin?_of_opener (h : v.opener ≠ 0x30) (low high : Int) :
    v.integerWithin? low high = none := by
  cases v <;> first | rfl | exact absurd rfl h

theorem settledItems?_of_opener (h : v.opener ≠ 0x5B) : v.settledItems? = none := by
  cases v <;> first | rfl | exact absurd rfl h

end Value

/-! ## Strings, integers and arrays -/

namespace Spaced

theorem front (h : Spaced v t) (blanks : Blanks) (rest : Bytes) :
    ∃ b r, skipBlanks (blanks.bytes ++ (t ++ rest)) = b :: r ∧ openerOf b = v.opener := by
  obtain ⟨b, r, htext, hopener⟩ := h.opener
  refine ⟨b, r ++ rest, ?_, hopener⟩
  rw [blanks.skipBlanks_append, h.grammatical.skipBlanks_append, htext, List.cons_append]

/-- Only a string is read as one. -/
theorem stringOf (h : Spaced v t) (expected : String) (depth : Nat) (blanks : Blanks)
    (rest : Bytes) :
    Reads (v.levels ≤ depth) (Json.stringOf expected (blanks.bytes ++ (t ++ rest)))
      ((v.reread?.bind Value.asString?).map (·, rest)) := by
  by_cases hopener : v.opener = 0x22
  · obtain ⟨s, rfl⟩ := Value.opener_eq_quote hopener
    obtain rfl := h.of_flat rfl
    refine .of_isSome ?_ fun _ => Nat.zero_le depth
    exact toOption_eq_some.mpr (stringOf_eq_ok.mpr ⟨_, quotes_quoted s, blanks, rfl⟩)
  · obtain ⟨b, r, hs, hb⟩ := h.front blanks rest
    have hnone : v.reread?.bind Value.asString? = none := by
      apply Option.bind_eq_none_iff.mpr
      intro u hu
      apply Value.asString?_of_opener
      rwa [Value.opener_reread hu]
    rw [hnone]
    refine .of_isSome (stringOf_of_ne hs ?_ expected) fun hsome => absurd hsome (by simp)
    rintro rfl
    exact hopener hb.symm

/-- Only a number is read as an integer. -/
theorem integerOf (h : Spaced v t) (expected : String) (low high : Int) (depth : Nat)
    (blanks : Blanks) (hrest : EndsNumber rest) :
    Reads (v.levels ≤ depth) (Json.integerOf expected low high (blanks.bytes ++ (t ++ rest)))
      ((v.reread?.bind (Value.integerWithin? low high)).map (·, rest)) := by
  by_cases hopener : v.opener = 0x30
  · obtain ⟨n, rfl⟩ := Value.opener_eq_digit hopener
    obtain rfl := h.of_flat rfl
    obtain ⟨b, r, htext, hhead, hread⟩ := number_text n hrest
    have hs : skipBlanks (blanks.bytes ++ (Utf8.encode (Value.number n).compact ++ rest)) =
        b :: r := by
      rw [blanks.skipBlanks_append]
      exact (congrArg skipBlanks htext).trans (skipBlanks_cons (isBlank_of_number hhead) r)
    rw [Value.reread?]
    refine .of_isSome ?_ fun _ => Nat.zero_le depth
    cases hreread : n.reread? with
    | none =>
        rw [hreread] at hread
        obtain ⟨fault, hfault⟩ := exists_error hread
        rw [Json.integerOf]
        simp only [hs, Bool.or_eq_true, decide_eq_true_eq, hhead, ↓reduceIte, hfault]
        rfl
    | some m =>
        rw [hreread] at hread
        have hverbatim : Verbatim 0 _ (.number m) rest :=
          .number hs hhead (toOption_eq_some.mp hread)
        exact hverbatim.integerOf expected low high
  · obtain ⟨b, r, hs, hb⟩ := h.front blanks rest
    have hnone : v.reread?.bind (Value.integerWithin? low high) = none := by
      apply Option.bind_eq_none_iff.mpr
      intro u hu
      apply Value.integerWithin?_of_opener
      rwa [Value.opener_reread hu]
    rw [hnone]
    refine .of_isSome (integerOf_of_not hs ?_ expected low high) fun hsome =>
      absurd hsome (by simp)
    apply Bool.eq_false_of_not_eq_true
    intro hnumber
    rw [openerOf, if_pos hnumber] at hb
    exact hopener hb.symm

/-- Only an array is read as one, and its items may nest one deeper. -/
theorem arrayOf (h : Spaced v t) (hplain : v.Plain) (expected : String) (depth : Nat)
    (blanks : Blanks) (rest : Bytes) :
    Reads (v.levels ≤ depth) (Json.arrayOf expected depth (blanks.bytes ++ (t ++ rest)))
      ((v.reread?.bind Value.settledItems?).map (·, rest)) := by
  by_cases hopener : v.opener = 0x5B
  · obtain ⟨xs, rfl⟩ := Value.opener_eq_bracket hopener
    obtain ⟨items, last, hitems, rfl, rfl⟩ := h.of_array
    rw [← arrayOf_skipBlanks, blanks.skipBlanks_append, List.cons_append,
      skipBlanks_cons (by decide)]
    cases depth with
    | zero => exact .of_tooDeep ⟨_, rfl⟩ (Nat.not_succ_le_zero _)
    | succ depth =>
        have hread : ∀ x ∈ items, RereadsAt .usual depth x.value x.text := by
          intro x hx
          apply (hitems x hx).rereadsAt
          exact hplain.items x.value (List.mem_map_of_mem hx)
        have hreads := ((reads_items hitems hread last rest).map
          fun found => (rfl : Except.ok (found.1.reverse, found.2) = _)).congr
            Value.levels_array_le.symm
        rw [arrayOf_bracket, Value.reread?]
        cases hreread : Value.rereadItems (items.map (·.value)) with
        | none =>
            rw [hreread] at hreads
            exact hreads
        | some found =>
            have hfound : ∀ x ∈ found, x.Plain := by
              intro x hx
              obtain ⟨y, hy, hx⟩ := Value.mem_of_rereadItems hreread x hx
              exact (hplain.items y hy).reread hx
            have hsettled : Value.settleItems found = some found :=
              Value.settleItems_eq fun x hx => (hfound x hx).settle
            rw [hreread, Option.map_some, Option.map_some, List.reverse_reverse] at hreads
            rw [Option.map_some, Option.bind_some, Value.settledItems?, hsettled]
            exact hreads
  · obtain ⟨b, r, hs, hb⟩ := h.front blanks rest
    have hnone : v.reread?.bind Value.settledItems? = none := by
      apply Option.bind_eq_none_iff.mpr
      intro u hu
      apply Value.settledItems?_of_opener
      rwa [Value.opener_reread hu]
    rw [hnone]
    refine .of_isSome (arrayOf_of_ne hs ?_ expected) fun hsome => absurd hsome (by simp)
    rintro rfl
    exact hopener hb.symm

end Spaced

/-! ## Fields -/

/-- From a text of a plain value the field reads what it takes from the value that is read back. -/
def Member.Rereads (field : Member σ) : Prop :=
  ∀ depth gathered v t rest (blanks : Blanks), v.Plain → Spaced v t → EndsNumber rest →
    Reads (v.levels ≤ depth) (field.read depth gathered (blanks.bytes ++ (t ++ rest)))
      ((v.reread?.bind (field.ofValue? gathered)).map (·, rest))

/-- A field does so if it is one part of a value, put into what is gathered. -/
theorem Member.rereads_of_part {α : Type} {field : Member σ}
    {reading : Nat → Bytes → Except Fault (α × Bytes)} {part : Value → Option α} (put : σ → α → σ)
    (hpart : ∀ depth v t rest (blanks : Blanks), v.Plain → Spaced v t → EndsNumber rest →
      Reads (v.levels ≤ depth) (reading depth (blanks.bytes ++ (t ++ rest)))
        ((v.reread?.bind part).map (·, rest)))
    (hread : ∀ depth gathered s, field.read depth gathered s = (do
      let (a, rest) ← reading depth s
      return (put gathered a, rest)))
    (htake : ∀ gathered v, field.ofValue? gathered v = (part v).map (put gathered)) :
    field.Rereads := by
  intro depth gathered v t rest blanks hplain hspaced hrest
  have hgathered := (hpart depth v t rest blanks hplain hspaced hrest).gather (put gathered)
  rw [Option.bind_assoc] at hgathered
  rw [hread, funext (htake gathered)]
  simp only [Option.map_eq_bind (f := put gathered)]
  exact hgathered

theorem Member.text_rereads (name expected : String) (get : σ → Option String)
    (put : σ → String → σ) : (Member.text name expected get put).Rereads := by
  refine rereads_of_part put ?_ (fun _ _ _ => rfl) fun _ _ => rfl
  intro depth v t rest blanks _ hspaced _
  exact hspaced.stringOf expected depth blanks rest

/-! ## Whole records -/

namespace Shape

variable {shape : Shape σ τ} {members : List WrittenMember}

/-- A member of a known name is read back and then taken. -/
theorem reads_readMember (hfields : ∀ field ∈ shape.fields, field.Rereads) {m : WrittenMember}
    (hknown : (shape.fields.find? (·.name = m.name)).isSome) (hplain : m.value.Plain)
    (hspaced : Spaced m.value m.text) (hrest : EndsNumber rest) {named : Bytes}
    (hcolon : colon named = .ok (m.afterColon.bytes ++ (m.text ++ rest))) (gathered : σ) :
    Reads (m.value.levels ≤ depth) (shape.readMember depth gathered m.name named)
      ((m.value.reread?.bind fun v => shape.takeMember gathered (m.name, v)).map (·, rest)) := by
  obtain ⟨field, hfield⟩ := Option.isSome_iff_exists.mp hknown
  have htake : ∀ v, shape.takeMember gathered (m.name, v) =
      if field.given gathered then none else field.ofValue? gathered v := by
    intro v
    rw [takeMember, hfield]
  rw [readMember, hfield, funext htake]
  simp only
  split
  · refine .of_isSome ?_ fun hsome => absurd hsome (by simp)
    simp
    rfl
  · rw [hcolon]
    exact hfields field (List.mem_of_find?_eq_some hfield) depth gathered m.value m.text rest
      m.afterColon hplain hspaced hrest

/-- Members of known names are read back and then taken. -/
theorem reads_readMembers (hfields : ∀ field ∈ shape.fields, field.Rereads)
    (hknown : ∀ m ∈ members, (shape.fields.find? (·.name = m.name)).isSome)
    (hplain : ∀ m ∈ members, m.value.Plain) (hspaced : ∀ m ∈ members, Spaced m.value m.text)
    (last : Blanks) (depth : Nat) (rest : Bytes) :
    Reads (∀ m ∈ members, m.value.levels ≤ depth)
      (shape.readMembers depth (piecesText 0x7D true last (members.map (·.named.piece)) ++ rest))
      (((Value.rereadMembers (members.map fun m => (m.name, m.value))).bind
        (shape.takeMembers shape.blank)).map (·, rest)) := by
  have htaken : (Value.rereadMembers (members.map fun m => (m.name, m.value))).bind
      (shape.takeMembers shape.blank) =
        (members.map fun m => (m.name, m)).foldlM (fun gathered (m : String × WrittenMember) =>
          m.2.value.reread?.bind fun v => shape.takeMember gathered (m.1, v)) shape.blank := by
    rw [funext (shape.takeMembers_eq_foldlM shape.blank), ← Value.foldlM_rereadMembers,
      List.foldlM_map, List.foldlM_map]
  have hlevels : (∀ m ∈ members.map fun m => (m.name, m), m.2.value.levels ≤ depth) ↔
      ∀ m ∈ members, m.value.levels ≤ depth :=
    List.forall_mem_map
  rw [htaken, readMembers_eq]
  refine Reads.congr ?_ hlevels
  apply (members_written members last rest).reads takes_string (takes_members hspaced) id _
    (fun _ _ _ h => h) ?_ (Nat.lt_succ_self _)
  rintro gathered name named valued m left hmem _ hcolon ⟨hm, hleft, rfl⟩
  obtain ⟨_, _, heq⟩ := List.mem_map.mp hmem
  obtain ⟨rfl, rfl⟩ := Prod.mk.inj heq
  rw [List.append_assoc] at hcolon
  exact reads_readMember hfields (hknown _ hm) (hplain _ hm) (hspaced _ hm) hleft hcolon gathered

/-- A record whose fields are all there is read from an object as it is taken from the object that
is read back. -/
theorem reads_read (hfields : ∀ field ∈ shape.fields, field.Rereads)
    {ms : List (String × Value)} (hknown : ∀ m ∈ ms, (shape.fields.find? (·.name = m.1)).isSome)
    (hplain : (Value.object ms).Plain) (h : Spaced (.object ms) t) (depth : Nat) (rest : Bytes) :
    Reads ((Value.object ms).levels ≤ depth) (shape.read depth (t ++ rest))
      (((Value.object ms).reread?.bind shape.ofValue?).map (·, rest)) := by
  obtain ⟨members, last, hmembers, rfl, rfl⟩ := h.of_object
  cases depth with
  | zero => exact .of_tooDeep ⟨_, rfl⟩ (Nat.not_succ_le_zero _)
  | succ depth =>
      have hmem : ∀ m ∈ members, (m.name, m.value) ∈ members.map fun m => (m.name, m.value) :=
        fun m hm => List.mem_map.mpr ⟨m, hm, rfl⟩
      have hreads := reads_readMembers hfields (fun m hm => hknown _ (hmem m hm))
        (fun m hm => hplain.plainMembers.members_plain _ (hmem m hm)) hmembers last depth rest
      refine Reads.congr ?_ levels_written.symm
      rw [Value.reread?, Option.bind_map]
      have hwhole := hreads.finish shape.toOption_finish
      rw [Option.bind_assoc] at hwhole
      exact hwhole

end Shape

end Json

end TraceArchive
