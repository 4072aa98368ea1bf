import TraceArchive.Proofs.Json.Verbatim
/-!
Values read verbatim and then settled.  Where a value is read verbatim, reading it under the usual
policy gives what settling it gives, and fails where that fails; and wherever one is read under the
usual policy, one is read verbatim.
-/

namespace TraceArchive

namespace Json

variable {depth inner : Nat} {s r rest : Bytes} {v : Value}

/-! ## Strings -/

theorem toOption_mismatch {α : Type} (expected : String) (s : Bytes) :
    (mismatch expected s : Except Fault α).toOption = none := by
  rw [Option.eq_none_iff_forall_ne_some]
  intro a ha
  exact mismatch_ne_ok expected s a (toOption_eq_some.mp ha)

theorem stringOf_of_ne {b : UInt8} (hs : skipBlanks s = b :: r) (hb : b ≠ 0x22)
    (expected : String) : (stringOf expected s).toOption = none := by
  rw [stringOf]
  simp only [hs, hb, ↓reduceIte]
  exact toOption_mismatch expected (b :: r)

/-- A string is read where a value is one. -/
theorem Verbatim.stringOf (h : Verbatim depth s v rest) (expected : String) :
    (Json.stringOf expected s).toOption = v.asString?.map (·, rest) := by
  cases h with
  | null hs hword => exact stringOf_of_ne hs (by decide) expected
  | yes hs hword => exact stringOf_of_ne hs (by decide) expected
  | no hs hword => exact stringOf_of_ne hs (by decide) expected
  | number hs hb hnumber => exact stringOf_of_ne hs (ne_of_number hb).2.2.2.1 expected
  | string hs hstring =>
      rw [Json.stringOf]
      simp only [hs]
      change (Json.string _).toOption = _
      rw [hstring]
      rfl
  | array hs hitems => exact stringOf_of_ne hs (by decide) expected
  | object hs hmembers => exact stringOf_of_ne hs (by decide) expected

/-! ## Settling step by step -/

namespace Value

theorem foldlM_settleItems (xs gathered : List Value) :
    xs.foldlM (fun gathered x => x.settle.map (· :: gathered)) gathered =
      (settleItems xs).map (·.reverse ++ gathered) := by
  induction xs generalizing gathered with
  | nil => rfl
  | cons x xs ih =>
      rw [List.foldlM_cons, settleItems]
      cases x.settle with
      | none => rfl
      | some x =>
          simp only [Option.map_some, Option.bind_eq_bind, Option.bind_some, ih]
          cases settleItems xs with
          | none => rfl
          | some xs => simp

theorem foldlM_settleMembers (ms settled : List (String × Value)) :
    ms.foldlM (fun settled m => m.2.settle.map (setMember settled m.1 ·)) settled =
      settleMembers settled ms := by
  induction ms generalizing settled with
  | nil => rfl
  | cons m ms ih =>
      rw [List.foldlM_cons, settleMembers]
      cases m.2.settle with
      | none => rfl
      | some v => exact ih _

theorem settle_members {name : String} (hname : name ≠ embeddedName)
    (ms : List (String × Value)) :
    (object ((name, v) :: ms)).settle =
      v.settle.bind fun v => (settleMembers [(name, v)] ms).map object := by
  rw [settle.eq_def]
  simp only [hname, ↓reduceIte]
  cases v.settle with
  | none => rfl
  | some v =>
      rw [Option.bind_eq_bind, Option.bind_some, Option.bind_some]
      cases settleMembers [(name, v)] ms with
      | none => rfl
      | some members => rfl

end Value

/-! ## Reading under the usual policy -/

/-- Outside of brackets all policies are the same. -/
theorem value_of_other {policy policy' : ObjectPolicy} {b : UInt8} (hs : skipBlanks s = b :: r)
    (harray : b ≠ 0x5B) (hobject : b ≠ 0x7B) : value policy depth s = value policy' depth s := by
  rw [value.eq_def, value.eq_def policy']
  simp only [hs, harray, hobject, ↓reduceIte]

/-- Items that are found are read under the usual policy as they are settled. -/
theorem foldItems_settled {items : List Value}
    (hvalue : ∀ s v rest, value .verbatim inner s = .ok (v, rest) →
      (value .usual inner s).toOption = v.settle.map (·, rest))
    (h : Items (value .verbatim inner) true r items rest) :
    (foldItems .building
        (fun items s => do
          let (v, rest) ← value .usual inner s
          return (v :: items, rest)) (r.length + 1) true [] r).toOption =
      (Value.settleItems items).map (·.reverse, rest) := by
  rw [h.fold (takes_verbatim inner)
    (fun gathered x => x.settle.map (· :: gathered)) ?_ (Nat.lt_succ_self _),
    Value.foldlM_settleItems, Option.map_map]
  · congr 1
    funext xs
    simp
  · intro gathered mid x left _ hx
    rw [toOption_bind, hvalue mid x left hx]
    cases x.settle with
    | none => rfl
    | some x => rfl

theorem foldMembers_settled {members settled : List (String × Value)} {fuel : Nat}
    (hvalue : ∀ s v rest, value .verbatim inner s = .ok (v, rest) →
      (value .usual inner s).toOption = v.settle.map (·, rest))
    (h : Members (value .verbatim inner) false s members rest) (hfuel : s.length < fuel) :
    (foldMembers .building string
        (fun members name s => do
          let (v, rest) ← value .usual inner (← colon s)
          return (setMember members name v, rest)) fuel false settled s).toOption =
      (Value.settleMembers settled members).map (·, rest) := by
  rw [h.fold takes_string (takes_verbatim inner) id
    (fun settled m => m.2.settle.map (setMember settled m.1 ·)) (fun _ _ _ h => h) ?_ hfuel,
    Value.foldlM_settleMembers]
  intro gathered text named valued v left _ _ hcolon hv
  rw [hcolon]
  change (value .usual inner valued >>= _).toOption = _
  rw [toOption_bind, hvalue valued v left hv]
  cases v.settle with
  | none => rfl
  | some v => rfl

/-- The rest of an object that stands for the value written in its string: it has no other member.
-/
theorem embedded_settled {members : List (String × Value)}
    (hv : Verbatim depth s v r) (hlater : Members (value .verbatim inner) false r members rest) :
    (do
      let (text, rest) ← stringOf "raw value" s
      match Value.parse (Utf8.ofString text) with
      | .error e => .error ⟨e.cause, .known e.line e.column⟩
      | .ok v => return (v, ← closeObject rest) : Except Fault (Value × Bytes)).toOption =
      (Value.object ((embeddedName, v) :: members)).settle.map (·, rest) := by
  rw [toOption_bind, hv.stringOf]
  cases hstring : v.asString? with
  | none =>
      cases v with
      | string text => cases hstring
      | _ => rfl
  | some text =>
      obtain rfl := Value.asString?_eq_some.mp hstring
      rw [Value.settle.eq_def]
      simp only [Option.map_some, Option.bind_some, ↓reduceIte]
      cases hparse : Value.parse (Utf8.ofString text) with
      | error e => cases hlater <;> simp [hparse, Except.toOption]
      | ok v =>
          cases hlater with
          | closed hclosed =>
              rw [toOption_bind, closeObject_eq_ok.mpr hclosed]
              simp [hparse, Except.toOption, pure, Except.pure]
          | more hnext =>
              obtain ⟨_, hcomma, _⟩ := hnext
              have hopen : (closeObject r).toOption = none := by
                rw [Option.eq_none_iff_forall_ne_some]
                intro left hleft
                rw [toOption_eq_some, closeObject_eq_ok, hcomma] at hleft
                cases hleft
              rw [toOption_bind, hopen]
              rfl

/-- The first member of an object says whether it stands for another value. -/
theorem object_settled {members : List (String × Value)}
    (hvalue : ∀ s v rest, value .verbatim inner s = .ok (v, rest) →
      (value .usual inner s).toOption = v.settle.map (·, rest))
    (hs : skipBlanks s = 0x7B :: r) (h : Members (value .verbatim inner) true r members rest) :
    (value .usual (inner + 1) s).toOption = (Value.object members).settle.map (·, rest) := by
  rw [ObjectPolicy.usual, ← value_skipBlanks, hs, value_brace_settled]
  cases h with
  | closed hclosed =>
      rw [nextName_eq_closed.mpr hclosed]
      rfl
  | @more _ _ quoted named valued left _ name v members hnext hname hcolon hv hlater =>
      have hleft : left.length < r.length + 1 := by
        obtain ⟨hnamed, hvalued⟩ :=
          MembersBy.length_lt_of_name takes_string hnext hname hcolon
        have := takes_verbatim inner valued v left hv
        omega
      rw [nextName_eq_more.mpr hnext]
      change (string quoted >>= _).toOption = _
      rw [hname]
      change (if name = embeddedName then _ else _ : Except Fault (Value × Bytes)).toOption = _
      split
      · rename_i heq
        subst heq
        rw [hcolon]
        exact embedded_settled (verbatim_of_value hv) hlater
      · rename_i hne
        rw [hcolon]
        change (value .usual inner valued >>= _).toOption = _
        rw [toOption_bind, hvalue valued v left hv, Value.settle_members hne]
        cases v.settle with
        | none => rfl
        | some v =>
            change (foldMembers .building string _ _ _ _ left >>= _).toOption = _
            rw [toOption_bind]
            change Option.bind (foldMembers .building string
              (fun members name s => do
                let (v, rest) ← value .usual inner (← colon s)
                return (setMember members name v, rest)) _ _ _ left).toOption _ = _
            rw [foldMembers_settled hvalue hlater hleft, Option.bind_some]
            cases Value.settleMembers [(name, v)] members with
            | none => rfl
            | some members => rfl

/-- A value that is read verbatim is read under the usual policy as it is settled. -/
theorem Verbatim.settle (h : Verbatim depth s v rest) :
    (Json.value .usual depth s).toOption = v.settle.map (·, rest) := by
  induction depth using Nat.strong_induction_on generalizing s v rest with
  | h depth ih =>
      cases h with
      | null hs hword =>
          rw [value_of_other hs (by decide) (by decide), value_of_verbatim (.null hs hword)]
          rfl
      | yes hs hword =>
          rw [value_of_other hs (by decide) (by decide), value_of_verbatim (.yes hs hword)]
          rfl
      | no hs hword =>
          rw [value_of_other hs (by decide) (by decide), value_of_verbatim (.no hs hword)]
          rfl
      | number hs hb hnumber =>
          obtain ⟨_, _, _, _, harray, hobject⟩ := ne_of_number hb
          rw [value_of_other hs harray hobject, value_of_verbatim (.number hs hb hnumber)]
          rfl
      | string hs hstring =>
          rw [value_of_other hs (by decide) (by decide), value_of_verbatim (.string hs hstring)]
          rfl
      | @array inner _ r _ items hs hitems =>
          have hinner : ∀ s v rest, value .verbatim inner s = .ok (v, rest) →
              (value .usual inner s).toOption = v.settle.map (·, rest) :=
            fun s v rest hv => ih inner (Nat.lt_succ_self inner) (verbatim_of_value hv)
          rw [← value_skipBlanks, hs, value_bracket, toOption_bind,
            foldItems_settled hinner hitems, Value.settle]
          cases Value.settleItems items with
          | none => rfl
          | some items => simp [pure, Except.pure, Except.toOption]
      | @object inner _ r _ members hs hmembers =>
          exact object_settled
            (fun s v rest hv => ih inner (Nat.lt_succ_self inner) (verbatim_of_value hv)) hs
            hmembers

/-! ## Reading verbatim -/

theorem string_of_stringOf {expected text : String}
    (h : stringOf expected s = .ok (text, rest)) (depth : Nat) :
    value .verbatim depth s = .ok (.string text, rest) := by
  rw [stringOf] at h
  split at h
  · cases h
  · rename_i b r hs
    split at h
    · rename_i hb
      rw [← value_skipBlanks, hs, hb, value_quote, h]
      rfl
    · exact absurd h (mismatch_ne_ok _ _ _)

theorem exists_members_of_object {embedded : Bytes → Except Error Value}
    (hvalue : ∀ s v rest, value (.settled embedded) inner s = .ok (v, rest) →
      ∃ u, value .verbatim inner s = .ok (u, rest))
    (hs : skipBlanks s = 0x7B :: r)
    (h : value (.settled embedded) (inner + 1) s = .ok (v, rest)) :
    ∃ members, Members (value .verbatim inner) true r members rest := by
  rw [← value_skipBlanks, hs, value_brace_settled] at h
  obtain ⟨next, hnext, h⟩ := bind_eq_ok.mp h
  cases next with
  | closed left =>
      cases h
      exact ⟨[], .closed (nextName_eq_closed.mp hnext)⟩
  | more quoted =>
      have hnext := nextName_eq_more.mp hnext
      obtain ⟨⟨name, named⟩, hname, h⟩ := bind_eq_ok.mp h
      simp only at h
      split at h
      · obtain ⟨valued, hcolon, h⟩ := bind_eq_ok.mp h
        obtain ⟨⟨text, left⟩, htext, h⟩ := bind_eq_ok.mp h
        simp only at h
        split at h
        · cases h
        · obtain ⟨last, hclose, h⟩ := bind_eq_ok.mp h
          cases h
          exact ⟨_, .more hnext hname hcolon (string_of_stringOf htext inner)
            (.closed (closeObject_eq_ok.mp hclose))⟩
      · obtain ⟨valued, hcolon, h⟩ := bind_eq_ok.mp h
        obtain ⟨⟨v, left⟩, hv, h⟩ := bind_eq_ok.mp h
        obtain ⟨⟨found, last⟩, hfold, h⟩ := bind_eq_ok.mp h
        cases h
        obtain ⟨members, hmembers⟩ := exists_members_value setMember hfold
        obtain ⟨us, hus⟩ := hmembers.exists_of hvalue
        obtain ⟨u, hu⟩ := hvalue _ _ _ hv
        exact ⟨_, .more hnext hname hcolon hu hus⟩

/-- Wherever a value is read under a policy that settles objects, one is read verbatim. -/
theorem exists_verbatim {embedded : Bytes → Except Error Value}
    (h : value (.settled embedded) depth s = .ok (v, rest)) :
    ∃ u, value .verbatim depth s = .ok (u, rest) := by
  induction depth using Nat.strong_induction_on generalizing s v rest with
  | h depth ih =>
      cases hs : skipBlanks s with
      | nil =>
          rw [value.eq_def] at h
          simp only [hs] at h
          cases h
      | cons b r =>
          by_cases harray : b = 0x5B
          · subst harray
            cases depth with
            | zero =>
                rw [value.eq_def] at h
                simp only [hs] at h
                cases h
            | succ inner =>
                rw [← value_skipBlanks, hs, value_bracket] at h
                obtain ⟨⟨found, left⟩, hfold, h⟩ := bind_eq_ok.mp h
                cases h
                obtain ⟨items, hitems⟩ := exists_items_value hfold
                obtain ⟨us, hus⟩ :=
                  hitems.exists_of fun s v rest hv => ih inner (Nat.lt_succ_self inner) hv
                exact ⟨_, value_of_verbatim (.array hs hus)⟩
          by_cases hobject : b = 0x7B
          · subst hobject
            cases depth with
            | zero =>
                rw [value.eq_def] at h
                simp only [hs] at h
                cases h
            | succ inner =>
                obtain ⟨members, hmembers⟩ := exists_members_of_object
                  (fun s v rest hv => ih inner (Nat.lt_succ_self inner) hv) hs h
                exact ⟨_, value_of_verbatim (.object hs hmembers)⟩
          · exact ⟨v, (value_of_other hs harray hobject).trans h⟩

/-- What the usual policy reads is what is read verbatim, settled. -/
theorem exists_settled {v : Value} (h : value .usual depth s = .ok (v, rest)) :
    ∃ u, value .verbatim depth s = .ok (u, rest) ∧ u.settle = some v := by
  obtain ⟨u, hu⟩ := exists_verbatim h
  have hsettle := (verbatim_of_value hu).settle
  rw [h] at hsettle
  obtain ⟨w, hw, heq⟩ := Option.map_eq_some_iff.mp hsettle.symm
  obtain ⟨rfl, _⟩ := Prod.mk.inj heq
  exact ⟨u, hu, hw⟩

end Json

end TraceArchive
