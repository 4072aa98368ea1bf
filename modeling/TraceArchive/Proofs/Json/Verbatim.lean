import TraceArchive.Proofs.Json.Document
import TraceArchive.Proofs.Json.Walks
/-!
Values that are read verbatim.  `Verbatim` lists how they are written, and says of a text that such
a value is read from it; and where one is read, it can be passed over as well.
-/

namespace TraceArchive

namespace Json

variable {depth inner : Nat} {s r rest : Bytes} {v : Value}

/-- How a value that is read verbatim is written, with so many brackets at most. -/
inductive Verbatim : Nat → Bytes → Value → Bytes → Prop
  | null {depth : Nat} {s r rest : Bytes} (hs : skipBlanks s = 0x6E :: r)
      (hword : word nullTail r = .ok rest) : Verbatim depth s .null rest
  | yes {depth : Nat} {s r rest : Bytes} (hs : skipBlanks s = 0x74 :: r)
      (hword : word trueTail r = .ok rest) : Verbatim depth s (.bool true) rest
  | no {depth : Nat} {s r rest : Bytes} (hs : skipBlanks s = 0x66 :: r)
      (hword : word falseTail r = .ok rest) : Verbatim depth s (.bool false) rest
  | number {depth : Nat} {s r rest : Bytes} {b : UInt8} {n : Number} (hs : skipBlanks s = b :: r)
      (hb : b = 0x2D ∨ isDigit b) (hnumber : number b r = .ok (n, rest)) :
      Verbatim depth s (.number n) rest
  | string {depth : Nat} {s r rest : Bytes} {text : String} (hs : skipBlanks s = 0x22 :: r)
      (hstring : string r = .ok (text, rest)) : Verbatim depth s (.string text) rest
  | array {inner : Nat} {s r rest : Bytes} {items : List Value} (hs : skipBlanks s = 0x5B :: r)
      (hitems : Items (value .verbatim inner) true r items rest) :
      Verbatim (inner + 1) s (.array items) rest
  | object {inner : Nat} {s r rest : Bytes} {members : List (String × Value)}
      (hs : skipBlanks s = 0x7B :: r)
      (hmembers : Members (value .verbatim inner) true r members rest) :
      Verbatim (inner + 1) s (.object members) rest

section Folds

variable {items : List Value} {members : List (String × Value)} {fuel : Nat} {first : Bool}
variable {policy : ObjectPolicy} {gathered : List Value}

theorem exists_items_value {found : List Value × Bytes}
    (h : foldItems .building
        (fun items s => do
          let (v, rest) ← value policy inner s
          return (v :: items, rest)) fuel first gathered s = .ok found) :
    ∃ items, Items (value policy inner) first s items found.2 := by
  refine exists_items ?_ h
  intro gathered s found hstep
  obtain ⟨⟨v, left⟩, hv, hstep⟩ := bind_eq_ok.mp hstep
  cases hstep
  exact ⟨v, hv⟩

/-- Members are found however they are put together. -/
theorem exists_members_value
    (put : List (String × Value) → String → Value → List (String × Value))
    {gathered : List (String × Value)} {found : List (String × Value) × Bytes}
    (h : foldMembers .building string
        (fun members name s => do
          let (v, rest) ← value policy inner (← colon s)
          return (put members name v, rest)) fuel first gathered s = .ok found) :
    ∃ members, Members (value policy inner) first s members found.2 := by
  refine exists_members ?_ h
  intro gathered name s found hstep
  obtain ⟨valued, hcolon, hstep⟩ := bind_eq_ok.mp hstep
  obtain ⟨⟨v, left⟩, hv, hstep⟩ := bind_eq_ok.mp hstep
  cases hstep
  exact ⟨valued, v, hcolon, hv⟩

/-- The items that are found are those that are gathered. -/
theorem foldItems_verbatim
    (hlength : Takes (Gives (value .verbatim inner)))
    (h : Items (value .verbatim inner) first s items rest) (hfuel : s.length < fuel)
    (gathered : List Value) :
    foldItems .building
        (fun items s => do
          let (v, rest) ← value .verbatim inner s
          return (v :: items, rest)) fuel first gathered s =
      .ok (items.reverse ++ gathered, rest) := by
  rw [← toOption_eq_some, h.fold hlength (fun gathered x => some (x :: gathered)) ?_ hfuel,
    foldlM_cons_eq]
  · rfl
  · intro gathered mid x left _ hx
    rw [hx]
    rfl

theorem foldMembers_verbatim
    (hlength : Takes (Gives (value .verbatim inner)))
    (h : Members (value .verbatim inner) first s members rest) (hfuel : s.length < fuel)
    (gathered : List (String × Value)) :
    foldMembers .building string
        (fun members name s => do
          let (v, rest) ← value .verbatim inner (← colon s)
          return ((name, v) :: members, rest)) fuel first gathered s =
      .ok (members.reverse ++ gathered, rest) := by
  rw [← toOption_eq_some, h.fold takes_string hlength id (fun gathered m => some (m :: gathered))
    (fun _ _ _ h => h) ?_ hfuel, foldlM_cons_eq]
  · rfl
  · intro gathered text named valued v left _ _ hcolon hv
    rw [hcolon]
    change (value .verbatim inner valued >>= _).toOption = _
    rw [hv]
    rfl

/-- What is gathered, from the last on, are items that are found. -/
theorem items_of_foldItems
    (hlength : Takes (Gives (value .verbatim inner))) {found : List Value}
    (h : foldItems .building
        (fun items s => do
          let (v, rest) ← value .verbatim inner s
          return (v :: items, rest)) (s.length + 1) true [] s = .ok (found, rest)) :
    Items (value .verbatim inner) true s found.reverse rest := by
  obtain ⟨items, hitems⟩ := exists_items_value h
  have hgathered := foldItems_verbatim hlength hitems (Nat.lt_succ_self _) []
  rw [h] at hgathered
  obtain rfl : found = items.reverse := by simpa using hgathered
  rwa [List.reverse_reverse]

theorem members_of_foldMembers
    (hlength : Takes (Gives (value .verbatim inner)))
    {found : List (String × Value)}
    (h : foldMembers .building string
        (fun members name s => do
          let (v, rest) ← value .verbatim inner (← colon s)
          return ((name, v) :: members, rest)) (s.length + 1) true [] s = .ok (found, rest)) :
    Members (value .verbatim inner) true s found.reverse rest := by
  obtain ⟨members, hmembers⟩ :=
    exists_members_value (fun members name v => (name, v) :: members) h
  have hgathered := foldMembers_verbatim hlength hmembers (Nat.lt_succ_self _) []
  rw [h] at hgathered
  obtain rfl : found = members.reverse := by simpa using hgathered
  rwa [List.reverse_reverse]

end Folds

/-- The first byte decides what is read. -/
theorem verbatim_step (hlength : ∀ inner, depth = inner + 1 → Takes (Gives (value .verbatim inner)))
    (h : value .verbatim depth s = .ok (v, rest)) : Verbatim depth s v rest := by
  rw [value.eq_def] at h
  simp only at h
  split at h
  · cases h
  rename_i b r hs
  split at h
  · rename_i hb
    obtain ⟨left, hword, h⟩ := bind_eq_ok.mp h
    cases h
    exact .null (hb ▸ hs) hword
  split at h
  · rename_i hb
    obtain ⟨left, hword, h⟩ := bind_eq_ok.mp h
    cases h
    exact .yes (hb ▸ hs) hword
  split at h
  · rename_i hb
    obtain ⟨left, hword, h⟩ := bind_eq_ok.mp h
    cases h
    exact .no (hb ▸ hs) hword
  split at h
  · rename_i hb
    obtain ⟨⟨n, left⟩, hnumber, h⟩ := bind_eq_ok.mp h
    cases h
    exact .number hs (by simpa using hb) hnumber
  split at h
  · rename_i hb
    obtain ⟨⟨text, left⟩, hstring, h⟩ := bind_eq_ok.mp h
    cases h
    exact .string (hb ▸ hs) hstring
  split at h
  · rename_i hb
    cases depth with
    | zero => cases h
    | succ inner =>
        obtain ⟨⟨found, left⟩, hfold, h⟩ := bind_eq_ok.mp h
        cases h
        exact .array (hb ▸ hs) (items_of_foldItems (hlength inner rfl) hfold)
  split at h
  · rename_i hb
    cases depth with
    | zero => cases h
    | succ inner =>
        obtain ⟨⟨found, left⟩, hfold, h⟩ := bind_eq_ok.mp h
        cases h
        exact .object (hb ▸ hs) (members_of_foldMembers (hlength inner rfl) hfold)
  · cases h

theorem Verbatim.length_lt (h : Verbatim depth s v rest)
    (hlength : ∀ inner, depth = inner + 1 → Takes (Gives (value .verbatim inner))) :
    rest.length < s.length := by
  cases h with
  | null hs hword => exact Nat.lt_of_le_of_lt (length_word_le hword) (length_lt_of_skipBlanks hs)
  | yes hs hword => exact Nat.lt_of_le_of_lt (length_word_le hword) (length_lt_of_skipBlanks hs)
  | no hs hword => exact Nat.lt_of_le_of_lt (length_word_le hword) (length_lt_of_skipBlanks hs)
  | number hs hb hnumber =>
      refine Nat.lt_of_lt_of_le (number_of_ok hnumber).2 ?_
      rw [← hs]
      exact length_skipBlanks_le s
  | string hs hstring =>
      exact (stringBody_of_string hstring).length_lt.trans (length_lt_of_skipBlanks hs)
  | array hs hitems => exact (hitems.length_lt (hlength _ rfl)).trans (length_lt_of_skipBlanks hs)
  | object hs hmembers =>
      exact (hmembers.length_lt takes_string (hlength _ rfl)).trans (length_lt_of_skipBlanks hs)

/-- A value takes a byte at least. -/
theorem takes_verbatim (depth : Nat) : Takes (Gives (value .verbatim depth)) := by
  induction depth using Nat.strong_induction_on with
  | h depth ih =>
      intro s v rest h
      have hlength : ∀ inner, depth = inner + 1 → Takes (Gives (value .verbatim inner)) :=
        fun inner heq => ih inner (heq ▸ Nat.lt_succ_self inner)
      exact (verbatim_step hlength h).length_lt hlength

theorem verbatim_of_value (h : value .verbatim depth s = .ok (v, rest)) :
    Verbatim depth s v rest :=
  verbatim_step (fun inner _ => takes_verbatim inner) h

theorem value_of_verbatim (h : Verbatim depth s v rest) :
    value .verbatim depth s = .ok (v, rest) := by
  rw [← value_skipBlanks]
  cases h with
  | null hs hword =>
      rw [hs, value.eq_def]
      change (word nullTail _ >>= _) = _
      rw [hword]
      rfl
  | yes hs hword =>
      rw [hs, value.eq_def]
      change (word trueTail _ >>= _) = _
      rw [hword]
      rfl
  | no hs hword =>
      rw [hs, value.eq_def]
      change (word falseTail _ >>= _) = _
      rw [hword]
      rfl
  | number hs hb hnumber =>
      rw [hs, value_number hb, hnumber]
      rfl
  | string hs hstring =>
      rw [hs, value_quote, hstring]
      rfl
  | array hs hitems =>
      rw [hs, value_bracket,
        foldItems_verbatim (takes_verbatim _) hitems (Nat.lt_succ_self _) []]
      simp [bind, Except.bind, pure, Except.pure]
  | object hs hmembers =>
      rw [hs, value_brace_verbatim,
        foldMembers_verbatim (takes_verbatim _) hmembers (Nat.lt_succ_self _) []]
      simp [bind, Except.bind, pure, Except.pure]

/-! ## What a value is by its first byte -/

theorem Verbatim.items (h : Verbatim depth s v rest) (hs : skipBlanks s = 0x5B :: r) :
    ∃ inner items, v = .array items ∧ Items (value .verbatim inner) true r items rest := by
  cases h with
  | array hs' hitems =>
      rw [hs'] at hs
      obtain ⟨_, rfl⟩ := List.cons.inj hs
      exact ⟨_, _, rfl, hitems⟩
  | number hs' hb _ =>
      exact absurd (List.head_eq_of_cons_eq (hs'.symm.trans hs)) (ne_of_number hb).2.2.2.2.1
  | null hs' _ | yes hs' _ | no hs' _ | string hs' _ | object hs' _ => cases hs'.symm.trans hs

theorem Verbatim.members (h : Verbatim depth s v rest) (hs : skipBlanks s = 0x7B :: r) :
    ∃ inner members, v = .object members ∧
      Members (value .verbatim inner) true r members rest := by
  cases h with
  | object hs' hmembers =>
      rw [hs'] at hs
      obtain ⟨_, rfl⟩ := List.cons.inj hs
      exact ⟨_, _, rfl, hmembers⟩
  | number hs' hb _ =>
      exact absurd (List.head_eq_of_cons_eq (hs'.symm.trans hs)) (ne_of_number hb).2.2.2.2.2
  | null hs' _ | yes hs' _ | no hs' _ | string hs' _ | array hs' _ => cases hs'.symm.trans hs

theorem Verbatim.number_of_head {b : UInt8} (h : Verbatim depth s v rest)
    (hs : skipBlanks s = b :: r) (hb : b = 0x2D ∨ isDigit b) :
    ∃ n, v = .number n ∧ Json.number b r = .ok (n, rest) := by
  obtain ⟨hnull, hyes, hno, hquote, hbracket, hbrace⟩ := ne_of_number hb
  cases h with
  | number hs' hb hnumber =>
      obtain ⟨rfl, rfl⟩ := List.cons.inj (hs.symm.trans hs')
      exact ⟨_, rfl, hnumber⟩
  | null hs' _ => exact absurd (List.head_eq_of_cons_eq (hs.symm.trans hs')) hnull
  | yes hs' _ => exact absurd (List.head_eq_of_cons_eq (hs.symm.trans hs')) hyes
  | no hs' _ => exact absurd (List.head_eq_of_cons_eq (hs.symm.trans hs')) hno
  | string hs' _ => exact absurd (List.head_eq_of_cons_eq (hs.symm.trans hs')) hquote
  | array hs' _ => exact absurd (List.head_eq_of_cons_eq (hs.symm.trans hs')) hbracket
  | object hs' _ => exact absurd (List.head_eq_of_cons_eq (hs.symm.trans hs')) hbrace

/-! ## Passing over a value -/

theorem foldItems_skipped {bound : Nat} {items : List Value}
    (hskip : ∀ mid x left, mid.length ≤ r.length → value .verbatim inner mid = .ok (x, left) →
      skipNested bound mid = .ok left)
    (h : Items (value .verbatim inner) true r items rest) :
    foldItems .skipping (fun _ s => do return ((), ← skipNested bound s))
      (r.length + 1) true () r = .ok ((), rest) := by
  rw [← toOption_eq_some, h.fold (takes_verbatim inner) (fun _ _ => some ()) ?_
    (Nat.lt_succ_self _), foldlM_unit]
  · rfl
  · intro _ mid x left hle hx
    rw [hskip mid x left hle hx]
    rfl

theorem foldMembers_skipped {bound : Nat} {members : List (String × Value)}
    (hskip : ∀ mid x left, mid.length ≤ r.length → value .verbatim inner mid = .ok (x, left) →
      skipNested bound mid = .ok left)
    (h : Members (value .verbatim inner) true r members rest) :
    foldMembers .skipping (fun s => do return ((), ← skipString s))
      (fun _ _ s => do return ((), ← skipNested bound (← colon s)))
      (r.length + 1) true () r = .ok ((), rest) := by
  rw [← toOption_eq_some, h.fold takes_string (takes_verbatim inner) (fun _ => ())
    (fun _ _ => some ()) ?_ ?_ (Nat.lt_succ_self _), foldlM_unit]
  · rfl
  · intro s text left hname
    rw [(stringBody_of_string hname).skip]
    rfl
  · intro _ text named valued v left _ hle hcolon hv
    have hvalued := length_lt_of_skipBlanks (colon_eq_ok.mp hcolon)
    rw [hcolon]
    change (skipNested bound valued >>= _).toOption = _
    rw [hskip valued v left ((Nat.le_of_lt hvalued).trans hle) hv]
    rfl

/-- What is read can be passed over, with a bound of the number of bytes. -/
theorem Verbatim.skip (h : Verbatim depth s v rest) {bound : Nat} (hbound : s.length ≤ bound) :
    skipNested bound s = .ok rest := by
  induction depth using Nat.strong_induction_on generalizing s v rest bound with
  | h depth ih =>
      rw [skipNested.eq_def]
      cases h with
      | null hs hword =>
          simp only [hs]
          exact hword
      | yes hs hword =>
          simp only [hs]
          exact hword
      | no hs hword =>
          simp only [hs]
          exact hword
      | number hs hb hnumber =>
          obtain ⟨hnull, htrue, hfalse, _⟩ := ne_of_number hb
          simp only [hs, hnull, htrue, hfalse, Bool.or_eq_true, decide_eq_true_eq, hb, ↓reduceIte]
          exact (number_of_ok hnumber).1
      | string hs hstring =>
          simp only [hs]
          exact (stringBody_of_string hstring).skip
      | @array inner _ r _ items hs hitems =>
          have hlt := Nat.lt_of_lt_of_le (length_lt_of_skipBlanks hs) hbound
          obtain ⟨bound, rfl⟩ := Nat.exists_eq_succ_of_ne_zero (Nat.ne_zero_of_lt hlt)
          simp only [hs]
          change (foldItems .skipping _ _ _ _ r >>= _) = _
          rw [foldItems_skipped (fun mid x left hle hx => ih inner (Nat.lt_succ_self _)
            (verbatim_of_value hx) (hle.trans (Nat.le_of_lt_succ hlt))) hitems]
          rfl
      | @object inner _ r _ members hs hmembers =>
          have hlt := Nat.lt_of_lt_of_le (length_lt_of_skipBlanks hs) hbound
          obtain ⟨bound, rfl⟩ := Nat.exists_eq_succ_of_ne_zero (Nat.ne_zero_of_lt hlt)
          simp only [hs]
          change (foldMembers .skipping _ _ _ _ _ r >>= _) = _
          rw [foldMembers_skipped (fun mid x left hle hx => ih inner (Nat.lt_succ_self _)
            (verbatim_of_value hx) (hle.trans (Nat.le_of_lt_succ hlt))) hmembers]
          rfl

theorem Verbatim.skipValue (h : Verbatim depth s v rest) : Json.skipValue s = .ok rest :=
  h.skip (Nat.le_refl _)

end Json

end TraceArchive
