import TraceArchive.Proofs.Json.Literal
import TraceArchive.Proofs.Json.Passing
/-!
Words, strings and numbers as the grammar has them.  Each is passed over exactly if it stands in
front; what follows a number must not be able to go on with it.
-/

namespace TraceArchive

namespace Json

variable {s r rest ds text : Bytes} {b : UInt8} {atEnd : Cause}

/-! ## Strings -/

namespace StringBody

theorem append (h : StringBody s rest) (later : Bytes) :
    StringBody (s ++ later) (rest ++ later) := by
  induction h with
  | close rest => exact .close (rest ++ later)
  | plain hplain _ ih => exact .plain hplain ih
  | short hunicode hshort _ ih => exact .short hunicode hshort ih
  | unicode hhex _ ih => exact .unicode hhex ih

theorem exists_eq_append (h : StringBody s rest) :
    ∃ body, s = body ++ rest ∧ StringBody body [] := by
  induction h with
  | close rest => exact ⟨[0x22], rfl, .close []⟩
  | plain hplain _ ih =>
      obtain ⟨body, rfl, hbody⟩ := ih
      exact ⟨_ :: body, rfl, .plain hplain hbody⟩
  | short hunicode hshort _ ih =>
      obtain ⟨body, rfl, hbody⟩ := ih
      exact ⟨_ :: _ :: body, rfl, .short hunicode hshort hbody⟩
  | unicode hhex _ ih =>
      obtain ⟨body, rfl, hbody⟩ := ih
      exact ⟨_ :: _ :: _ :: _ :: _ :: _ :: body, rfl, .unicode hhex hbody⟩

end StringBody

theorem stringBody_of_skip (h : skipString s = .ok rest) : StringBody s rest := by
  fun_induction skipString s with
  | case2 r =>
      obtain rfl := Except.ok.inj h
      exact .close r
  | case5 _ _ _ _ _ _ hhex _ ih => exact .unicode (Option.isSome_of_eq_some hhex) (ih h)
  | case7 _ _ hunicode _ hshort _ ih =>
      exact .short hunicode (Option.isSome_of_eq_some hshort) (ih h)
  | case10 b r hquote hslash hcontrol ih => exact .plain ⟨hquote, hslash, hcontrol⟩ (ih h)
  | _ => cases h

theorem skipString_eq_ok : skipString s = .ok rest ↔ StringBody s rest :=
  ⟨stringBody_of_skip, StringBody.skip⟩

/-- A string as it is written, with its quotes. -/
inductive IsString : Bytes → Prop
  | quoted {body : Bytes} (hbody : StringBody body []) : IsString (0x22 :: body)

/-- A string that is written for a text, with its quotes. -/
def Quotes (text : String) (bytes : Bytes) : Prop :=
  ∃ spelling, Spelled text.toList spelling ∧ bytes = 0x22 :: (spelling ++ [0x22])

theorem skipString_eq_ok_iff :
    skipString s = .ok rest ↔ ∃ bytes, IsString bytes ∧ 0x22 :: s = bytes ++ rest := by
  rw [skipString_eq_ok]
  constructor
  · intro h
    obtain ⟨body, rfl, hbody⟩ := h.exists_eq_append
    exact ⟨0x22 :: body, .quoted hbody, rfl⟩
  · rintro ⟨bytes, ⟨hbody⟩, hs⟩
    obtain ⟨_, rfl⟩ := List.cons.inj hs
    simpa using hbody.append rest

theorem string_eq_ok_iff {text : String} :
    string s = .ok (text, rest) ↔ ∃ bytes, Quotes text bytes ∧ 0x22 :: s = bytes ++ rest := by
  rw [string_eq_ok]
  constructor
  · rintro ⟨spelling, rfl, hspelled⟩
    exact ⟨_, ⟨spelling, hspelled, rfl⟩, by simp⟩
  · rintro ⟨_, ⟨spelling, hspelled, rfl⟩, hs⟩
    obtain ⟨_, rfl⟩ := List.cons.inj hs
    exact ⟨spelling, by simp, hspelled⟩

theorem Quotes.isString {text : String} {bytes : Bytes} (h : Quotes text bytes) :
    IsString bytes := by
  obtain ⟨spelling, hspelled, rfl⟩ := h
  exact .quoted (hspelled.stringBody [])

/-- Behind its first quote, a string is read as its text. -/
theorem Quotes.string {text : String} {bytes : Bytes} (h : Quotes text bytes) :
    ∃ body, bytes = 0x22 :: body ∧ ∀ later, Json.string (body ++ later) = .ok (text, later) := by
  obtain ⟨spelling, hspelled, rfl⟩ := h
  refine ⟨spelling ++ [0x22], rfl, fun later => string_eq_ok_iff.mpr ?_⟩
  exact ⟨_, ⟨spelling, hspelled, rfl⟩, rfl⟩

/-- Where one string ends, no other one does. -/
theorem IsString.append_inj {bytes bytes' rest' : Bytes} (h : IsString bytes) (h' : IsString bytes')
    (heq : bytes ++ rest = bytes' ++ rest') : bytes = bytes' ∧ rest = rest' := by
  cases h with
  | @quoted body hbody =>
      cases h' with
      | @quoted body' hbody' =>
          have hbodies : body ++ rest = body' ++ rest' := (List.cons.inj heq).2
          have hskip := (hbody.append rest).skip
          rw [hbodies, (hbody'.append rest').skip] at hskip
          obtain rfl : rest' = rest := Except.ok.inj hskip
          exact ⟨List.append_cancel_right heq, rfl⟩

/-- The text that a string is written for. -/
def textOf? : Bytes → Option String
  | [] => none
  | b :: r =>
    if b = 0x22 then
      match string r with
      | .ok (text, []) => some text
      | _ => none
    else none

theorem textOf?_eq_some {text : String} {bytes : Bytes} :
    textOf? bytes = some text ↔ Quotes text bytes := by
  constructor
  · intro h
    rw [textOf?.eq_def] at h
    split at h
    · cases h
    split at h
    · rename_i hquote
      split at h
      · rename_i hread
        obtain rfl := Option.some.inj h
        obtain ⟨bytes, hbytes, heq⟩ := string_eq_ok_iff.mp hread
        rwa [hquote, heq, List.append_nil]
      · cases h
    · cases h
  · intro h
    obtain ⟨body, rfl, hread⟩ := h.string
    have hend := hread []
    rw [List.append_nil] at hend
    simp [textOf?, hend]

/-! ## Numbers -/

/-- Digits, one at least. -/
def AreDigits (ds : Bytes) : Prop :=
  ds ≠ [] ∧ ∀ b ∈ ds, isDigit b = true

/-- The digits of a number in front of the point: a zero alone, or digits that do not start with
one. -/
def WholeText (ds : Bytes) : Prop :=
  ds = [0x30] ∨ AreDigits ds ∧ ds.head? ≠ some 0x30

/-- Nothing, or a point and digits. -/
inductive FractionText : Bytes → Prop
  | absent : FractionText []
  | present {ds : Bytes} (hdigits : AreDigits ds) : FractionText (0x2E :: ds)

/-- Nothing, or the letter e, a sign if there is one, and digits. -/
inductive ExponentText : Bytes → Prop
  | absent : ExponentText []
  | present {mark : UInt8} {sign ds : Bytes} (hmark : mark = 0x65 ∨ mark = 0x45)
      (hsign : sign ∈ [[], [0x2B], [0x2D]]) (hdigits : AreDigits ds) :
      ExponentText (mark :: (sign ++ ds))

/-- A number without its sign. -/
inductive MagnitudeText : Bytes → Prop
  | parts {whole fraction exponent : Bytes} (hwhole : WholeText whole)
      (hfraction : FractionText fraction) (hexponent : ExponentText exponent) :
      MagnitudeText (whole ++ (fraction ++ exponent))

/-- A number as it is written. -/
inductive IsNumber : Bytes → Prop
  | unsigned {text : Bytes} (h : MagnitudeText text) : IsNumber text
  | negative {text : Bytes} (h : MagnitudeText text) : IsNumber (0x2D :: text)

/-! Digits are taken as long as there are any. -/

theorem digits_append (h : ∀ b ∈ ds, isDigit b = true) (hrest : EndsDigits rest) :
    digits (ds ++ rest) = (ds.map fun b => Char.ofNat b.toNat, rest) := by
  have hstop : rest.takeWhile isDigit = [] ∧ rest.dropWhile isDigit = rest := by
    cases rest with
    | nil => exact ⟨rfl, rfl⟩
    | cons b rest =>
        have hb := hrest b rfl
        simp [hb]
  rw [digits, List.takeWhile_append_of_pos h, List.dropWhile_append_of_pos h, hstop.1, hstop.2,
    List.append_nil]

theorem exists_digits (h : digits s = (ds', rest)) (hsome : ds' ≠ []) :
    ∃ ds, s = ds ++ rest ∧ AreDigits ds := by
  obtain ⟨rfl, rfl⟩ := Prod.mk.inj h
  refine ⟨s.takeWhile isDigit, List.takeWhile_append_dropWhile.symm, ?_, ?_⟩
  · rintro hnil
    exact hsome (by rw [hnil]; rfl)
  · exact fun _ hb => List.mem_takeWhile_imp hb

theorem exists_digits_of_isDigit (hb : isDigit b = true) (r : Bytes) :
    ∃ ds, b :: r = (b :: ds) ++ (digits (b :: r)).2 ∧ AreDigits (b :: ds) := by
  refine ⟨r.takeWhile isDigit, ?_, List.cons_ne_nil _ _, ?_⟩
  · rw [digits, List.dropWhile_cons_of_pos hb, List.cons_append,
      List.takeWhile_append_dropWhile]
  · exact List.forall_mem_cons.mpr ⟨hb, fun _ hc => List.mem_takeWhile_imp hc⟩

/-! The parts of a number that are read are those that are written. -/

theorem WholeText.wholePart (h : WholeText ds) (atEnd : Cause) (hrest : EndsDigits rest) :
    ∃ found, Json.wholePart atEnd (ds ++ rest) = .ok (found, rest) := by
  rcases h with rfl | ⟨⟨hsome, hdigits⟩, hzero⟩
  · cases rest with
    | nil => exact ⟨_, rfl⟩
    | cons b rest =>
        have hb := hrest b rfl
        exact ⟨['0'], by simp [Json.wholePart, hb]⟩
  · cases ds with
    | nil => exact absurd rfl hsome
    | cons b ds =>
        have hb := hdigits b List.mem_cons_self
        have hnonzero : b ≠ 0x30 := fun heq => hzero (congrArg some heq)
        have hread := digits_append hdigits hrest
        rw [List.cons_append] at hread ⊢
        rw [wholePart.eq_def]
        simp only [hnonzero, hb, hread, ↓reduceIte]
        exact ⟨_, rfl⟩

theorem exists_wholeText {found : List Char} (h : wholePart atEnd s = .ok (found, rest)) :
    ∃ ds, s = ds ++ rest ∧ WholeText ds := by
  rw [wholePart.eq_def] at h
  split at h
  · cases h
  rename_i b r
  split at h
  · rename_i hzero
    subst hzero
    split at h
    · split at h
      · cases h
      · obtain ⟨_, rfl⟩ := Prod.mk.inj (Except.ok.inj h)
        exact ⟨[0x30], rfl, .inl rfl⟩
    · obtain ⟨_, rfl⟩ := Prod.mk.inj (Except.ok.inj h)
      exact ⟨[0x30], rfl, .inl rfl⟩
  · rename_i hzero
    split at h
    · rename_i hdigit
      obtain ⟨ds, hr, hds⟩ := exists_digits_of_isDigit hdigit r
      rw [Except.ok.inj h] at hr
      exact ⟨b :: ds, hr, .inr ⟨hds, fun heq => hzero (Option.some.inj heq)⟩⟩
    · cases h

theorem FractionText.fractionPart {fraction : Bytes} (h : FractionText fraction) (atEnd : Cause)
    (hrest : EndsDigits rest) (hpoint : rest.head? ≠ some 0x2E) :
    ∃ found, Json.fractionPart atEnd (fraction ++ rest) = .ok (found, rest) := by
  cases h with
  | absent =>
      cases rest with
      | nil => exact ⟨_, rfl⟩
      | cons b rest =>
          have hb : b ≠ 0x2E := fun heq => hpoint (congrArg some heq)
          exact ⟨none, by simp [Json.fractionPart, hb]⟩
  | @present ds hdigits =>
      obtain ⟨hsome, hdigits⟩ := hdigits
      cases ds with
      | nil => exact absurd rfl hsome
      | cons b ds =>
          rw [List.cons_append, Json.fractionPart, if_neg (by decide),
            digits_append hdigits hrest]
          exact ⟨_, rfl⟩

theorem exists_fractionText {found : Option (List Char)}
    (h : fractionPart atEnd s = .ok (found, rest)) :
    ∃ fraction, s = fraction ++ rest ∧ FractionText fraction := by
  rw [fractionPart.eq_def] at h
  split at h
  · obtain ⟨_, rfl⟩ := Prod.mk.inj (Except.ok.inj h)
    exact ⟨[], rfl, .absent⟩
  rename_i b r
  split at h
  · obtain ⟨_, rfl⟩ := Prod.mk.inj (Except.ok.inj h)
    exact ⟨[], rfl, .absent⟩
  rename_i hpoint
  obtain rfl := not_not.mp hpoint
  split at h
  · cases h
  · cases h
  · rename_i ds' left hsome hread
    obtain ⟨_, rfl⟩ := Prod.mk.inj (Except.ok.inj h)
    obtain ⟨ds, rfl, hds⟩ := exists_digits hread hsome
    exact ⟨0x2E :: ds, rfl, .present hds⟩

theorem ExponentText.exponentPart {exponent : Bytes} (h : ExponentText exponent) (atEnd : Cause)
    (hrest : EndsNumber rest) :
    ∃ found, Json.exponentPart atEnd (exponent ++ rest) = .ok (found, rest) := by
  cases h with
  | absent =>
      cases rest with
      | nil => exact ⟨_, rfl⟩
      | cons b rest =>
          obtain ⟨_, _, hlower, hupper⟩ := hrest b rfl
          exact ⟨none, by simp [Json.exponentPart, hlower, hupper]⟩
  | @present mark sign ds hmark hsign hdigits =>
      obtain ⟨hsome, hdigits⟩ := hdigits
      cases ds with
      | nil => exact absurd rfl hsome
      | cons b ds =>
          have hb := hdigits b List.mem_cons_self
          have hread := digits_append hdigits hrest.endsDigits
          have hunsigned : b ≠ 0x2D ∧ b ≠ 0x2B := by
            constructor
            · rintro rfl
              cases hb
            · rintro rfl
              cases hb
          have hletter : ¬ (¬ mark = 0x65 ∧ ¬ mark = 0x45) := fun h => hmark.elim h.1 h.2
          rw [List.cons_append] at hread
          simp only [List.mem_cons, List.not_mem_nil, or_false] at hsign
          rcases hsign with rfl | rfl | rfl
          · simp [Json.exponentPart, hletter, hb, hread, hunsigned]
          · simp [Json.exponentPart, hletter, hb, hread]
          · simp [Json.exponentPart, hletter, hb, hread]

theorem exists_exponentText {found : Option (Bool × List Char)}
    (h : exponentPart atEnd s = .ok (found, rest)) :
    ∃ exponent, s = exponent ++ rest ∧ ExponentText exponent := by
  rw [exponentPart.eq_def] at h
  split at h
  · obtain ⟨_, rfl⟩ := Prod.mk.inj (Except.ok.inj h)
    exact ⟨[], rfl, .absent⟩
  rename_i mark r
  split at h
  · obtain ⟨_, rfl⟩ := Prod.mk.inj (Except.ok.inj h)
    exact ⟨[], rfl, .absent⟩
  rename_i hletter
  have hmark : mark = 0x65 ∨ mark = 0x45 := by
    by_contra hother
    exact hletter (by simpa using hother)
  split at h
  rename_i negative signed hread
  obtain ⟨sign, hsign, rfl⟩ : ∃ sign ∈ [[], [0x2B], [0x2D]], r = sign ++ signed := by
    cases r with
    | nil =>
        obtain ⟨_, rfl⟩ := Prod.mk.inj hread
        exact ⟨[], by simp, rfl⟩
    | cons c r =>
        simp only at hread
        split at hread
        · rename_i hminus
          obtain ⟨_, rfl⟩ := Prod.mk.inj hread
          exact ⟨[0x2D], by simp, by rw [hminus]; rfl⟩
        · split at hread
          · rename_i hplus
            obtain ⟨_, rfl⟩ := Prod.mk.inj hread
            exact ⟨[0x2B], by simp, by rw [hplus]; rfl⟩
          · obtain ⟨_, rfl⟩ := Prod.mk.inj hread
            exact ⟨[], by simp, rfl⟩
  split at h
  · cases h
  rename_i c r₁
  split at h
  · cases h
  · rename_i hdigit
    obtain ⟨ds, hr, hds⟩ := exists_digits_of_isDigit (by simpa using hdigit) r₁
    obtain ⟨_, rfl⟩ := Prod.mk.inj (Except.ok.inj h)
    refine ⟨mark :: (sign ++ (c :: ds)), ?_, .present hmark hsign hds⟩
    rw [List.cons_append, List.append_assoc]
    exact congrArg (fun later => mark :: (sign ++ later)) hr

/-! ## Literals -/

theorem ExponentText.ends {exponent : Bytes} (h : ExponentText exponent) (hrest : EndsNumber rest) :
    EndsDigits (exponent ++ rest) ∧ (exponent ++ rest).head? ≠ some 0x2E := by
  cases h with
  | absent => exact ⟨hrest.endsDigits, fun hpoint => (hrest _ hpoint).2.1 rfl⟩
  | present hmark =>
      constructor
      · rintro b ⟨⟩
        rcases hmark with rfl | rfl <;> rfl
      · intro hpoint
        obtain rfl := Option.some.inj hpoint
        revert hmark
        decide

theorem FractionText.endsDigits {fraction : Bytes} (h : FractionText fraction)
    (hrest : EndsDigits rest) : EndsDigits (fraction ++ rest) := by
  cases h with
  | absent => exact hrest
  | present =>
      rintro b ⟨⟩
      rfl

theorem MagnitudeText.literal (h : MagnitudeText text) (atEnd : Cause) (negative : Bool)
    (hrest : EndsNumber rest) :
    ∃ l, Json.literal atEnd negative (text ++ rest) = .ok (l, rest) := by
  obtain ⟨hwhole, hfraction, hexponent⟩ := h
  obtain ⟨hdigits, hpoint⟩ := hexponent.ends hrest
  obtain ⟨whole, hreadWhole⟩ := hwhole.wholePart atEnd (hfraction.endsDigits hdigits)
  obtain ⟨fraction, hreadFraction⟩ := hfraction.fractionPart atEnd hdigits hpoint
  obtain ⟨exponent, hreadExponent⟩ := hexponent.exponentPart atEnd hrest
  refine ⟨⟨negative, whole, fraction, exponent⟩, ?_⟩
  rw [List.append_assoc, List.append_assoc]
  exact bind_eq_ok.mpr ⟨_, hreadWhole, bind_eq_ok.mpr ⟨_, hreadFraction,
    bind_eq_ok.mpr ⟨_, hreadExponent, rfl⟩⟩⟩

theorem exists_magnitudeText {negative : Bool} {l : Literal}
    (h : Json.literal atEnd negative s = .ok (l, rest)) :
    ∃ text, s = text ++ rest ∧ MagnitudeText text := by
  obtain ⟨_, hreadWhole, h⟩ := bind_eq_ok.mp h
  obtain ⟨_, hreadFraction, h⟩ := bind_eq_ok.mp h
  obtain ⟨_, hreadExponent, h⟩ := bind_eq_ok.mp h
  obtain ⟨_, rfl⟩ := Prod.mk.inj (Except.ok.inj h)
  obtain ⟨whole, rfl, hwhole⟩ := exists_wholeText hreadWhole
  obtain ⟨fraction, hafterWhole, hfraction⟩ := exists_fractionText hreadFraction
  obtain ⟨exponent, hafterFraction, hexponent⟩ := exists_exponentText hreadExponent
  refine ⟨_, ?_, .parts hwhole hfraction hexponent⟩
  rw [hafterWhole, hafterFraction, List.append_assoc, List.append_assoc]

/-- The first byte of a number is a digit, or the minus sign in front of one. -/
theorem MagnitudeText.head (h : MagnitudeText text) :
    ∃ b r, text = b :: r ∧ isDigit b = true := by
  obtain ⟨hwhole, _, _⟩ := h
  rcases hwhole with rfl | ⟨⟨hsome, hdigits⟩, _⟩
  · exact ⟨0x30, _, rfl, rfl⟩
  · obtain ⟨b, ds, rfl⟩ := List.exists_cons_of_ne_nil hsome
    exact ⟨b, _, rfl, hdigits b List.mem_cons_self⟩

/-- A number is passed over where nothing follows that could go on with it. -/
theorem IsNumber.skip (h : IsNumber text) (hrest : EndsNumber rest) :
    ∃ b r, text ++ rest = b :: r ∧ (b = 0x2D ∨ isDigit b = true) ∧ skipNumber b r = .ok rest := by
  cases h with
  | unsigned h =>
      obtain ⟨l, hl⟩ := h.literal .invalidNumber false hrest
      obtain ⟨b, r, rfl, hb⟩ := h.head
      have hminus : b ≠ 0x2D := by
        rintro rfl
        cases hb
      refine ⟨b, r ++ rest, rfl, .inr hb, ?_⟩
      rw [skipNumber, if_neg hminus]
      exact bind_eq_ok.mpr ⟨_, hl, rfl⟩
  | negative h =>
      obtain ⟨l, hl⟩ := h.literal .invalidNumber true hrest
      refine ⟨0x2D, _, rfl, .inl rfl, ?_⟩
      rw [skipNumber, if_pos rfl]
      exact bind_eq_ok.mpr ⟨_, hl, rfl⟩

theorem exists_isNumber (h : skipNumber b r = .ok rest) :
    ∃ text, b :: r = text ++ rest ∧ IsNumber text := by
  rw [skipNumber] at h
  split at h
  · rename_i hminus
    obtain ⟨⟨l, left⟩, hl, h⟩ := bind_eq_ok.mp h
    obtain rfl := Except.ok.inj h
    obtain ⟨text, rfl, htext⟩ := exists_magnitudeText hl
    exact ⟨0x2D :: text, by rw [hminus]; rfl, .negative htext⟩
  · obtain ⟨⟨l, left⟩, hl, h⟩ := bind_eq_ok.mp h
    obtain rfl := Except.ok.inj h
    obtain ⟨text, hs, htext⟩ := exists_magnitudeText hl
    exact ⟨text, hs, .unsigned htext⟩

end Json

end TraceArchive
