import TraceArchive.Proofs.Json.Spelling
/-!
Lexemes that are read can be passed over.  A string or a number that is read ends where it ends for
one that only passes over it, and every lexeme takes a byte at least.
-/

namespace TraceArchive

namespace Json

variable {s r rest : Bytes} {b : UInt8}

theorem length_skipBlanks_le (s : Bytes) : (skipBlanks s).length ≤ s.length :=
  (List.dropWhile_sublist isBlank).length_le

/-- What stands behind the blanks and the first byte is shorter than all that was there. -/
theorem length_lt_of_skipBlanks (h : skipBlanks s = b :: r) : r.length < s.length := by
  have hle := length_skipBlanks_le s
  rw [h, List.length_cons] at hle
  exact hle

theorem word_eq_ok {letters : Bytes} : word letters s = .ok rest ↔ s = letters ++ rest := by
  induction letters generalizing s with
  | nil => simp [word]
  | cons w letters ih =>
      cases s with
      | nil => simp [word, faultAt]
      | cons b s => by_cases hb : b = w <;> simp [word, hb, ih, faultAt]

theorem length_word_le {letters : Bytes} (h : word letters s = .ok rest) :
    rest.length ≤ s.length := by
  rw [word_eq_ok.mp h, List.length_append]
  exact Nat.le_add_left rest.length letters.length

/-! ## Strings -/

/-- What follows an opening quote, up to the closing one: plain bytes and escapes of the right form.
-/
inductive StringBody : Bytes → Bytes → Prop
  | close (rest : Bytes) : StringBody (0x22 :: rest) rest
  | plain {b : UInt8} {r rest : Bytes} (hplain : IsPlain b) (hlater : StringBody r rest) :
      StringBody (b :: r) rest
  | short {e : UInt8} {r rest : Bytes} (hunicode : e ≠ 0x75) (hshort : (shortEscape? e).isSome)
      (hlater : StringBody r rest) : StringBody (0x5C :: e :: r) rest
  | unicode {h₁ h₂ h₃ h₄ : UInt8} {r rest : Bytes} (hhex : (hexFour? h₁ h₂ h₃ h₄).isSome)
      (hlater : StringBody r rest) :
      StringBody (0x5C :: 0x75 :: h₁ :: h₂ :: h₃ :: h₄ :: r) rest

namespace StringBody

theorem length_lt (h : StringBody s rest) : rest.length < s.length := by
  induction h with
  | close rest => exact Nat.lt_succ_self _
  | plain _ _ ih => exact Nat.lt_succ_of_lt ih
  | short _ _ _ ih =>
      simp only [List.length_cons]
      omega
  | unicode _ _ ih =>
      simp only [List.length_cons]
      omega

theorem skip (h : StringBody s rest) : skipString s = .ok rest := by
  induction h with
  | close rest =>
      rw [skipString.eq_def]
      rfl
  | plain hplain _ ih =>
      obtain ⟨hquote, hescape, hcontrol⟩ := hplain
      rw [skipString.eq_def]
      simp only [hquote, hescape, hcontrol, ↓reduceIte, ih]
  | short hunicode hshort _ ih =>
      obtain ⟨c, hc⟩ := Option.isSome_iff_exists.mp hshort
      rw [skipString.eq_def]
      simp [hunicode, hc, ih]
  | unicode hhex _ ih =>
      obtain ⟨n, hn⟩ := Option.isSome_iff_exists.mp hhex
      rw [skipString.eq_def]
      simp [hn, ih]

end StringBody

/-- Plain bytes in front of what a string goes on with. -/
theorem StringBody.plains {run : Bytes} (hrun : ∀ b ∈ run, IsPlain b) (h : StringBody s rest) :
    StringBody (run ++ s) rest := by
  induction run with
  | nil => exact h
  | cons b run ih =>
      obtain ⟨hb, hrun⟩ := List.forall_mem_cons.mp hrun
      exact .plain hb (ih hrun)

theorem Escaped.stringBody {c : Char} {bytes : Bytes} (hc : Escaped c bytes)
    (h : StringBody s rest) : StringBody (bytes ++ s) rest := by
  cases hc with
  | letter he =>
      obtain ⟨b, hb, hunicode, _⟩ := exists_shortEscape he
      exact .short hunicode (Option.isSome_of_eq_some hb) h
  | unit hunit => exact .unicode (Option.isSome_of_eq_some hunit) h
  | pair _ hhigh hlow =>
      exact .unicode (Option.isSome_of_eq_some hhigh) (.unicode (Option.isSome_of_eq_some hlow) h)

/-- A text in any spelling, up to the quote behind it. -/
theorem Spelled.stringBody {cs : List Char} {bytes : Bytes} (h : Spelled cs bytes) (rest : Bytes) :
    StringBody (bytes ++ 0x22 :: rest) rest := by
  induction h with
  | nil => exact .close rest
  | cons hc _ ih =>
      rw [List.append_assoc]
      cases hc with
      | plain hquote hslash hcontrol =>
          exact ih.plains fun b => isPlain_of_mem_encodeChar hquote hslash hcontrol
      | escaped hescaped => exact hescaped.stringBody ih

theorem stringBody_of_string {text : String} (h : string s = .ok (text, rest)) :
    StringBody s rest := by
  obtain ⟨bytes, rfl, hspelled⟩ := string_eq_ok.mp h
  exact hspelled.stringBody rest

/-! ## Numbers -/

variable {atEnd : Cause}

theorem length_digits_le (s : Bytes) : (digits s).2.length ≤ s.length :=
  (List.dropWhile_sublist isDigit).length_le

theorem length_digits_lt (hb : isDigit b = true) (r : Bytes) :
    (digits (b :: r)).2.length < (b :: r).length := by
  rw [digits, List.dropWhile_cons_of_pos hb]
  exact Nat.lt_succ_of_le (List.dropWhile_sublist isDigit).length_le

theorem yields_wholePart (atEnd : Cause) (s : Bytes) :
    Yields (wholePart atEnd s) (·.2.length < s.length) := by
  rw [wholePart.eq_def]
  split
  · exact .error _
  · rename_i b r
    refine .ite (fun _ => ?_) fun _ =>
      .ite (fun hb => .ok (length_digits_lt hb r)) fun _ => .error _
    split
    · exact .ite (fun _ => .error _) fun _ => .ok (Nat.lt_succ_self _)
    · exact .ok (Nat.lt_succ_self _)

theorem yields_fractionPart (atEnd : Cause) (s : Bytes) :
    Yields (fractionPart atEnd s) (·.2.length ≤ s.length) := by
  rw [fractionPart.eq_def]
  split
  · exact .ok (Nat.le_refl _)
  · rename_i b r
    refine .ite (fun _ => .ok (Nat.le_refl _)) fun _ => ?_
    have hle := length_digits_le r
    split
    · exact .error _
    · exact .error _
    · rename_i hdigits
      rw [hdigits] at hle
      exact .ok (Nat.le_succ_of_le hle)

theorem yields_exponentPart (atEnd : Cause) (s : Bytes) :
    Yields (exponentPart atEnd s) (·.2.length ≤ s.length) := by
  rw [exponentPart.eq_def]
  split
  · exact .ok (Nat.le_refl _)
  · rename_i b r
    refine .ite (fun _ => .ok (Nat.le_refl _)) fun _ => ?_
    split
    rename_i negative signed hsigned
    have hle : signed.length ≤ r.length := by
      cases r with
      | nil =>
          cases hsigned
          exact Nat.le_refl _
      | cons c r =>
          simp only at hsigned
          split at hsigned
          · cases hsigned
            exact Nat.le_succ _
          · split at hsigned
            · cases hsigned
              exact Nat.le_succ _
            · cases hsigned
              exact Nat.le_refl _
    split
    · exact .error _
    · rename_i c r₁
      refine .ite (fun _ => .error _) fun hdigit => .ok ?_
      have hlt := length_digits_lt (by simpa using hdigit) r₁
      exact (Nat.le_of_lt hlt).trans (hle.trans (Nat.le_succ _))

theorem yields_literal (atEnd : Cause) (negative : Bool) (s : Bytes) :
    Yields (literal atEnd negative s) (·.2.length < s.length) := by
  refine (yields_wholePart atEnd s).bind fun whole hwhole => ?_
  refine (yields_fractionPart atEnd whole.2).bind fun fraction hfraction => ?_
  refine (yields_exponentPart atEnd fraction.2).bind fun exponent hexponent => .ok ?_
  exact Nat.lt_of_le_of_lt (hexponent.trans hfraction) hwhole

/-! How a literal that is broken off is refused does not matter to one that is not. -/

theorem wholePart_of_ok {found : List Char × Bytes} (h : wholePart atEnd s = .ok found)
    (atEnd' : Cause) : wholePart atEnd' s = .ok found := by
  cases s with
  | nil => cases h
  | cons b r => exact h

theorem fractionPart_of_ok {found : Option (List Char) × Bytes}
    (h : fractionPart atEnd s = .ok found) (atEnd' : Cause) :
    fractionPart atEnd' s = .ok found := by
  rw [fractionPart.eq_def] at h ⊢
  cases s with
  | nil => exact h
  | cons b r =>
      simp only at h ⊢
      split
      · rename_i hpoint
        rwa [if_pos hpoint] at h
      · rename_i hpoint
        rw [if_neg hpoint] at h
        split at h
        · cases h
        · cases h
        · exact h

theorem exponentPart_of_ok {found : Option (Bool × List Char) × Bytes}
    (h : exponentPart atEnd s = .ok found) (atEnd' : Cause) :
    exponentPart atEnd' s = .ok found := by
  rw [exponentPart.eq_def] at h ⊢
  cases s with
  | nil => exact h
  | cons b r =>
      simp only at h ⊢
      split
      · rename_i hletter
        rwa [if_pos hletter] at h
      · rename_i hletter
        rw [if_neg hletter] at h
        split at h
        · cases h
        · exact h

theorem literal_of_ok {negative : Bool} {found : Literal × Bytes}
    (h : literal atEnd negative s = .ok found) (atEnd' : Cause) :
    literal atEnd' negative s = .ok found := by
  obtain ⟨whole, hwhole, h⟩ := bind_eq_ok.mp h
  obtain ⟨fraction, hfraction, h⟩ := bind_eq_ok.mp h
  obtain ⟨exponent, hexponent, h⟩ := bind_eq_ok.mp h
  exact bind_eq_ok.mpr ⟨whole, wholePart_of_ok hwhole atEnd',
    bind_eq_ok.mpr ⟨fraction, fractionPart_of_ok hfraction atEnd',
      bind_eq_ok.mpr ⟨exponent, exponentPart_of_ok hexponent atEnd', h⟩⟩⟩

/-- A literal that is read can be passed over, and takes a byte at least. -/
theorem skipNumber_of_literalFrom {l : Literal} (h : literalFrom b r = .ok (l, rest)) :
    skipNumber b r = .ok rest ∧ rest.length < (b :: r).length := by
  rw [literalFrom] at h
  rw [skipNumber]
  split at h
  · rename_i hsign
    rw [if_pos hsign, literal_of_ok h .invalidNumber]
    exact ⟨rfl, Nat.lt_succ_of_lt (yields_literal _ _ _ _ h)⟩
  · rename_i hsign
    rw [if_neg hsign, literal_of_ok h .invalidNumber]
    exact ⟨rfl, yields_literal _ _ _ _ h⟩

/-- So can a number. -/
theorem number_of_ok {n : Number} (h : number b r = .ok (n, rest)) :
    skipNumber b r = .ok rest ∧ rest.length < (b :: r).length := by
  rw [number_eq] at h
  obtain ⟨⟨l, left⟩, hliteral, h⟩ := bind_eq_ok.mp h
  obtain ⟨_, _, hend⟩ := bind_eq_ok.mp h
  obtain ⟨_, rfl⟩ := Prod.mk.inj (Except.ok.inj hend)
  exact skipNumber_of_literalFrom hliteral

end Json

end TraceArchive
