import TraceArchive.Proofs.Text.Utf8
/-!
Bytes as a text and back.  A byte string is scanned as characters only where it has the bytes of
each, so encoding undoes decoding.
-/

namespace TraceArchive

namespace Utf8

variable {c : Char} {a b d e : UInt8} {s bytes : Bytes} {text : List Char}

theorem toUInt8_toNat (b : UInt8) : b.toNat.toUInt8 = b :=
  UInt8.ofNat_toNat

theorem toNat_ofNat {n : Nat} (h : n < 0xD800 ∨ 0xDFFF < n ∧ n < 0x110000) :
    (Char.ofNat n).toNat = n := by
  have hvalid : n.isValidChar := h
  rw [Char.ofNat, dif_pos hvalid]
  rfl

/-- A tail byte carries its six bits above `0x80`. -/
theorem tailBits_range (h : isTail b = true) :
    b.toNat = 0x80 + tailBits b ∧ tailBits b < 0x40 := by
  simp only [isTail, UInt8.le_iff_toNat_le, UInt8.lt_iff_toNat_lt, Bool.and_eq_true,
    decide_eq_true_eq, UInt8.reduceToNat] at h
  unfold tailBits
  omega

/-- What a lead byte allows behind it is a tail, and for the four special ones only some. -/
theorem follows_range {lead b : UInt8} (h : follows lead b = true) :
    isTail b = true ∧ (lead = 0xE0 → 0x20 ≤ tailBits b) ∧ (lead = 0xED → tailBits b < 0x20) ∧
      (lead = 0xF0 → 0x10 ≤ tailBits b) ∧ (lead = 0xF4 → tailBits b < 0x10) := by
  have htail : isTail b = true := by
    unfold follows isTail at *
    grind
  refine ⟨htail, ?_, ?_, ?_, ?_⟩
  all_goals
    rintro rfl
    unfold tailBits
    simp [follows, UInt8.le_iff_toNat_le, UInt8.lt_iff_toNat_lt] at h
    omega

/-! ## Encoding what the bits say -/

theorem encodeChar_one {p : Nat} (hp : p < 0x80) : encodeChar (Char.ofNat p) = [p.toUInt8] := by
  have hn : (Char.ofNat p).toNat = p := toNat_ofNat (Or.inl (by omega))
  rw [encodeChar_of_ascii (hn.symm ▸ hp), hn]

theorem encodeChar_two {p x : Nat} (hlow : 2 ≤ p) (hp : p < 0x20) (hx : x < 0x40) :
    encodeChar (Char.ofNat (p * 0x40 + x)) = [(0xC0 + p).toUInt8, (0x80 + x).toUInt8] := by
  have hn : (Char.ofNat (p * 0x40 + x)).toNat = p * 0x40 + x := toNat_ofNat (by omega)
  have hone : ¬ p * 0x40 + x < 0x80 := by omega
  have htwo : p * 0x40 + x < 0x800 := by omega
  have hlead : (p * 0x40 + x) / 0x40 = p := by omega
  have htail : (p * 0x40 + x) % 0x40 = x := by omega
  simp only [encodeChar, hn, hone, htwo, hlead, htail, ↓reduceIte]

theorem encodeChar_three {p x y : Nat} (hp : p < 0x10) (hx : x < 0x40) (hy : y < 0x40)
    (hlow : p = 0 → 0x20 ≤ x) (hsurrogate : p = 0xD → x < 0x20) :
    encodeChar (Char.ofNat ((p * 0x40 + x) * 0x40 + y)) =
      [(0xE0 + p).toUInt8, (0x80 + x).toUInt8, (0x80 + y).toUInt8] := by
  generalize hn' : (p * 0x40 + x) * 0x40 + y = n
  have hn : (Char.ofNat n).toNat = n := toNat_ofNat (by omega)
  have hone : ¬ n < 0x80 := by omega
  have htwo : ¬ n < 0x800 := by omega
  have hthree : n < 0x10000 := by omega
  have hlead : n / 0x1000 = p := by omega
  have hmiddle : n / 0x40 % 0x40 = x := by omega
  have htail : n % 0x40 = y := by omega
  simp only [encodeChar, hn, hone, htwo, hthree, hlead, hmiddle, htail, ↓reduceIte]

theorem encodeChar_four {p x y z : Nat} (hp : p ≤ 4) (hx : x < 0x40) (hy : y < 0x40)
    (hz : z < 0x40) (hlow : p = 0 → 0x10 ≤ x) (hhigh : p = 4 → x < 0x10) :
    encodeChar (Char.ofNat (((p * 0x40 + x) * 0x40 + y) * 0x40 + z)) =
      [(0xF0 + p).toUInt8, (0x80 + x).toUInt8, (0x80 + y).toUInt8, (0x80 + z).toUInt8] := by
  generalize hn' : ((p * 0x40 + x) * 0x40 + y) * 0x40 + z = n
  have hn : (Char.ofNat n).toNat = n := toNat_ofNat (by omega)
  have hone : ¬ n < 0x80 := by omega
  have htwo : ¬ n < 0x800 := by omega
  have hthree : ¬ n < 0x10000 := by omega
  have hlead : n / 0x40000 = p := by omega
  have hsecond : n / 0x1000 % 0x40 = x := by omega
  have hthird : n / 0x40 % 0x40 = y := by omega
  have htail : n % 0x40 = z := by omega
  simp only [encodeChar, hn, hone, htwo, hthree, hlead, hsecond, hthird, htail, ↓reduceIte]

/-! ## Scanning what was encoded -/

theorem tail_toUInt8 (h : isTail b = true) : (0x80 + tailBits b).toUInt8 = b := by
  rw [← (tailBits_range h).1, toUInt8_toNat]

theorem lead_sub {n : Nat} (h : n ≤ a.toNat) : (n + (a.toNat - n)).toUInt8 = a := by
  rw [Nat.add_sub_cancel' h, toUInt8_toNat]

theorem none_cons_ne (scanned : List (Option Char)) (text : List Char) :
    none :: scanned ≠ text.map some := by
  cases text <;> simp

/-- A character behind which bytes are those of the characters that they are scanned as. -/
theorem encode_of_scan_cons
    (h : some c :: scan s = text.map some) (hc : encodeChar c = bytes)
    (ih : ∀ {text}, scan s = text.map some → encode text = s) : encode text = bytes ++ s := by
  obtain ⟨c, text, rfl, hhead, htext⟩ := List.map_eq_cons_iff.mp h.symm
  obtain rfl := Option.some.inj hhead
  rw [encode_cons, hc, ih htext.symm]

theorem lead_range (hlead : ¬ (a < 0xC2 || 0xF4 < a) = true) : 0xC2 ≤ a.toNat ∧ a.toNat ≤ 0xF4 := by
  simp only [UInt8.lt_iff_toNat_lt, UInt8.reduceToNat, Bool.or_eq_true, decide_eq_true_eq] at hlead
  omega

/-- Bytes that are scanned as characters are those of the characters. -/
theorem encode_of_scan (h : scan s = text.map some) :
    encode text = s := by
  fun_induction scan s generalizing text with
  | case1 =>
      obtain rfl := List.map_eq_nil_iff.mp h.symm
      rfl
  | case2 a s hascii ih =>
      rw [UInt8.lt_iff_toNat_lt] at hascii
      have hc : encodeChar (Char.ofNat a.toNat) = [a] := by
        rw [encodeChar_one hascii, toUInt8_toNat]
      exact encode_of_scan_cons h hc ih
  | case6 a hascii hlead b s hfollows htwo ih =>
      have hlead := lead_range hlead
      obtain ⟨hb, _⟩ := follows_range (by simpa using hfollows)
      have hbits := (tailBits_range hb).2
      simp only [UInt8.lt_iff_toNat_lt, UInt8.reduceToNat] at htwo
      have hc : encodeChar (Char.ofNat ((a.toNat - 0xC0) * 0x40 + tailBits b)) = [a, b] := by
        rw [encodeChar_two (by omega) (by omega) hbits, lead_sub (by omega), tail_toUInt8 hb]
      exact encode_of_scan_cons h hc ih
  | case9 a hascii hlead b hfollows htwo d s hd hthree ih =>
      have hlead := lead_range hlead
      obtain ⟨hb, hE0, hED, _⟩ := follows_range (by simpa using hfollows)
      have hd : isTail d = true := by simpa using hd
      simp only [UInt8.lt_iff_toNat_lt, UInt8.reduceToNat] at htwo hthree
      have hc : encodeChar (Char.ofNat (((a.toNat - 0xE0) * 0x40 + tailBits b) * 0x40
          + tailBits d)) = [a, b, d] := by
        rw [encodeChar_three (by omega) (tailBits_range hb).2 (tailBits_range hd).2,
          lead_sub (by omega), tail_toUInt8 hb, tail_toUInt8 hd]
        · exact fun hp => hE0 (UInt8.toNat_inj.mp (by change a.toNat = 0xE0; omega))
        · exact fun hp => hED (UInt8.toNat_inj.mp (by change a.toNat = 0xED; omega))
      exact encode_of_scan_cons h hc ih
  | case12 a hascii hlead b hfollows htwo d hd hthree e s he ih =>
      have hlead := lead_range hlead
      obtain ⟨hb, _, _, hF0, hF4⟩ := follows_range (by simpa using hfollows)
      have hd : isTail d = true := by simpa using hd
      have he : isTail e = true := by simpa using he
      simp only [UInt8.lt_iff_toNat_lt, UInt8.reduceToNat] at hthree
      have hc : encodeChar (Char.ofNat ((((a.toNat - 0xF0) * 0x40 + tailBits b) * 0x40
          + tailBits d) * 0x40 + tailBits e)) = [a, b, d, e] := by
        rw [encodeChar_four (by omega) (tailBits_range hb).2 (tailBits_range hd).2
          (tailBits_range he).2, lead_sub (by omega), tail_toUInt8 hb, tail_toUInt8 hd,
          tail_toUInt8 he]
        · exact fun hp => hF0 (UInt8.toNat_inj.mp (by change a.toNat = 0xF0; omega))
        · exact fun hp => hF4 (UInt8.toNat_inj.mp (by change a.toNat = 0xF4; omega))
      exact encode_of_scan_cons h hc ih
  | case3 | case4 | case5 | case7 | case8 | case10 | case11 => exact absurd h (none_cons_ne _ text)

/-- Bytes that are decoded are those of their text. -/
theorem encode_of_decode (h : decode s = some text) :
    encode text = s := by
  apply encode_of_scan
  rw [decode] at h
  generalize scan s = scanned at h
  induction scanned generalizing text with
  | nil => simp_all
  | cons x scanned ih =>
      cases x with
      | none => simp at h
      | some c =>
          simp only [List.mapM_cons, id] at h
          obtain ⟨_, ⟨⟩, h⟩ := Option.bind_eq_some_iff.mp h
          obtain ⟨later, hlater, h⟩ := Option.bind_eq_some_iff.mp h
          obtain rfl : c :: later = text := Option.some.inj h
          rw [ih hlater, List.map_cons]

end Utf8

end TraceArchive
