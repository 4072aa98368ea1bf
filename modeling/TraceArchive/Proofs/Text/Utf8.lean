import TraceArchive.Text.Utf8
/-!
Texts as bytes and back.  The bytes of a character are scanned as that character whatever follows
them, so decoding undoes encoding.
-/

namespace TraceArchive

namespace Utf8

variable {c : Char} {a b d e : UInt8}

@[simp] theorem encode_nil : encode [] = [] :=
  rfl

@[simp] theorem encode_cons (c : Char) (text : List Char) :
    encode (c :: text) = encodeChar c ++ encode text :=
  List.flatMap_cons

@[simp] theorem encode_append (former latter : List Char) :
    encode (former ++ latter) = encode former ++ encode latter :=
  List.flatMap_append

theorem encodeChar_of_ascii (h : c.toNat < 0x80) : encodeChar c = [c.toNat.toUInt8] := by
  simp [encodeChar, h]

/-- The bytes of a text in ASCII are the numbers of its characters. -/
theorem forall_mem_encode_of_ascii {P : UInt8 → Prop} {cs : List Char}
    (h : ∀ c ∈ cs, c.toNat < 0x80 ∧ P c.toNat.toUInt8) : ∀ b ∈ encode cs, P b := by
  induction cs with
  | nil => exact List.forall_mem_nil _
  | cons c cs ih =>
      obtain ⟨⟨hascii, hc⟩, hcs⟩ := List.forall_mem_cons.mp h
      rw [encode_cons, List.forall_mem_append, encodeChar_of_ascii hascii]
      exact ⟨List.forall_mem_singleton.mpr hc, ih hcs⟩

/-- The number of a character: no surrogate, and not beyond U+10FFFF. -/
theorem toNat_range (c : Char) :
    c.toNat < 0xD800 ∨ 0xDFFF < c.toNat ∧ c.toNat < 0x110000 := by
  have hvalid := c.valid
  simp only [UInt32.isValidChar, Nat.isValidChar] at hvalid
  simp only [Char.toNat]
  omega

theorem toNat_toUInt8 {n : Nat} (h : n < 0x100) : n.toUInt8.toNat = n := by
  simp only [Nat.toUInt8_eq, UInt8.toNat_ofNat']
  omega

/-- The bytes of a character beyond ASCII are none of ASCII. -/
theorem le_of_mem_encodeChar (hc : 0x80 ≤ c.toNat) (hb : b ∈ encodeChar c) : 0x80 ≤ b := by
  have hrange := toNat_range c
  rw [UInt8.le_iff_toNat_le]
  simp only [encodeChar, Nat.not_lt.mpr hc, ↓reduceIte] at hb
  split at hb
  · simp only [List.mem_cons, List.not_mem_nil, or_false] at hb
    rcases hb with rfl | rfl <;> simp <;> omega
  · split at hb
    · simp only [List.mem_cons, List.not_mem_nil, or_false] at hb
      rcases hb with rfl | rfl | rfl <;> simp <;> omega
    · simp only [List.mem_cons, List.not_mem_nil, or_false] at hb
      rcases hb with rfl | rfl | rfl | rfl <;> simp <;> omega

/-! ## Scanning one character -/

theorem isTail_toUInt8 {n : Nat} (hlow : 0x80 ≤ n) (hhigh : n < 0xC0) :
    isTail n.toUInt8 = true := by
  have hn : n < 0x100 := by omega
  simp only [isTail, UInt8.le_iff_toNat_le, UInt8.lt_iff_toNat_lt, toNat_toUInt8 hn,
    Bool.and_eq_true, decide_eq_true_eq]
  exact ⟨hlow, hhigh⟩

/-- A lead byte is followed by any tail, the four special ones by a part of them. -/
theorem follows_toUInt8 {lead n : Nat} (hlead : lead < 0x100) (hlow : 0x80 ≤ n) (hhigh : n < 0xC0)
    (hE0 : lead = 0xE0 → 0xA0 ≤ n) (hED : lead = 0xED → n < 0xA0)
    (hF0 : lead = 0xF0 → 0x90 ≤ n) (hF4 : lead = 0xF4 → n < 0x90) :
    follows lead.toUInt8 n.toUInt8 = true := by
  have hn : n < 0x100 := by omega
  simp only [follows, isTail_toUInt8 hlow hhigh, UInt8.le_iff_toNat_le, UInt8.lt_iff_toNat_lt,
    ← UInt8.toNat_inj, toNat_toUInt8 hn, toNat_toUInt8 hlead, UInt8.reduceToNat]
  grind

theorem tailBits_toUInt8 {n : Nat} (h : n < 0x40) : tailBits (0x80 + n).toUInt8 = n := by
  have hbyte : (0x80 + n).toUInt8.toNat = 0x80 + n := toNat_toUInt8 (by omega)
  unfold tailBits
  omega

theorem isTail_add {n : Nat} (h : n < 0x40) : isTail (0x80 + n).toUInt8 = true :=
  isTail_toUInt8 (by omega) (by omega)

/-- A lead byte is none of ASCII, and none of those that start no character. -/
theorem lead_toUInt8 {n : Nat} (hlow : 0xC2 ≤ n) (hhigh : n ≤ 0xF4) :
    ¬ n.toUInt8 < 0x80 ∧ (n.toUInt8 < 0xC2 || 0xF4 < n.toUInt8) = false := by
  have hn : n.toUInt8.toNat = n := toNat_toUInt8 (by omega)
  simp only [UInt8.lt_iff_toNat_lt, hn, UInt8.reduceToNat, Bool.or_eq_false_iff,
    decide_eq_false_iff_not]
  omega

/-- Two bytes: the lead carries `p`, which their form is not too long for, and the tail `x`. -/
theorem scan_two {p x : Nat} (hlow : 2 ≤ p) (hp : p < 0x20) (hx : x < 0x40) (s : Bytes) :
    scan ((0xC0 + p).toUInt8 :: (0x80 + x).toUInt8 :: s) =
      some (Char.ofNat (p * 0x40 + x)) :: scan s := by
  have hn : (0xC0 + p).toUInt8.toNat = 0xC0 + p := toNat_toUInt8 (by omega)
  obtain ⟨hascii, hlead⟩ := lead_toUInt8 (n := 0xC0 + p) (by omega) (by omega)
  have hfollows : follows (0xC0 + p).toUInt8 (0x80 + x).toUInt8 = true := by
    apply follows_toUInt8 <;> omega
  have htwo : (0xC0 + p).toUInt8 < 0xE0 := by
    simp only [UInt8.lt_iff_toNat_lt, hn, UInt8.reduceToNat]
    omega
  rw [scan.eq_def]
  simp only [hascii, hlead, hfollows, htwo, hn, tailBits_toUInt8 hx, Bool.not_true,
    Bool.false_eq_true, ↓reduceIte, Nat.add_sub_cancel_left]

/-- Three bytes: the form is not too long, and what they carry is no surrogate. -/
theorem scan_three {p x y : Nat} (hp : p < 0x10) (hx : x < 0x40) (hy : y < 0x40)
    (hlow : p = 0 → 0x20 ≤ x) (hsurrogate : p = 0xD → x < 0x20) (s : Bytes) :
    scan ((0xE0 + p).toUInt8 :: (0x80 + x).toUInt8 :: (0x80 + y).toUInt8 :: s) =
      some (Char.ofNat ((p * 0x40 + x) * 0x40 + y)) :: scan s := by
  have hn : (0xE0 + p).toUInt8.toNat = 0xE0 + p := toNat_toUInt8 (by omega)
  obtain ⟨hascii, hlead⟩ := lead_toUInt8 (n := 0xE0 + p) (by omega) (by omega)
  have hfollows : follows (0xE0 + p).toUInt8 (0x80 + x).toUInt8 = true := by
    apply follows_toUInt8 <;> omega
  have htwo : ¬ (0xE0 + p).toUInt8 < 0xE0 := by
    simp only [UInt8.lt_iff_toNat_lt, hn, UInt8.reduceToNat]
    omega
  have hthree : (0xE0 + p).toUInt8 < 0xF0 := by
    simp only [UInt8.lt_iff_toNat_lt, hn, UInt8.reduceToNat]
    omega
  rw [scan.eq_def]
  simp only [hascii, hlead, hfollows, htwo, hthree, hn, isTail_add hy, tailBits_toUInt8 hx,
    tailBits_toUInt8 hy, Bool.not_true, Bool.false_eq_true, ↓reduceIte, Nat.add_sub_cancel_left]

/-- Four bytes: the form is not too long, and what they carry is not beyond U+10FFFF. -/
theorem scan_four {p x y z : Nat} (hp : p ≤ 4) (hx : x < 0x40) (hy : y < 0x40) (hz : z < 0x40)
    (hlow : p = 0 → 0x10 ≤ x) (hhigh : p = 4 → x < 0x10) (s : Bytes) :
    scan ((0xF0 + p).toUInt8 :: (0x80 + x).toUInt8 :: (0x80 + y).toUInt8 :: (0x80 + z).toUInt8
        :: s) =
      some (Char.ofNat (((p * 0x40 + x) * 0x40 + y) * 0x40 + z)) :: scan s := by
  have hn : (0xF0 + p).toUInt8.toNat = 0xF0 + p := toNat_toUInt8 (by omega)
  obtain ⟨hascii, hlead⟩ := lead_toUInt8 (n := 0xF0 + p) (by omega) (by omega)
  have hfollows : follows (0xF0 + p).toUInt8 (0x80 + x).toUInt8 = true := by
    apply follows_toUInt8 <;> omega
  have htwo : ¬ (0xF0 + p).toUInt8 < 0xE0 := by
    simp only [UInt8.lt_iff_toNat_lt, hn, UInt8.reduceToNat]
    omega
  have hthree : ¬ (0xF0 + p).toUInt8 < 0xF0 := by
    simp only [UInt8.lt_iff_toNat_lt, hn, UInt8.reduceToNat]
    omega
  rw [scan.eq_def]
  simp only [hascii, hlead, hfollows, htwo, hthree, hn, isTail_add hy, isTail_add hz,
    tailBits_toUInt8 hx, tailBits_toUInt8 hy, tailBits_toUInt8 hz, Bool.not_true,
    Bool.false_eq_true, ↓reduceIte, Nat.add_sub_cancel_left]

theorem scan_ascii {n : Nat} (h : n < 0x80) (s : Bytes) :
    scan (n.toUInt8 :: s) = some (Char.ofNat n) :: scan s := by
  have hn : n.toUInt8.toNat = n := toNat_toUInt8 (by omega)
  have hascii : n.toUInt8 < 0x80 := by
    rw [UInt8.lt_iff_toNat_lt, hn]
    exact h
  rw [scan.eq_def]
  simp only [hascii, ↓reduceIte, hn]

/-- What follows a character does not change what it is scanned as. -/
theorem scan_encodeChar_append (c : Char) (s : Bytes) :
    scan (encodeChar c ++ s) = some c :: scan s := by
  have hrange := toNat_range c
  have hsix (n : Nat) : n % 0x40 < 0x40 := Nat.mod_lt n (by decide)
  by_cases hone : c.toNat < 0x80
  · rw [encodeChar_of_ascii hone, List.singleton_append, scan_ascii hone, Char.ofNat_toNat]
  by_cases htwo : c.toNat < 0x800
  · have hvalue : c.toNat / 0x40 * 0x40 + c.toNat % 0x40 = c.toNat := by omega
    simp only [encodeChar, hone, htwo, ↓reduceIte, List.cons_append, List.nil_append]
    rw [scan_two (by omega) (by omega) (hsix _), hvalue, Char.ofNat_toNat]
  by_cases hthree : c.toNat < 0x10000
  · have hvalue : (c.toNat / 0x1000 * 0x40 + c.toNat / 0x40 % 0x40) * 0x40 + c.toNat % 0x40 =
        c.toNat := by omega
    simp only [encodeChar, hone, htwo, hthree, ↓reduceIte, List.cons_append, List.nil_append]
    rw [scan_three (by omega) (hsix _) (hsix _) (by omega) (by omega), hvalue, Char.ofNat_toNat]
  · have hvalue : ((c.toNat / 0x40000 * 0x40 + c.toNat / 0x1000 % 0x40) * 0x40
        + c.toNat / 0x40 % 0x40) * 0x40 + c.toNat % 0x40 = c.toNat := by omega
    simp only [encodeChar, hone, htwo, hthree, ↓reduceIte, List.cons_append, List.nil_append]
    rw [scan_four (by omega) (hsix _) (hsix _) (hsix _) (by omega) (by omega), hvalue,
      Char.ofNat_toNat]

theorem scan_encode (text : List Char) : scan (encode text) = text.map some := by
  induction text with
  | nil => rfl
  | cons c text ih => rw [encode_cons, scan_encodeChar_append, ih, List.map_cons]

theorem decode_encode (text : List Char) : decode (encode text) = some text := by
  rw [decode, scan_encode]
  induction text with
  | nil => rfl
  | cons c text ih => simp [ih]

theorem encode_eq_nil {text : List Char} : encode text = [] ↔ text = [] := by
  constructor
  · intro h
    have hdecoded := decode_encode text
    rw [h] at hdecoded
    exact (Option.some.inj hdecoded).symm
  · rintro rfl
    rfl

end Utf8

end TraceArchive
