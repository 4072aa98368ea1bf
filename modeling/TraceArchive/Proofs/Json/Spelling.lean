import TraceArchive.Proofs.Json.Yields
import TraceArchive.Proofs.Quantity
import TraceArchive.Proofs.Text.Decoding
/-!
How characters are written between quotes.  A `Spelling` of a character is its own bytes or an
escape: a letter behind a backslash, or the four digits of each of its UTF-16 units, which are two
beyond U+FFFF.  A text in any spelling is read as that text.
-/

namespace TraceArchive

namespace Json

variable {c : Char} {cs done text out : List Char} {run rest bytes s r : Bytes} {b e : UInt8}

/-- The letters that stand behind a backslash, each with the character that it is written for. -/
def letters : List (UInt8 × Char) :=
  [(0x22, '"'), (0x5C, '\\'), (0x2F, '/'), (0x62, '\x08'), (0x66, '\x0c'), (0x6E, '\n'),
    (0x72, '\r'), (0x74, '\t')]

/-- The escapes that a character can be written by. -/
inductive Escaped (c : Char) : Bytes → Prop
  | letter {e : UInt8} (he : (e, c) ∈ letters) : Escaped c [0x5C, e]
  | unit {h₁ h₂ h₃ h₄ : UInt8} (hunit : hexFour? h₁ h₂ h₃ h₄ = some c.toNat) :
      Escaped c [0x5C, 0x75, h₁, h₂, h₃, h₄]
  /-- The two halves of what the number of the character has above `0x10000`. -/
  | pair {n : Nat} {h₁ h₂ h₃ h₄ l₁ l₂ l₃ l₄ : UInt8} (hn : c.toNat = 0x10000 + n)
      (hhigh : hexFour? h₁ h₂ h₃ h₄ = some (0xD800 + n / 0x400))
      (hlow : hexFour? l₁ l₂ l₃ l₄ = some (0xDC00 + n % 0x400)) :
      Escaped c [0x5C, 0x75, h₁, h₂, h₃, h₄, 0x5C, 0x75, l₁, l₂, l₃, l₄]

/-- The ways in which a character can be written between quotes. -/
inductive Spelling (c : Char) : Bytes → Prop
  | plain (hquote : c ≠ '"') (hslash : c ≠ '\\') (hcontrol : ¬ c.toNat < 0x20) :
      Spelling c (Utf8.encodeChar c)
  | escaped {bytes : Bytes} (h : Escaped c bytes) : Spelling c bytes

/-- The ways in which a text can be written between quotes: each character has a spelling of its
own. -/
inductive Spelled : List Char → Bytes → Prop
  | nil : Spelled [] []
  | cons {c : Char} {cs : List Char} {bytes later : Bytes} (hc : Spelling c bytes)
      (hcs : Spelled cs later) : Spelled (c :: cs) (bytes ++ later)

/-! ## Plain bytes -/

/-- A byte that stands for itself in a string. -/
def IsPlain (b : UInt8) : Prop :=
  b ≠ 0x22 ∧ b ≠ 0x5C ∧ ¬ b < 0x20

theorem stringRest_plain {bytes : Bytes} (h : ∀ b ∈ bytes, IsPlain b) :
    stringRest done run (bytes ++ rest) = stringRest done (bytes.reverse ++ run) rest := by
  induction bytes generalizing run with
  | nil => rfl
  | cons b bytes ih =>
      obtain ⟨⟨hquote, hslash, hcontrol⟩, hbytes⟩ := List.forall_mem_cons.mp h
      rw [List.cons_append, stringRest.eq_def]
      simp only [hquote, hslash, hcontrol, ↓reduceIte]
      rw [ih hbytes, List.reverse_cons, List.append_assoc, List.singleton_append]

/-- The bytes of a character that stands for itself do so too. -/
theorem isPlain_of_mem_encodeChar {b : UInt8} (hquote : c ≠ '"') (hslash : c ≠ '\\')
    (hcontrol : ¬ c.toNat < 0x20) (hb : b ∈ Utf8.encodeChar c) : IsPlain b := by
  by_cases hascii : c.toNat < 0x80
  · rw [Utf8.encodeChar_of_ascii hascii, List.mem_singleton] at hb
    have hbyte : b.toNat = c.toNat := by rw [hb, Utf8.toNat_toUInt8 (by omega)]
    refine ⟨?_, ?_, ?_⟩
    · rintro rfl
      exact hquote (Char.toNat_inj.mp hbyte.symm)
    · rintro rfl
      exact hslash (Char.toNat_inj.mp hbyte.symm)
    · rw [UInt8.lt_iff_toNat_lt, hbyte]
      exact hcontrol
  · have hbeyond := Utf8.le_of_mem_encodeChar (Nat.le_of_not_lt hascii) hb
    refine ⟨?_, ?_, ?_⟩ <;> grind

theorem isPlain_of_hexValue? {n : Nat} (h : Text.hexValue? b = some n) : IsPlain b := by
  unfold IsPlain
  grind [Text.hexValue?]

theorem isPlain_of_hexFour? {h₁ h₂ h₃ h₄ : UInt8} (h : (hexFour? h₁ h₂ h₃ h₄).isSome) :
    ∀ b ∈ [h₁, h₂, h₃, h₄], IsPlain b := by
  obtain ⟨n, hn⟩ := Option.isSome_iff_exists.mp h
  obtain ⟨a, ha, hn⟩ := Option.bind_eq_some_iff.mp hn
  obtain ⟨b, hb, hn⟩ := Option.bind_eq_some_iff.mp hn
  obtain ⟨c, hc, hn⟩ := Option.bind_eq_some_iff.mp hn
  obtain ⟨d, hd, hn⟩ := Option.bind_eq_some_iff.mp hn
  simpa only [List.forall_mem_cons] using ⟨isPlain_of_hexValue? ha, isPlain_of_hexValue? hb,
    isPlain_of_hexValue? hc, isPlain_of_hexValue? hd, List.forall_mem_nil _⟩

/-! ## Reading escapes -/

theorem exists_shortEscape (he : (e, c) ∈ letters) :
    ∃ b, shortEscape? e = some b ∧ e ≠ 0x75 ∧ Char.ofNat b.toNat = c := by
  simp only [letters, List.mem_cons, List.not_mem_nil, or_false, Prod.mk.injEq] at he
  rcases he with ⟨rfl, rfl⟩ | ⟨rfl, rfl⟩ | ⟨rfl, rfl⟩ | ⟨rfl, rfl⟩ | ⟨rfl, rfl⟩ | ⟨rfl, rfl⟩ |
    ⟨rfl, rfl⟩ | ⟨rfl, rfl⟩
  all_goals exact ⟨_, rfl, by decide, rfl⟩

theorem stringRest_shortEscape {e b : UInt8} (he : shortEscape? e = some b) (hu : e ≠ 0x75)
    (hrun : ∀ rest, plainText run.reverse rest = .ok text) :
    stringRest done run (0x5C :: e :: rest) =
      stringRest (Char.ofNat b.toNat :: (text.reverse ++ done)) [] rest := by
  rw [stringRest.eq_def]
  simp [hrun, he, hu, bind, Except.bind]

theorem stringRest_hexEscape {h₁ h₂ h₃ h₄ : UInt8} {n : Nat} (hn : hexFour? h₁ h₂ h₃ h₄ = some n)
    (hlow : isLowSurrogate n = false) (hhigh : isHighSurrogate n = false)
    (hrun : ∀ rest, plainText run.reverse rest = .ok text) :
    stringRest done run (0x5C :: 0x75 :: h₁ :: h₂ :: h₃ :: h₄ :: rest) =
      stringRest (Char.ofNat n :: (text.reverse ++ done)) [] rest := by
  rw [stringRest.eq_def]
  simp [hrun, hn, hlow, hhigh, bind, Except.bind]

/-- Two halves in a row are read as the character that they make up. -/
theorem stringRest_pairEscape {h₁ h₂ h₃ h₄ l₁ l₂ l₃ l₄ : UInt8} {high low : Nat}
    (hh : hexFour? h₁ h₂ h₃ h₄ = some high) (hl : hexFour? l₁ l₂ l₃ l₄ = some low)
    (hhigh : isHighSurrogate high = true) (hlow : isLowSurrogate low = true)
    (hrun : ∀ rest, plainText run.reverse rest = .ok text) :
    stringRest done run
        (0x5C :: 0x75 :: h₁ :: h₂ :: h₃ :: h₄ :: 0x5C :: 0x75 :: l₁ :: l₂ :: l₃ :: l₄ :: rest) =
      stringRest (Char.ofNat (pairValue high low) :: (text.reverse ++ done)) [] rest := by
  have hother : isLowSurrogate high = false := by
    simp only [isHighSurrogate, isLowSurrogate] at hhigh ⊢
    grind
  rw [stringRest.eq_def]
  simp [hrun, hh, hl, hhigh, hlow, hother, bind, Except.bind]

theorem isHighSurrogate_add {high : Nat} (h : high < 0x400) :
    isHighSurrogate (0xD800 + high) = true := by
  rw [isHighSurrogate, Bool.and_eq_true, decide_eq_true_eq, decide_eq_true_eq]
  omega

theorem isLowSurrogate_add {low : Nat} (h : low < 0x400) :
    isLowSurrogate (0xDC00 + low) = true := by
  rw [isLowSurrogate, Bool.and_eq_true, decide_eq_true_eq, decide_eq_true_eq]
  omega

theorem pairValue_add (high low : Nat) :
    pairValue (0xD800 + high) (0xDC00 + low) = 0x10000 + (high * 0x400 + low) := by
  unfold pairValue
  omega

/-- An escape is read as its character, and ends the stretch of plain bytes in front of it. -/
theorem Escaped.stringRest (h : Escaped c bytes)
    (hrun : ∀ rest, plainText run.reverse rest = .ok text) :
    Json.stringRest done run (bytes ++ rest) =
      Json.stringRest (c :: (text.reverse ++ done)) [] rest := by
  have hrange := Utf8.toNat_range c
  cases h with
  | letter he =>
      obtain ⟨b, hb, hu, rfl⟩ := exists_shortEscape he
      exact stringRest_shortEscape hb hu hrun
  | unit hunit =>
      have hlow : isLowSurrogate c.toNat = false := by
        simp only [isLowSurrogate]
        grind
      have hhigh : isHighSurrogate c.toNat = false := by
        simp only [isHighSurrogate]
        grind
      apply (stringRest_hexEscape hunit hlow hhigh hrun).trans
      rw [Char.ofNat_toNat]
      rfl
  | @pair n _ _ _ _ _ _ _ _ hn hhigh hlow =>
      have hhalf := isHighSurrogate_add (Nat.div_lt_of_lt_mul (by omega : n < 0x400 * 0x400))
      have hother := isLowSurrogate_add (Nat.mod_lt n (by decide : 0 < 0x400))
      apply (stringRest_pairEscape hhigh hlow hhalf hother hrun).trans
      rw [pairValue_add, Nat.div_add_mod', ← hn, Char.ofNat_toNat]
      rfl

/-! ## Reading texts -/

theorem plainText_encode (text : List Char) (rest : Bytes) :
    plainText (Utf8.encode text) rest = .ok text := by
  rw [plainText, Utf8.decode_encode]

/-- A text in any spelling is read behind whatever the reader holds: `held` are the plain characters
since the last escape. -/
theorem Spelled.stringRest (h : Spelled cs bytes) (done held : List Char) (rest : Bytes) :
    Json.stringRest done (Utf8.encode held).reverse (bytes ++ 0x22 :: rest) =
      .ok (done.reverse ++ (held ++ cs), rest) := by
  induction h generalizing done held with
  | nil =>
      rw [List.nil_append, stringRest.eq_def]
      simp only [↓reduceIte, List.reverse_reverse, plainText_encode, List.append_nil]
      rfl
  | @cons c cs bytes later hc _ ih =>
      rw [List.append_assoc]
      cases hc with
      | plain hquote hslash hcontrol =>
          have hheld : (Utf8.encodeChar c).reverse ++ (Utf8.encode held).reverse =
              (Utf8.encode (held ++ [c])).reverse := by
            simp
          rw [stringRest_plain fun b => isPlain_of_mem_encodeChar hquote hslash hcontrol, hheld, ih,
            List.append_assoc, List.singleton_append]
      | escaped hescaped =>
          have hrun (rest : Bytes) :
              plainText (Utf8.encode held).reverse.reverse rest = .ok held := by
            rw [List.reverse_reverse, plainText_encode]
          have hempty := ih (c :: (held.reverse ++ done)) []
          rw [Utf8.encode_nil, List.reverse_nil] at hempty
          rw [hescaped.stringRest hrun, hempty]
          simp

/-- Whatever its spelling, a text is read as it is. -/
theorem Spelled.string (h : Spelled cs bytes) (rest : Bytes) :
    Json.string (bytes ++ 0x22 :: rest) = .ok (String.ofList cs, rest) := by
  have hread := h.stringRest [] [] rest
  rw [Utf8.encode_nil, List.reverse_nil] at hread
  rw [Json.string, hread]
  rfl

/-! ## Texts that are read -/

theorem plainText_eq_ok {bytes rest : Bytes} (h : plainText bytes rest = .ok text) :
    Utf8.encode text = bytes := by
  rw [plainText] at h
  split at h
  · rename_i found hdecode
    obtain rfl := Except.ok.inj h
    exact Utf8.encode_of_decode hdecode
  · cases h

theorem letter_of_shortEscape? (h : shortEscape? e = some b) :
    (e, Char.ofNat b.toNat) ∈ letters := by
  unfold shortEscape? at h
  split_ifs at h with hself
  · obtain rfl := Option.some.inj h
    simp only [Bool.or_eq_true, decide_eq_true_eq] at hself
    rcases hself with (rfl | rfl) | rfl <;> decide
  all_goals
    subst_vars
    obtain rfl := Option.some.inj h
    decide

theorem lt_of_hexFour? {h₁ h₂ h₃ h₄ : UInt8} {n : Nat} (h : hexFour? h₁ h₂ h₃ h₄ = some n) :
    n < 0x10000 := by
  obtain ⟨x, hx, h⟩ := Option.bind_eq_some_iff.mp h
  obtain ⟨y, hy, h⟩ := Option.bind_eq_some_iff.mp h
  obtain ⟨z, hz, h⟩ := Option.bind_eq_some_iff.mp h
  obtain ⟨u, hu, h⟩ := Option.bind_eq_some_iff.mp h
  have hn := Option.some.inj h
  have := Quantity.hexValue?_lt hx
  have := Quantity.hexValue?_lt hy
  have := Quantity.hexValue?_lt hz
  have := Quantity.hexValue?_lt hu
  omega

theorem exists_high {n : Nat} (h : isHighSurrogate n = true) : ∃ q, q < 0x400 ∧ n = 0xD800 + q := by
  rw [isHighSurrogate, Bool.and_eq_true, decide_eq_true_eq, decide_eq_true_eq] at h
  exact ⟨n - 0xD800, by omega, by omega⟩

theorem exists_low {n : Nat} (h : isLowSurrogate n = true) : ∃ q, q < 0x400 ∧ n = 0xDC00 + q := by
  rw [isLowSurrogate, Bool.and_eq_true, decide_eq_true_eq, decide_eq_true_eq] at h
  exact ⟨n - 0xDC00, by omega, by omega⟩

/-- A unit that is neither half of a pair is the number of a character. -/
theorem escaped_unit {h₁ h₂ h₃ h₄ : UInt8} {n : Nat} (hn : hexFour? h₁ h₂ h₃ h₄ = some n)
    (hlow : ¬ isLowSurrogate n = true) (hhigh : ¬ isHighSurrogate n = true) :
    Escaped (Char.ofNat n) [0x5C, 0x75, h₁, h₂, h₃, h₄] := by
  have hlt := lt_of_hexFour? hn
  simp only [isLowSurrogate, isHighSurrogate, Bool.and_eq_true, decide_eq_true_eq] at hlow hhigh
  apply Escaped.unit
  rw [hn, Utf8.toNat_ofNat (by omega)]

/-- Two halves are those of the character that they make up. -/
theorem escaped_pair {h₁ h₂ h₃ h₄ l₁ l₂ l₃ l₄ : UInt8} {high low : Nat}
    (hh : hexFour? h₁ h₂ h₃ h₄ = some high) (hl : hexFour? l₁ l₂ l₃ l₄ = some low)
    (hhigh : isHighSurrogate high = true) (hlow : isLowSurrogate low = true) :
    Escaped (Char.ofNat (pairValue high low))
      [0x5C, 0x75, h₁, h₂, h₃, h₄, 0x5C, 0x75, l₁, l₂, l₃, l₄] := by
  obtain ⟨q, hq, rfl⟩ := exists_high hhigh
  obtain ⟨x, hx, rfl⟩ := exists_low hlow
  have hhead : (q * 0x400 + x) / 0x400 = q := by omega
  have hlast : (q * 0x400 + x) % 0x400 = x := by omega
  rw [pairValue_add]
  apply Escaped.pair
  · exact Utf8.toNat_ofNat (by omega)
  · rw [hhead, hh]
  · rw [hlast, hl]

/-- What the reader makes of a backslash: an escape, behind which it goes on. -/
theorem exists_escaped (h : stringRest done run (0x5C :: r) = .ok (out, rest)) :
    ∃ text c bytes left, Utf8.encode text = run.reverse ∧ 0x5C :: r = bytes ++ left ∧
      Escaped c bytes ∧ stringRest (c :: (text.reverse ++ done)) [] left = .ok (out, rest) := by
  rw [stringRest.eq_def] at h
  obtain ⟨text, hrun, hescaped⟩ := bind_eq_ok.mp h
  have hheld := plainText_eq_ok hrun
  clear h hrun
  refine ⟨text, ?_⟩
  simp only at hescaped
  split at hescaped
  · cases hescaped
  rename_i e r₁
  split at hescaped
  · rename_i hunicode
    subst hunicode
    split at hescaped
    · rename_i h₁ h₂ h₃ h₄ r₂
      split at hescaped
      · cases hescaped
      rename_i n hn
      split at hescaped
      · cases hescaped
      rename_i hlow
      split at hescaped
      · rename_i hhigh
        exact ⟨_, _, _, hheld, rfl, escaped_unit hn hlow (by simpa using hhigh), hescaped⟩
      rename_i hhigh
      split at hescaped
      · cases hescaped
      rename_i e₁ r₃
      split at hescaped
      · cases hescaped
      rename_i hslash
      split at hescaped
      · cases hescaped
      rename_i e₂ r₄
      split at hescaped
      · cases hescaped
      rename_i hunicode
      obtain rfl := not_not.mp hslash
      obtain rfl := not_not.mp hunicode
      split at hescaped
      · rename_i l₁ l₂ l₃ l₄ left
        split at hescaped
        · cases hescaped
        rename_i m hm
        split at hescaped
        · cases hescaped
        rename_i hsecond
        exact ⟨_, _, left, hheld, rfl, escaped_pair hn hm (by simpa using hhigh)
          (by simpa using hsecond), hescaped⟩
      · cases hescaped
    · cases hescaped
  · split at hescaped
    · rename_i b hb
      exact ⟨_, _, _, hheld, rfl, .letter (letter_of_shortEscape? hb), hescaped⟩
    · cases hescaped

/-- The plain bytes at the beginning of a text, and what follows them. -/
theorem exists_plain (s : Bytes) :
    ∃ run later, s = run ++ later ∧ (∀ b ∈ run, IsPlain b) ∧
      ∀ b r, later = b :: r → ¬ IsPlain b := by
  induction s with
  | nil => exact ⟨[], [], rfl, List.forall_mem_nil _, by simp⟩
  | cons b s ih =>
      by_cases hb : IsPlain b
      · obtain ⟨run, later, rfl, hrun, hlater⟩ := ih
        exact ⟨b :: run, later, rfl, List.forall_mem_cons.mpr ⟨hb, hrun⟩, hlater⟩
      · refine ⟨[], b :: s, rfl, List.forall_mem_nil _, ?_⟩
        rintro _ _ ⟨⟩
        exact hb

/-- A character whose bytes are plain stands for itself. -/
theorem spelling_of_plain (h : ∀ b ∈ Utf8.encodeChar c, IsPlain b) :
    Spelling c (Utf8.encodeChar c) := by
  by_cases hascii : c.toNat < 0x80
  · rw [Utf8.encodeChar_of_ascii hascii] at h
    obtain ⟨hquote, hslash, hcontrol⟩ := List.forall_mem_singleton.mp h
    apply Spelling.plain
    · rintro rfl
      exact hquote rfl
    · rintro rfl
      exact hslash rfl
    · rwa [UInt8.lt_iff_toNat_lt, Utf8.toNat_toUInt8 (by omega)] at hcontrol
  · apply Spelling.plain
    · rintro rfl
      exact hascii (by decide)
    · rintro rfl
      exact hascii (by decide)
    · omega

theorem spelled_of_plain (h : ∀ b ∈ Utf8.encode cs, IsPlain b) : Spelled cs (Utf8.encode cs) := by
  induction cs with
  | nil => exact .nil
  | cons c cs ih =>
      rw [Utf8.encode_cons, List.forall_mem_append] at h
      exact .cons (spelling_of_plain h.1) (ih h.2)

theorem Spelled.append {ds : List Char} {later : Bytes} (h : Spelled cs bytes)
    (h' : Spelled ds later) : Spelled (cs ++ ds) (bytes ++ later) := by
  induction h with
  | nil => exact h'
  | cons hc _ ih =>
      rw [List.append_assoc]
      exact .cons hc ih

/-- A text that is read up to a quote is spelled by the bytes in front of it. -/
theorem exists_spelled (h : stringRest done [] s = .ok (out, rest)) :
    ∃ cs bytes, out = done.reverse ++ cs ∧ s = bytes ++ 0x22 :: rest ∧ Spelled cs bytes := by
  induction hn : s.length using Nat.strong_induction_on generalizing done s with
  | h n ih =>
      subst hn
      obtain ⟨run, later, rfl, hrun, hlater⟩ := exists_plain s
      rw [stringRest_plain hrun, List.append_nil] at h
      cases later with
      | nil =>
          rw [stringRest.eq_def] at h
          cases h
      | cons b r =>
          have hb := hlater b r rfl
          by_cases hquote : b = 0x22
          · subst hquote
            rw [stringRest.eq_def] at h
            obtain ⟨text, hread, hend⟩ := bind_eq_ok.mp h
            obtain ⟨hout, rfl⟩ := Prod.mk.inj (Except.ok.inj hend)
            have hheld := plainText_eq_ok hread
            rw [List.reverse_reverse] at hheld
            subst hheld
            exact ⟨text, _, hout.symm, rfl, spelled_of_plain hrun⟩
          by_cases hslash : b = 0x5C
          · subst hslash
            obtain ⟨text, c, bytes, left, hheld, hr, hc, hleft⟩ := exists_escaped h
            rw [List.reverse_reverse] at hheld
            subst hheld
            rw [hr] at *
            have hshort : left.length < (Utf8.encode text ++ (bytes ++ left)).length := by
              have hsome : 0 < bytes.length := List.length_pos_iff.mpr (by rintro rfl; cases hc)
              simp only [List.length_append]
              omega
            obtain ⟨cs, tail, rfl, rfl, hcs⟩ := ih _ hshort hleft rfl
            refine ⟨text ++ c :: cs, Utf8.encode text ++ (bytes ++ tail), ?_, ?_, ?_⟩
            · simp
            · simp
            · exact (spelled_of_plain hrun).append (.cons (.escaped hc) hcs)
          · rw [stringRest.eq_def] at h
            simp only [hquote, hslash, ↓reduceIte] at h
            split at h
            · cases h
            · rename_i hcontrol
              exact absurd ⟨hquote, hslash, hcontrol⟩ hb

/-- A string is read exactly where its text, in some spelling, is followed by a quote. -/
theorem string_eq_ok {text : String} :
    string s = .ok (text, rest) ↔
      ∃ bytes, s = bytes ++ 0x22 :: rest ∧ Spelled text.toList bytes := by
  constructor
  · intro h
    obtain ⟨⟨chars, left⟩, hread, hend⟩ := bind_eq_ok.mp h
    obtain ⟨rfl, rfl⟩ := Prod.mk.inj (Except.ok.inj hend)
    obtain ⟨cs, bytes, rfl, hs, hspelled⟩ := exists_spelled hread
    refine ⟨bytes, hs, ?_⟩
    rwa [String.toList_ofList]
  · rintro ⟨bytes, rfl, hspelled⟩
    rw [hspelled.string rest, String.ofList_toList]

end Json

end TraceArchive
