import Mathlib.Tactic.SplitIfs
import TraceArchive.Json.Lexeme
import TraceArchive.Proofs.Text.Utf8
/-!
Number literals, read back.  A literal is read up to the first byte that could not go on with it, so
its parts are told apart by the point, the exponent's mark and `EndsNumber`.
-/

namespace TraceArchive

namespace Json

variable {ds : List Char} {rest : Bytes} {atEnd : Cause}

/-- Digits, one at least. -/
def IsDigits (ds : List Char) : Prop :=
  ds ≠ [] ∧ ∀ c ∈ ds, c.isDigit

theorem isDigits_zero : IsDigits ['0'] :=
  ⟨List.cons_ne_nil _ _, List.forall_mem_singleton.mpr rfl⟩

/-- A text whose first byte, if it has one, is no digit. -/
def EndsDigits (rest : Bytes) : Prop :=
  ∀ b ∈ rest.head?, isDigit b = false

/-- A text that does not go on with a number. -/
def EndsNumber (rest : Bytes) : Prop :=
  ∀ b ∈ rest.head?, isDigit b = false ∧ b ≠ 0x2E ∧ b ≠ 0x65 ∧ b ≠ 0x45

theorem endsNumber_nil : EndsNumber [] := by
  rintro b ⟨⟩

theorem EndsNumber.endsDigits (h : EndsNumber rest) : EndsDigits rest :=
  fun b hb => (h b hb).1

theorem isDigit_range {c : Char} (hc : c.isDigit) : 0x30 ≤ c.toNat ∧ c.toNat ≤ 0x39 := by
  simp only [Char.isDigit, Bool.and_eq_true, decide_eq_true_eq, ge_iff_le,
    UInt32.le_iff_toNat_le] at hc
  exact hc

theorem isDigit_toUInt8 {c : Char} (hc : c.isDigit) : isDigit c.toNat.toUInt8 := by
  have hrange := isDigit_range hc
  have hbyte : c.toNat.toUInt8.toNat = c.toNat := Utf8.toNat_toUInt8 (by omega)
  simp only [isDigit, UInt8.le_iff_toNat_le, hbyte, Bool.and_eq_true, decide_eq_true_eq]
  exact hrange

/-- Every digit is one byte, which is that digit. -/
theorem encode_digits (h : ∀ c ∈ ds, c.isDigit) :
    Utf8.encode ds = ds.map fun c => c.toNat.toUInt8 := by
  induction ds with
  | nil => rfl
  | cons c ds ih =>
      obtain ⟨hc, hds⟩ := List.forall_mem_cons.mp h
      have hrange := isDigit_range hc
      rw [Utf8.encode_cons, Utf8.encodeChar_of_ascii (by omega), ih hds]
      rfl

theorem digits_encode (h : ∀ c ∈ ds, c.isDigit) (hrest : EndsDigits rest) :
    digits (Utf8.encode ds ++ rest) = (ds, rest) := by
  have hall : ∀ b ∈ Utf8.encode ds, isDigit b = true := by
    intro b hb
    rw [encode_digits h] at hb
    obtain ⟨c, hc, rfl⟩ := List.mem_map.mp hb
    exact isDigit_toUInt8 (h c hc)
  have htake : rest.takeWhile isDigit = [] := by
    cases rest with
    | nil => rfl
    | cons b rest => rw [List.takeWhile_cons, hrest b rfl]; rfl
  have hdrop : rest.dropWhile isDigit = rest := by
    cases rest with
    | nil => rfl
    | cons b rest => rw [List.dropWhile_cons, hrest b rfl]; rfl
  have hchar (c : Char) (hc : c ∈ ds) : Char.ofNat c.toNat.toUInt8.toNat = c := by
    have hrange := isDigit_range (h c hc)
    rw [Utf8.toNat_toUInt8 (by omega), Char.ofNat_toNat]
  rw [digits, List.takeWhile_append_of_pos hall, List.dropWhile_append_of_pos hall, htake, hdrop,
    List.append_nil, encode_digits h, List.map_map]
  exact congrArg (·, rest) ((List.map_congr_left hchar).trans (List.map_id ds))

/-! ## The parts of a literal -/

/-- The digits in front of the point: they start with zero only if there is no other. -/
def IsWhole (ds : List Char) : Prop :=
  ds = ['0'] ∨ IsDigits ds ∧ ds.head? ≠ some '0'

theorem IsWhole.isDigits (h : IsWhole ds) : IsDigits ds := by
  rcases h with rfl | h
  · exact isDigits_zero
  · exact h.1

/-- The point and the digits behind it. -/
def fractionText : Option (List Char) → List Char
  | none => []
  | some ds => '.' :: ds

/-- The mark of an exponent, its sign and its digits. -/
def exponentText : Option (Bool × List Char) → List Char
  | none => []
  | some (negative, ds) => 'e' :: (if negative then '-' else '+') :: ds

theorem wholePart_encode (h : IsWhole ds) (hrest : EndsDigits rest) :
    wholePart atEnd (Utf8.encode ds ++ rest) = .ok (ds, rest) := by
  rcases h with rfl | ⟨⟨hne, hall⟩, hzero⟩
  · change wholePart atEnd (0x30 :: rest) = _
    cases rest with
    | nil => rfl
    | cons b rest =>
        have hb := hrest b rfl
        simp [wholePart, hb]
  · have hread := digits_encode hall hrest
    cases ds with
    | nil => exact absurd rfl hne
    | cons c ds =>
        have hc := hall c List.mem_cons_self
        have hrange := isDigit_range hc
        have hbyte : c.toNat.toUInt8 ≠ 0x30 := by
          intro heq
          rw [← UInt8.toNat_inj, Utf8.toNat_toUInt8 (by omega)] at heq
          exact hzero (congrArg some (Char.toNat_inj.mp heq))
        rw [Utf8.encode_cons, Utf8.encodeChar_of_ascii (by omega), List.append_assoc,
          List.singleton_append] at hread ⊢
        rw [wholePart.eq_def]
        simp only [hbyte, isDigit_toUInt8 hc, hread, ↓reduceIte]

theorem fractionPart_encode {fraction : Option (List Char)}
    (h : ∀ ds ∈ fraction, IsDigits ds) (hrest : EndsDigits rest)
    (hpoint : ∀ b ∈ rest.head?, b ≠ 0x2E) :
    fractionPart atEnd (Utf8.encode (fractionText fraction) ++ rest) = .ok (fraction, rest) := by
  cases fraction with
  | none =>
      cases rest with
      | nil => rfl
      | cons b rest =>
          have hb := hpoint b rfl
          simp [fractionText, fractionPart, hb]
  | some ds =>
      obtain ⟨hne, hall⟩ := h ds rfl
      change fractionPart atEnd (0x2E :: (Utf8.encode ds ++ rest)) = _
      cases ds with
      | nil => exact absurd rfl hne
      | cons c ds =>
          rw [fractionPart, if_neg (by decide), digits_encode hall hrest]

theorem exponentPart_encode {exponent : Option (Bool × List Char)}
    (h : ∀ part ∈ exponent, IsDigits part.2) (hrest : EndsNumber rest) :
    exponentPart atEnd (Utf8.encode (exponentText exponent) ++ rest) = .ok (exponent, rest) := by
  cases exponent with
  | none =>
      cases rest with
      | nil => rfl
      | cons b rest =>
          obtain ⟨_, _, hlower, hupper⟩ := hrest b rfl
          simp [exponentText, exponentPart, hlower, hupper]
  | some part =>
      obtain ⟨negative, ds⟩ := part
      obtain ⟨hne, hall⟩ := h _ rfl
      have hread := digits_encode hall hrest.endsDigits
      cases ds with
      | nil => exact absurd rfl hne
      | cons c ds =>
          have hc := hall c List.mem_cons_self
          have hrange := isDigit_range hc
          rw [Utf8.encode_cons, Utf8.encodeChar_of_ascii (by omega), List.append_assoc,
            List.singleton_append] at hread
          have hencode : Utf8.encode (exponentText (some (negative, c :: ds))) ++ rest =
              0x65 :: (if negative then 0x2D else 0x2B) :: c.toNat.toUInt8 ::
                (Utf8.encode ds ++ rest) := by
            rw [exponentText, Utf8.encode_cons, Utf8.encode_cons, Utf8.encode_cons,
              Utf8.encodeChar_of_ascii (c := c) (by omega)]
            cases negative <;> rfl
          rw [hencode]
          cases negative <;>
            simp [exponentPart, hread, isDigit_toUInt8 hc]

/-! ## Whole literals -/

theorem isBlank_of_number {b : UInt8} (hb : b = 0x2D ∨ isDigit b) : isBlank b = false := by
  grind [isBlank, isDigit]

/-- A number begins with another byte than every word and every bracket. -/
theorem ne_of_number {b : UInt8} (hb : b = 0x2D ∨ isDigit b) :
    b ≠ 0x6E ∧ b ≠ 0x74 ∧ b ≠ 0x66 ∧ b ≠ 0x22 ∧ b ≠ 0x5B ∧ b ≠ 0x7B := by
  grind [isDigit]

/-- Reads a literal whose first byte, a minus sign or a digit, is `b`. -/
def literalFrom (b : UInt8) (r : Bytes) : Except Fault (Literal × Bytes) :=
  if b = 0x2D then literal .endInValue true r else literal .endInValue false (b :: r)

/-- A number is the number of its literal. -/
theorem number_eq (b : UInt8) (r : Bytes) :
    number b r = do
      let found ← literalFrom b r
      let n ← found.1.toNumber found.2
      return (n, found.2) := by
  rw [number, literalFrom]
  split <;> rfl

namespace Literal

/-- A literal as the grammar wants it. -/
structure WellFormed (l : Literal) : Prop where
  whole : IsWhole l.whole
  fraction : ∀ ds ∈ l.fraction, IsDigits ds
  exponent : ∀ part ∈ l.exponent, IsDigits part.2

/-- What is written of a literal behind its sign. -/
def magnitude (l : Literal) : List Char :=
  l.whole ++ (fractionText l.fraction ++ exponentText l.exponent)

theorem literal_magnitude {l : Literal} (h : l.WellFormed) (hrest : EndsNumber rest) :
    literal atEnd l.negative (Utf8.encode l.magnitude ++ rest) = .ok (l, rest) := by
  have hexponent : EndsDigits (Utf8.encode (exponentText l.exponent) ++ rest) ∧
      ∀ b ∈ (Utf8.encode (exponentText l.exponent) ++ rest).head?, b ≠ 0x2E := by
    cases hl : l.exponent with
    | none => exact ⟨hrest.endsDigits, fun b hb => (hrest b hb).2.1⟩
    | some part =>
        constructor
        · rintro b ⟨⟩
          rfl
        · rintro b ⟨⟩
          decide
  have hfraction : EndsDigits (Utf8.encode (fractionText l.fraction)
      ++ (Utf8.encode (exponentText l.exponent) ++ rest)) := by
    cases hl : l.fraction with
    | none => exact hexponent.1
    | some ds =>
        rintro b ⟨⟩
        rfl
  rw [literal, magnitude, Utf8.encode_append, Utf8.encode_append, List.append_assoc,
    List.append_assoc, wholePart_encode h.whole hfraction]
  simp only [bind, Except.bind]
  rw [fractionPart_encode h.fraction hexponent.1 hexponent.2]
  simp only
  rw [exponentPart_encode h.exponent hrest]
  rfl

/-- The characters of a literal. -/
def text (l : Literal) : List Char :=
  if l.negative then '-' :: l.magnitude else l.magnitude

/-- A literal in front of a text is read as it is, whatever follows that could not go on with it. -/
theorem literalFrom_text {l : Literal} (h : l.WellFormed) (hrest : EndsNumber rest) :
    ∃ b r, Utf8.encode l.text ++ rest = b :: r ∧ (b = 0x2D ∨ isDigit b) ∧
      literalFrom b r = .ok (l, rest) := by
  obtain ⟨hne, hall⟩ := h.whole.isDigits
  cases hsign : l.negative with
  | true =>
      refine ⟨0x2D, Utf8.encode l.magnitude ++ rest, ?_, Or.inl rfl, ?_⟩
      · rw [text, hsign]
        rfl
      · rw [literalFrom, if_pos rfl, ← hsign, literal_magnitude h hrest]
  | false =>
      cases hwhole : l.whole with
      | nil => exact absurd hwhole hne
      | cons c ds =>
          have hc := hall c (hwhole ▸ List.mem_cons_self)
          have hrange := isDigit_range hc
          have hminus : c.toNat.toUInt8 ≠ 0x2D := by
            rw [ne_eq, ← UInt8.toNat_inj, Utf8.toNat_toUInt8 (by omega)]
            simp only [UInt8.reduceToNat]
            omega
          obtain ⟨tail, hencode⟩ :
              ∃ tail, Utf8.encode l.magnitude ++ rest = c.toNat.toUInt8 :: tail := by
            rw [magnitude, hwhole, List.cons_append, Utf8.encode_cons,
              Utf8.encodeChar_of_ascii (by omega)]
            exact ⟨_, rfl⟩
          refine ⟨c.toNat.toUInt8, tail, ?_, Or.inr (isDigit_toUInt8 hc), ?_⟩
          · rw [text, hsign, ← hencode]
            rfl
          · rw [literalFrom, if_neg hminus, ← hencode, ← hsign, literal_magnitude h hrest]

/-- A literal in front of a text is read as its number. -/
theorem number_text {l : Literal} (h : l.WellFormed) (hrest : EndsNumber rest) :
    ∃ b r, Utf8.encode l.text ++ rest = b :: r ∧ (b = 0x2D ∨ isDigit b) ∧
      number b r = (l.toNumber rest).map (·, rest) := by
  obtain ⟨b, r, hencode, hhead, hliteral⟩ := literalFrom_text h hrest
  refine ⟨b, r, hencode, hhead, ?_⟩
  rw [number_eq, hliteral]
  simp only [bind, Except.bind]
  cases l.toNumber rest <;> rfl

end Literal

end Json

end TraceArchive
