import TraceArchive.Proofs.Json.Literal
import TraceArchive.Proofs.Number.Scaled
/-!
Numbers, written and read back.  The text of a number is a literal, to which the number is nearest;
an integer's has neither a point nor an exponent, a double's has one of them.  An integer is read
back as itself, and a double as what its digits make when they are scaled: itself, if the text is
short.
-/

namespace TraceArchive

namespace Json

variable {rest : Bytes}

/-! ## Digits of naturals -/

theorem isDigits_toDigits (n : Nat) : IsDigits (Nat.toDigits 10 n) :=
  ⟨Nat.toDigits_ne_nil, fun _ hc => Nat.isDigit_of_mem_toDigits (by decide) (by decide) hc⟩

theorem isDigits_append {former latter : List Char} (hne : former ++ latter ≠ [])
    (hformer : ∀ c ∈ former, c.isDigit) (hlatter : ∀ c ∈ latter, c.isDigit) :
    IsDigits (former ++ latter) :=
  ⟨hne, fun c hc => (List.mem_append.mp hc).elim (hformer c) (hlatter c)⟩

theorem isDigit_of_mem_zeros {k : Nat} {c : Char} (hc : c ∈ List.replicate k '0') : c.isDigit := by
  rw [List.eq_of_mem_replicate hc]
  rfl

theorem head?_toDigits {n : Nat} (hn : 0 < n) : (Nat.toDigits 10 n).head? ≠ some '0' := by
  induction n using Nat.strongRecOn with
  | ind n ih =>
      by_cases hsmall : n < 10
      · have hdigit : ∀ m < 10, 0 < m → [m.digitChar].head? ≠ some '0' := by decide
        rw [Nat.toDigits_of_lt_base hsmall]
        exact hdigit n hsmall hn
      · rw [Nat.toDigits_of_base_le (by decide) (by omega), List.head?_append,
          Option.or_of_isSome (by simp [Nat.toDigits_ne_nil])]
        exact ih (n / 10) (by omega) (by omega)

theorem isWhole_toDigits (n : Nat) : IsWhole (Nat.toDigits 10 n) := by
  rcases Nat.eq_zero_or_pos n with rfl | hpos
  · exact Or.inl (Nat.toDigits_zero 10)
  · exact Or.inr ⟨isDigits_toDigits n, head?_toDigits hpos⟩

namespace Literal

/-! ## Integers -/

/-- The literal an integer is written as. -/
def ofInteger (n : Int) : Literal :=
  ⟨decide (n < 0), Nat.toDigits 10 n.natAbs, none, none⟩

theorem ofInteger_wellFormed (n : Int) : (ofInteger n).WellFormed :=
  ⟨isWhole_toDigits n.natAbs, by rintro _ ⟨⟩, by rintro _ ⟨⟩⟩

theorem text_ofInteger (n : Int) : (ofInteger n).text = integerText n := by
  simp [text, magnitude, ofInteger, fractionText, exponentText, integerText]

/-- The integer that a literal denotes, if it has no point and no exponent and is not minus zero. -/
def integer? (l : Literal) : Option Int :=
  if l.fraction.isNone && l.exponent.isNone && !(l.negative && l.coefficient = 0) then
    some (if l.negative then -l.coefficient else l.coefficient)
  else none

theorem integer?_eq_some {l : Literal} {n : Int} :
    l.integer? = some n ↔
      (l.fraction.isNone && l.exponent.isNone && !(l.negative && l.coefficient = 0)) = true ∧
        (if l.negative then -(l.coefficient : Int) else l.coefficient) = n := by
  rw [integer?, Option.ite_none_right_eq_some, Option.some.injEq]

theorem integer?_ofInteger (n : Int) : (ofInteger n).integer? = some n := by
  have hcoefficient : (ofInteger n).coefficient = n.natAbs := by
    simp [ofInteger, coefficient]
  rw [integer?_eq_some, hcoefficient]
  simp only [ofInteger, Option.isNone_none, decide_eq_true_eq]
  constructor
  · grind
  · split_ifs <;> omega

/-- The number of a literal that denotes an integer: the integer itself if it fits, else a double.
-/
theorem toNumber_of_integer? {l : Literal} {n : Int} (h : l.integer? = some n) (rest : Bytes) :
    l.toNumber rest = if fits : IntegerFits n then .ok (.integer n fits) else
      match l.double? with
      | some d => .ok (.double d)
      | none => faultAt .numberOutOfRange rest := by
  obtain ⟨hplain, hsigned⟩ := integer?_eq_some.mp h
  have hexponent : l.exponent = none := by
    simp only [Bool.and_eq_true, Option.isNone_iff_eq_none] at hplain
    exact hplain.1.2
  rw [toNumber, hexponent, Option.bind_none]
  by_cases fits : IntegerFits n
  · simp only [value?, hsigned, hplain, fits, ↓reduceDIte, ↓reduceIte]
  · simp only [value?, hsigned, fits, ↓reduceDIte]
    cases l.double? <;> rfl

theorem toNumber_ofInteger {n : Int} (fits : IntegerFits n) (rest : Bytes) :
    (ofInteger n).toNumber rest = .ok (.integer n fits) := by
  rw [toNumber_of_integer? (integer?_ofInteger n), dif_pos fits]

/-! ## Doubles -/

/-- The decimal a literal stands for, its sign apart. -/
def decimal (l : Literal) : Decimal :=
  ⟨l.coefficient, exponentValue l.exponent - (l.fraction.getD []).length⟩

/-- The number that a literal is nearest to: an integer that fits is itself, and every other literal
is nearest to a double. -/
def nearest? (l : Literal) : Option Number :=
  match l.integer? with
  | some n => if fits : IntegerFits n then some (.integer n fits) else none
  | none => (Double.ofRank? l.negative l.decimal.rank).map .double

/-- A literal with a point or an exponent that is written for a decimal. -/
structure Writes (l : Literal) (d : Decimal) : Prop extends WellFormed l where
  real : (l.fraction.isNone && l.exponent.isNone) = false
  rank_eq : l.decimal.rank = d.rank

theorem Writes.of_rank_eq {l : Literal} {d t : Decimal} (h : l.Writes t) (hrank : t.rank = d.rank) :
    l.Writes d :=
  { h with rank_eq := h.rank_eq.trans hrank }

theorem Writes.integer? {l : Literal} {d : Decimal} (h : l.Writes d) : l.integer? = none := by
  rw [Literal.integer?, h.real, Bool.false_and]
  rfl

theorem Writes.nearest? {l : Literal} {d : Decimal} (h : l.Writes d)
    (hfinite : d.rank < Double.rankCount) :
    l.nearest? = some (.double ⟨l.negative, d.rank, hfinite⟩) := by
  rw [Literal.nearest?, h.integer?, h.rank_eq, Double.ofRank?, dif_pos hfinite]
  rfl

/-! ### The four forms of a decimal -/

section Forms

variable {d : Decimal} (negative : Bool)

theorem rank_decimal {l : Literal}
    (hdigits : Nat.ofDigitChars 10 (l.whole ++ l.fraction.getD []) 0 = d.coefficient)
    (hexponent : exponentValue l.exponent - (l.fraction.getD []).length = d.exponent) :
    l.decimal.rank = d.rank := by
  rw [decimal, coefficient, hdigits, hexponent]

/-- Zeros fill up to the point, and one stands behind it. -/
theorem writes_pointBehind (hne : d.coefficient ≠ 0) (hexponent : 0 ≤ d.exponent) :
    Writes ⟨negative, Nat.toDigits 10 d.coefficient ++ List.replicate d.exponent.toNat '0',
      some ['0'], none⟩ d where
  whole := by
    have hdigits := isDigits_toDigits d.coefficient
    refine Or.inr ⟨isDigits_append (List.append_ne_nil_of_left_ne_nil hdigits.1 _) hdigits.2
      fun c => isDigit_of_mem_zeros, ?_⟩
    rw [List.head?_append, Option.or_of_isSome (by simp [Nat.toDigits_ne_nil])]
    exact head?_toDigits (Nat.pos_of_ne_zero hne)
  fraction := by
    rintro _ ⟨⟩
    exact isDigits_zero
  exponent := by rintro _ ⟨⟩
  real := rfl
  rank_eq := by
    have hzeros := Decimal.rank_mul_ten_pow d.coefficient (d.exponent.toNat + 1) d.exponent
    rw [← hzeros]
    apply rank_decimal
    · simp only [Option.getD_some, Nat.ofDigitChars_append, Nat.ofDigitChars_ten_toDigits,
        Nat.ofDigitChars_replicate_zero, Nat.ofDigitChars_cons, Nat.ofDigitChars_nil, Nat.sub_self]
      grind
    · simp only [exponentValue, Option.getD_some, List.length_singleton]
      omega

/-- The point stands between two digits. -/
theorem writes_pointWithin (hne : d.coefficient ≠ 0) (hexponent : d.exponent < 0) {k : Nat}
    (hk : d.exponent + (Nat.toDigits 10 d.coefficient).length = k) (hpos : 0 < k) :
    Writes ⟨negative, (Nat.toDigits 10 d.coefficient).take k,
      some ((Nat.toDigits 10 d.coefficient).drop k), none⟩ d where
  whole := by
    refine Or.inr ⟨⟨?_, fun c hc => ?_⟩, ?_⟩
    · simp [Nat.toDigits_ne_nil]
      omega
    · exact (isDigits_toDigits _).2 c (List.mem_of_mem_take hc)
    · rw [List.head?_take]
      rw [if_neg (by omega)]
      exact head?_toDigits (Nat.pos_of_ne_zero hne)
  fraction := by
    rintro _ ⟨⟩
    refine ⟨?_, fun c hc => (isDigits_toDigits _).2 c (List.mem_of_mem_drop hc)⟩
    rw [ne_eq, List.drop_eq_nil_iff]
    omega
  exponent := by rintro _ ⟨⟩
  real := rfl
  rank_eq := by
    apply rank_decimal
    · simp only [Option.getD_some, List.take_append_drop, Nat.ofDigitChars_ten_toDigits]
    · simp only [exponentValue, Option.getD_some, List.length_drop]
      omega

/-- Zeros stand between the point and the digits. -/
theorem writes_pointInFront {k : Nat}
    (hk : d.exponent + (Nat.toDigits 10 d.coefficient).length = -k) :
    Writes ⟨negative, ['0'], some (List.replicate k '0' ++ Nat.toDigits 10 d.coefficient),
      none⟩ d where
  whole := Or.inl rfl
  fraction := by
    rintro _ ⟨⟩
    have hdigits := isDigits_toDigits d.coefficient
    exact isDigits_append (List.append_ne_nil_of_right_ne_nil _ hdigits.1)
      (fun c => isDigit_of_mem_zeros) hdigits.2
  exponent := by rintro _ ⟨⟩
  real := rfl
  rank_eq := by
    apply rank_decimal
    · simp only [Option.getD_some, List.cons_append, List.nil_append, Nat.ofDigitChars_cons,
        Nat.ofDigitChars_append, Nat.ofDigitChars_replicate_zero]
      simp
    · simp only [exponentValue, Option.getD_some, List.length_append, List.length_replicate]
      omega

theorem exponentValue_toDigits (n : Int) :
    exponentValue (some (decide (n < 0), Nat.toDigits 10 n.natAbs)) = n := by
  by_cases hneg : n < 0
  · simp only [hneg, decide_true, exponentValue, Nat.ofDigitChars_ten_toDigits]
    omega
  · simp only [hneg, decide_false, exponentValue, Nat.ofDigitChars_ten_toDigits]
    omega

/-- One digit stands before the point, if there is more than one, and an exponent makes up for the
rest. -/
theorem writes_scientific (hne : d.coefficient ≠ 0) {c : Char} {ds : List Char}
    (hdigits : Nat.toDigits 10 d.coefficient = c :: ds) {n : Int}
    (hn : d.exponent + ds.length = n) :
    Writes ⟨negative, [c], if ds = [] then none else some ds,
      some (decide (n < 0), Nat.toDigits 10 n.natAbs)⟩ d where
  whole := by
    have hhead := head?_toDigits (Nat.pos_of_ne_zero hne)
    rw [hdigits] at hhead
    have hall := (isDigits_toDigits d.coefficient).2 c (hdigits ▸ List.mem_cons_self)
    exact Or.inr ⟨⟨by simp, by simpa using hall⟩, hhead⟩
  fraction := by
    intro fs hfs
    split_ifs at hfs with hds
    · cases hfs
    · cases hfs
      exact ⟨hds, fun e he =>
        (isDigits_toDigits d.coefficient).2 e (hdigits ▸ List.mem_cons_of_mem c he)⟩
  exponent := by
    rintro _ ⟨⟩
    exact isDigits_toDigits n.natAbs
  real := by simp
  rank_eq := by
    have hfraction : (if ds = [] then none else some ds).getD [] = ds := by
      split_ifs with hds
      · exact hds.symm
      · rfl
    apply rank_decimal
    · rw [hfraction, List.singleton_append, ← hdigits, Nat.ofDigitChars_ten_toDigits]
    · rw [hfraction, exponentValue_toDigits]
      omega

/-- The text of a literal with an exponent, which makes up for the place of the point. -/
theorem magnitude_scientific (negative : Bool) (c : Char) (ds : List Char) (point : Int) :
    (⟨negative, [c], if ds = [] then none else some ds,
      some (decide (point - 1 < 0), Nat.toDigits 10 (point - 1).natAbs)⟩ : Literal).magnitude =
    c :: ((if ds = [] then [] else '.' :: ds) ++
      'e' :: (if 0 < point then '+' else '-') :: Nat.toDigits 10 (point - 1).natAbs) := by
  have hsign : (if point - 1 < 0 then '-' else '+') = if 0 < point then '+' else '-' := by
    split_ifs <;> first | rfl | omega
  simp only [magnitude, exponentText, decide_eq_true_eq, hsign]
  split_ifs <;> rfl

end Forms

/-- The text of a decimal is a literal written for it. -/
theorem exists_writes (negative : Bool) {d : Decimal} (hpos : 0 < d.rank) :
    ∃ l : Literal, l.negative = negative ∧ l.magnitude = d.text ∧ l.Writes d := by
  have htrimmed := Decimal.rank_trimmed (Decimal.width d.coefficient) d
  rw [Decimal.text]
  generalize Decimal.trimmed (Decimal.width d.coefficient) d = t at htrimmed
  rw [← htrimmed] at hpos
  have hne := Decimal.coefficient_ne_zero hpos
  simp only
  split
  · rename_i hplain
    split
    · rename_i hexponent
      exact ⟨_, rfl, rfl, (writes_pointBehind negative hne hexponent).of_rank_eq htrimmed⟩
    · rename_i hexponent
      obtain ⟨k, hk⟩ := Int.eq_ofNat_of_zero_le (Int.le_of_lt hplain.1)
      refine ⟨_, rfl, ?_, (writes_pointWithin negative hne (Int.not_le.mp hexponent) hk
        (by omega)).of_rank_eq htrimmed⟩
      simp [magnitude, fractionText, exponentText, hk]
  · split
    · rename_i hfront
      obtain ⟨k, hk⟩ := Int.eq_ofNat_of_zero_le (Int.neg_nonneg_of_nonpos hfront.2)
      refine ⟨_, rfl, ?_, (writes_pointInFront negative (k := k) (by omega)).of_rank_eq htrimmed⟩
      simp [magnitude, fractionText, exponentText, hk]
    · obtain ⟨c, ds, hdigits⟩ := List.exists_cons_of_ne_nil (isDigits_toDigits t.coefficient).1
      rw [hdigits, List.length_cons]
      have hplace : t.exponent + ds.length = t.exponent + (ds.length + 1 : Nat) - 1 := by omega
      generalize t.exponent + (ds.length + 1 : Nat) = point at hplace
      refine ⟨_, rfl, ?_, (writes_scientific negative hne hdigits hplace).of_rank_eq htrimmed⟩
      rw [magnitude_scientific]
      cases ds with
      | nil => rfl
      | cons e es => rfl

end Literal

/-! ## Short literals -/

theorem le_ofDigitChars (digits : List Char) (n : Nat) : n ≤ Nat.ofDigitChars 10 digits n := by
  rw [Nat.ofDigitChars_eq_ofDigitChars_zero]
  exact Nat.le_add_right_of_le (Nat.le_mul_of_pos_left n (Nat.pow_pos (by decide)))

/-- All digits are taken if what they make is no larger than a significand. -/
theorem takeDigits_of_le {digits : List Char} {significand : Nat}
    (h : Nat.ofDigitChars 10 digits significand ≤ maxSignificand) :
    takeDigits significand digits = (Nat.ofDigitChars 10 digits significand, digits.length) := by
  induction digits generalizing significand with
  | nil => rfl
  | cons c cs ih =>
      rw [← List.singleton_append, Nat.ofDigitChars_append] at h
      have hnext := Nat.le_trans (le_ofDigitChars cs _) h
      rw [takeDigits]
      simp only [hnext, ↓reduceIte, ih h]
      rfl

namespace Literal

/-- A short literal is read as the nearest double. -/
theorem double?_of_short {l : Literal} (hcoefficient : l.coefficient < 2 * Double.binade)
    (hlow : -22 ≤ l.decimal.exponent) (hhigh : l.decimal.exponent ≤ 22) :
    l.double? = Double.ofRank? l.negative l.decimal.rank := by
  have hall : Nat.ofDigitChars 10 (l.fraction.getD []) (Nat.ofDigitChars 10 l.whole 0) =
      l.coefficient := by
    rw [coefficient, Nat.ofDigitChars_append]
  have hlarge : l.coefficient ≤ maxSignificand :=
    Nat.le_of_lt (Nat.lt_trans hcoefficient (by decide))
  have hwhole : Nat.ofDigitChars 10 l.whole 0 ≤ maxSignificand :=
    Nat.le_trans (le_ofDigitChars _ _) (hall ▸ hlarge)
  have hexponent : exponentValue l.exponent +
      (((l.whole.length - l.whole.length : Nat) : Int) - (l.fraction.getD []).length) =
        l.decimal.exponent := by
    simp [decimal, Int.sub_eq_add_neg]
  have hrank := Double.scaledRank_eq_rank hcoefficient hlow hhigh
  rw [double?, takeDigits_of_le hwhole]
  simp only
  rw [takeDigits_of_le (hall ▸ hlarge), hall]
  simp only [hexponent, hrank]
  rfl

theorem toNumber_of_real {l : Literal} (hreal : l.integer? = none) (hplain : l.exponent = none)
    (rest : Bytes) : (l.toNumber rest).toOption = l.double?.map .double := by
  have hvalue : l.value? = l.double?.map .double := by
    rw [integer?, ite_eq_right_iff] at hreal
    have hcond := fun h => Option.some_ne_none _ (hreal h)
    simp only [value?]
    split_ifs <;> rfl
  rw [toNumber, hplain, Option.bind_none, hvalue]
  cases l.double? <;> rfl

/-- Literals whose texts begin one text are the same, if neither goes on behind the other. -/
theorem text_append_inj {l l' : Literal} {r : Bytes} (h : l.WellFormed) (h' : l'.WellFormed)
    (hrest : EndsNumber rest) (hr : EndsNumber r)
    (heq : Utf8.encode l.text ++ rest = Utf8.encode l'.text ++ r) : l = l' ∧ rest = r := by
  obtain ⟨b, s, hencode, _, hread⟩ := literalFrom_text h hrest
  obtain ⟨b', s', hencode', _, hread'⟩ := literalFrom_text h' hr
  rw [heq, hencode'] at hencode
  obtain ⟨rfl, rfl⟩ := List.cons.inj hencode
  exact Prod.mk.inj (Except.ok.inj (hread.symm.trans hread'))

end Literal

/-! ## Any number -/

theorem Double.exists_literal (d : Double) :
    ∃ l : Literal, l.WellFormed ∧ l.text = d.text ∧
      l.integer? = none ∧ l.nearest? = some (.double d) := by
  obtain ⟨negative, rank, hfinite⟩ := d
  rcases Nat.eq_zero_or_pos rank with rfl | hpos
  · have hwrites := Literal.writes_pointInFront negative (d := ⟨0, -1⟩) (k := 0) rfl
    refine ⟨_, hwrites.toWellFormed, ?_, hwrites.integer?, hwrites.nearest? hfinite⟩
    cases negative <;> rfl
  · have hrank := Decimal.rank_shortestOfRank hpos hfinite
    obtain ⟨l, hsign, htext, hwrites⟩ := Literal.exists_writes negative
      (d := Decimal.shortestOfRank rank) (by rwa [hrank])
    refine ⟨l, hwrites.toWellFormed, ?_, hwrites.integer?, ?_⟩
    · rw [Literal.text, Double.text, hsign, htext]
      simp only [if_neg (Nat.ne_of_gt hpos)]
    · rw [hwrites.nearest? (by rwa [hrank])]
      simp only [hsign, hrank]

namespace Number

variable {n n' : Number} {r : Bytes}

/-- The integer that a number holds. -/
def integer? : Number → Option Int
  | .integer n _ => some n
  | .double _ => none

/-- The text of a number is a literal that the number is nearest to. -/
theorem exists_literal (n : Number) :
    ∃ l : Literal, l.WellFormed ∧ l.text = n.text ∧ l.integer? = n.integer? ∧
      l.nearest? = some n := by
  cases n with
  | integer n fits =>
      have hinteger := Literal.integer?_ofInteger n
      refine ⟨.ofInteger n, Literal.ofInteger_wellFormed n, Literal.text_ofInteger n, hinteger, ?_⟩
      rw [Literal.nearest?, hinteger]
      exact dif_pos fits
  | double d => exact Double.exists_literal d

/-- Numbers whose texts begin one text are the same, if neither goes on behind the other. -/
theorem text_append_inj (hrest : EndsNumber rest) (hr : EndsNumber r)
    (h : Utf8.encode n.text ++ rest = Utf8.encode n'.text ++ r) : n = n' ∧ rest = r := by
  obtain ⟨l, hformed, htext, _, hnearest⟩ := n.exists_literal
  obtain ⟨l', hformed', htext', _, hnearest'⟩ := n'.exists_literal
  rw [← htext, ← htext'] at h
  obtain ⟨rfl, hsame⟩ := Literal.text_append_inj hformed hformed' hrest hr h
  exact ⟨Option.some.inj (hnearest.symm.trans hnearest'), hsame⟩

/-! ### Reading back -/

/-- What is read of a number's text, unless that is out of range. -/
def reread? (n : Number) : Option Number :=
  match Utf8.encode n.text with
  | [] => none
  | b :: r => (number b r).toOption.map Prod.fst

theorem reread?_of_text {l : Literal} (hformed : l.WellFormed) (htext : l.text = n.text) :
    n.reread? = (l.toNumber []).toOption := by
  obtain ⟨b, r, hencode, _, hread⟩ := Literal.number_text hformed endsNumber_nil
  rw [List.append_nil, htext] at hencode
  rw [reread?, hencode]
  simp only [hread]
  cases l.toNumber [] <;> rfl

/-- A double is read back as itself if its text has no exponent, and digits that make a natural
below `2 ^ 53`, at most 22 of them behind the point. -/
theorem reread?_of_short {d : Double} {l : Literal} (hformed : l.WellFormed)
    (htext : l.text = d.text) (hplain : l.exponent = none)
    (hcoefficient : l.coefficient < 2 * Double.binade)
    (hplaces : (l.fraction.getD []).length ≤ 22) : reread? (.double d) = some (.double d) := by
  obtain ⟨l', hformed', htext', hreal, hnearest⟩ := Double.exists_literal d
  have hencode : Utf8.encode l.text ++ [] = Utf8.encode l'.text ++ [] := by rw [htext, htext']
  obtain ⟨rfl, _⟩ :=
    Literal.text_append_inj hformed hformed' endsNumber_nil endsNumber_nil hencode
  have hexponent : l.decimal.exponent = -((l.fraction.getD []).length : Int) := by
    simp [Literal.decimal, hplain, Literal.exponentValue]
  have hdouble := Literal.double?_of_short hcoefficient (by omega) (by omega)
  rw [reread?_of_text (n := .double d) hformed htext, Literal.toNumber_of_real hreal hplain,
    hdouble]
  rw [Literal.nearest?, hreal] at hnearest
  exact hnearest

end Number

/-- What follows a literal does not change its number. -/
theorem Literal.toOption_toNumber (l : Literal) (rest : Bytes) :
    (l.toNumber rest).toOption = (l.toNumber []).toOption := by
  rw [toNumber, toNumber]
  cases l.exponent.bind fun part => excessDigits? part.2 with
  | none => cases l.value? <;> rfl
  | some excess =>
      simp only
      split <;> rfl

/-- The text of a number is read alike whatever follows that could not go on with it. -/
theorem number_text (n : Number) (hrest : EndsNumber rest) :
    ∃ b r, Utf8.encode n.text ++ rest = b :: r ∧ (b = 0x2D ∨ isDigit b) ∧
      (number b r).toOption = n.reread?.map (·, rest) := by
  obtain ⟨l, hformed, htext, _⟩ := n.exists_literal
  obtain ⟨b, r, hencode, hhead, hnumber⟩ := Literal.number_text hformed hrest
  refine ⟨b, r, htext ▸ hencode, hhead, ?_⟩
  rw [hnumber, Number.reread?_of_text hformed htext, ← l.toOption_toNumber rest]
  cases l.toNumber rest <;> rfl

/-- An integer is read back as itself. -/
@[simp] theorem Number.reread?_integer (n : Int) (fits : IntegerFits n) :
    reread? (.integer n fits) = some (.integer n fits) := by
  rw [reread?_of_text (n := .integer n fits) (Literal.ofInteger_wellFormed n)
      (Literal.text_ofInteger n), Literal.toNumber_ofInteger fits]
  rfl

end Json

end TraceArchive
