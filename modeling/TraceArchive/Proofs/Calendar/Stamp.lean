import TraceArchive.Calendar.Instant
import TraceArchive.Proofs.Calendar.Civil
/-!
What the text of an instant says.  A text that is written as a `Stamp`, a valid date and a time of
that day, says one such stamp only, and denotes the seconds up to it.  A duration whose seconds lie
in the years that can be shown is written as them, cut to the millisecond, and any other duration as
the start of 1970.  The seconds of a duration are those of 64 bits with a sign, so the largest
numbers of seconds are shown as instants before 1970.
-/

namespace TraceArchive

/-- A date and a time of that day, to the millisecond. -/
structure Stamp where
  day : Day
  hour : Nat
  minute : Nat
  second : Nat
  millis : Nat

namespace Stamp

variable {t t' : Stamp} {ds ds' text : List Char} {width n : Nat} {year year' : Int}

structure Valid (t : Stamp) : Prop where
  day : t.day.Valid
  hour : t.hour < 24
  minute : t.minute < 60
  second : t.second < 60
  millis : t.millis < 1000

/-- The seconds from the start of 1970 up to a stamp. -/
def seconds (t : Stamp) : Int :=
  t.day.number * 86400 + t.hour * 3600 + t.minute * 60 + t.second

/-! ## How it is written -/

/-- A natural in so many decimal digits. -/
structure Digits (width n : Nat) (ds : List Char) : Prop where
  digits : ∀ c ∈ ds, c.isDigit
  length : ds.length = width
  value : Nat.ofDigitChars 10 ds 0 = n

/-- A year: four digits, or a sign and four digits at least, with no more zeros in front than make
up the four. -/
inductive YearText (year : Int) : List Char → Prop
  | plain {ds : List Char} (hlow : 0 ≤ year) (hhigh : year ≤ 9999) (h : Digits 4 year.toNat ds) :
      YearText year ds
  | signed {sign : Char} {ds : List Char} (hout : year < 0 ∧ sign = '-' ∨ 9999 < year ∧ sign = '+')
      (hfour : 4 ≤ ds.length) (hfull : 4 < ds.length → Nat.pow 10 (ds.length - 1) ≤ year.natAbs)
      (h : Digits ds.length year.natAbs ds) : YearText year (sign :: ds)

/-- The text `Y-MM-DD hh:mm:ss.mmm` of a stamp. -/
inductive Writes (t : Stamp) : List Char → Prop
  | intro {year month day hour minute second millis : List Char}
      (hyear : YearText t.day.year year) (hmonth : Digits 2 t.day.month month)
      (hday : Digits 2 t.day.day day) (hhour : Digits 2 t.hour hour)
      (hminute : Digits 2 t.minute minute) (hsecond : Digits 2 t.second second)
      (hmillis : Digits 3 t.millis millis) :
      Writes t (year ++ ('-' :: month) ++ ('-' :: day) ++ (' ' :: hour) ++ (':' :: minute)
        ++ (':' :: second) ++ ('.' :: millis))

/-! ## What a text says -/

theorem Digits.eq {n' : Nat} (h : Digits width n ds) (h' : Digits width n' ds) : n = n' :=
  h.value.symm.trans h'.value

/-- The first character of a year says whether it has a sign, and which. -/
theorem YearText.eq (h : YearText year ds) (h' : YearText year' ds) : year = year' := by
  cases h with
  | plain hlow _ h =>
      cases h' with
      | plain hlow' _ h' =>
          have hvalue := h.eq h'
          omega
      | signed hout _ _ _ =>
          have hsign := h.digits _ List.mem_cons_self
          rcases hout with ⟨_, rfl⟩ | ⟨_, rfl⟩
          · exact absurd hsign (by decide)
          · exact absurd hsign (by decide)
  | signed hout _ _ h =>
      cases h' with
      | plain _ _ h' =>
          have hsign := h'.digits _ List.mem_cons_self
          rcases hout with ⟨_, rfl⟩ | ⟨_, rfl⟩
          · exact absurd hsign (by decide)
          · exact absurd hsign (by decide)
      | signed hout' _ _ h' =>
          have hvalue := h.eq h'
          rcases hout with ⟨hneg, rfl⟩ | ⟨hpos, rfl⟩
          · rcases hout' with ⟨hneg', _⟩ | ⟨_, hsign⟩
            · omega
            · exact absurd hsign (by decide)
          · rcases hout' with ⟨_, hsign⟩ | ⟨hpos', _⟩
            · exact absurd hsign (by decide)
            · omega

/-- Behind a common sign, the last digits of two texts are the same. -/
theorem Digits.split {former former' : List Char} {mark : Char} {n' : Nat}
    (h : Digits width n ds) (h' : Digits width n' ds')
    (heq : former ++ (mark :: ds) = former' ++ (mark :: ds')) : former = former' ∧ n = n' := by
  have hlength : (mark :: ds).length = (mark :: ds').length := by
    rw [List.length_cons, List.length_cons, h.length, h'.length]
  obtain ⟨hformer, hlatter⟩ := List.append_inj' heq hlength
  obtain rfl := (List.cons.inj hlatter).2
  exact ⟨hformer, h.eq h'⟩

/-- A text says one stamp only. -/
theorem Writes.eq (h : t.Writes text) (h' : t'.Writes text) : t = t' := by
  obtain ⟨⟨year, month, day⟩, hour, minute, second, millis⟩ := t
  obtain ⟨⟨year', month', day'⟩, hour', minute', second', millis'⟩ := t'
  generalize htext : text = same at h'
  cases h with
  | intro hyear hmonth hday hhour hminute hsecond hmillis =>
      cases h' with
      | intro hyear' hmonth' hday' hhour' hminute' hsecond' hmillis' =>
          obtain ⟨htext, rfl⟩ := hmillis.split hmillis' htext
          obtain ⟨htext, rfl⟩ := hsecond.split hsecond' htext
          obtain ⟨htext, rfl⟩ := hminute.split hminute' htext
          obtain ⟨htext, rfl⟩ := hhour.split hhour' htext
          obtain ⟨htext, rfl⟩ := hday.split hday' htext
          obtain ⟨htext, rfl⟩ := hmonth.split hmonth' htext
          subst htext
          obtain rfl := hyear.eq hyear'
          rfl

end Stamp

/-- The text says the instant so many seconds from the start of 1970, and so many milliseconds. -/
def Denotes (text : String) (seconds : Int) (millis : Nat) : Prop :=
  ∃ t : Stamp, t.Valid ∧ t.Writes text.toList ∧ t.seconds = seconds ∧ t.millis = millis

/-- A text says one instant only. -/
theorem Denotes.eq {text : String} {seconds seconds' : Int} {millis millis' : Nat}
    (h : Denotes text seconds millis) (h' : Denotes text seconds' millis') :
    seconds = seconds' ∧ millis = millis' := by
  obtain ⟨t, _, hwrites, rfl, rfl⟩ := h
  obtain ⟨t', _, hwrites', rfl, rfl⟩ := h'
  rw [hwrites.eq hwrites']
  exact ⟨rfl, rfl⟩

namespace Instant

open Stamp (Digits YearText)

variable {i : Instant} {seconds : Int} {width n : Nat}

/-! ## The text of an instant -/

theorem padded_digits (n : Nat) : ∀ c ∈ padded width n, c.isDigit := by
  intro c hc
  rcases List.mem_append.mp hc with hzero | hdigit
  · rw [List.eq_of_mem_replicate hzero]
    rfl
  · exact Nat.isDigit_of_mem_toDigits (by decide) (by decide) hdigit

theorem ofDigitChars_padded (width n : Nat) : Nat.ofDigitChars 10 (padded width n) 0 = n := by
  rw [padded, Nat.ofDigitChars_append, Nat.ofDigitChars_replicate_zero, Nat.mul_zero,
    Nat.ofDigitChars_ten_toDigits]

theorem length_padded (width n : Nat) :
    (padded width n).length = max width (Nat.toDigits 10 n).length := by
  rw [padded, List.length_append, List.length_replicate]
  omega

/-- A natural that has no more digits is padded to just so many. -/
theorem digits_padded (hwidth : 0 < width) (h : n < Nat.pow 10 width) :
    Digits width n (padded width n) := by
  have hlength := (Nat.length_toDigits_le_iff (by decide) hwidth).mpr h
  refine ⟨padded_digits n, ?_, ofDigitChars_padded width n⟩
  rw [length_padded]
  exact Nat.max_eq_left hlength

/-- Only digits that are needed make a padded natural longer. -/
theorem pow_le_of_padded (hwidth : 0 < width) (h : width < (padded width n).length) :
    Nat.pow 10 ((padded width n).length - 1) ≤ n := by
  rw [length_padded] at h ⊢
  apply Nat.le_of_not_lt
  intro hlt
  have hle := (Nat.length_toDigits_le_iff (b := 10) (by decide) (by omega)).mpr hlt
  omega

theorem yearText_writes (year : Int) : YearText year (yearText year) := by
  rw [yearText]
  split
  · rename_i hplain
    have hlt : year.toNat < 10000 := by omega
    exact .plain hplain.1 hplain.2 (digits_padded (by decide) hlt)
  · rename_i hout
    refine .signed ?_ ?_ (pow_le_of_padded (by decide)) ?_
    · split <;> grind
    · rw [length_padded]
      exact Nat.le_max_left 4 _
    · exact ⟨padded_digits _, rfl, ofDigitChars_padded 4 _⟩

/-- The date and the time of an instant. -/
def stamp (i : Instant) : Stamp where
  day := i.day
  hour := (i.seconds % 86400).toNat / 3600
  minute := (i.seconds % 86400).toNat / 60 % 60
  second := (i.seconds % 86400).toNat % 60
  millis := i.millis

theorem stamp_valid (h : i.millis < 1000) : i.stamp.Valid := by
  refine ⟨(Day.number_ofNumber _).1, ?_, ?_, ?_, h⟩
  · simp only [stamp]
    omega
  · exact Nat.mod_lt _ (by decide)
  · exact Nat.mod_lt _ (by decide)

theorem seconds_stamp (i : Instant) : i.stamp.seconds = i.seconds := by
  have hnumber : i.day.number = i.seconds / 86400 := (Day.number_ofNumber _).2
  simp only [Stamp.seconds, stamp, hnumber]
  omega

theorem stamp_writes (h : i.millis < 1000) : i.stamp.Writes i.text := by
  obtain ⟨⟨_, hmonth, _, hday⟩, hhour, hminute, hsecond, _⟩ := stamp_valid h
  have hlength : Day.monthLength i.stamp.day.year i.stamp.day.month ≤ 31 := by
    unfold Day.monthLength
    split <;> grind
  refine .intro (yearText_writes _) ?_ ?_ ?_ ?_ ?_ ?_
  all_goals
    apply digits_padded (by decide)
    simp only [Nat.pow]
  · exact hmonth.trans_lt (by decide)
  · exact (hday.trans hlength).trans_lt (by decide)
  · exact hhour.trans (by decide)
  · exact hminute.trans (by decide)
  · exact hsecond.trans (by decide)
  · exact h

theorem display_denotes (h : i.millis < 1000) : Denotes i.display i.seconds i.millis := by
  refine ⟨i.stamp, stamp_valid h, ?_, seconds_stamp i, rfl⟩
  rw [display, String.toList_ofList]
  exact stamp_writes h

/-! ## The years that can be shown -/

/-- The first second of the years that can be shown, which are those from -262143 to 262142. -/
def firstSecond : Int :=
  Day.firstOf (-262143) * 86400

/-- The first second behind the years that can be shown. -/
def endSecond : Int :=
  Day.firstOf 262143 * 86400

/-- The seconds of the years that can be shown. -/
def InYears (seconds : Int) : Prop :=
  firstSecond ≤ seconds ∧ seconds < endSecond

instance (seconds : Int) : Decidable (InYears seconds) :=
  inferInstanceAs (Decidable (_ ∧ _))

theorem inYears_iff (i : Instant) :
    InYears i.seconds ↔ firstYear ≤ i.day.year ∧ i.day.year ≤ lastYear := by
  obtain ⟨hvalid, hnumber⟩ := Day.number_ofNumber (i.seconds / 86400)
  have hfirst := hvalid.le_year_iff (-262143)
  have hlast := hvalid.le_year_iff 262143
  rw [hnumber] at hfirst hlast
  have hend : i.day.year ≤ lastYear ↔ ¬ 262143 ≤ i.day.year := by
    rw [lastYear]
    omega
  rw [hend, day, firstYear, hfirst, hlast, InYears, firstSecond, endSecond]
  omega

/-- What is shown of an instant that lies outside of those years. -/
def fallback : String :=
  "1970-01-01 00:00:00.000"

theorem display_epoch : epoch.display = fallback := by
  decide +kernel

theorem fallback_denotes : Denotes fallback 0 0 := by
  rw [← display_epoch]
  exact display_denotes (by decide)

end Instant

/-! ## Durations -/

namespace Duration

/-- The seconds of a duration, read as a number with a sign. -/
def signedSeconds (d : Duration) : Int :=
  d.seconds.toInt64.toInt

/-- The nanoseconds from the start of 1970 to the instant of a duration. -/
def nanosSinceEpoch (d : Duration) : Int :=
  d.signedSeconds * 1000000000 + d.nanos

theorem signedSeconds_eq_bmod (d : Duration) :
    d.signedSeconds = Int.bmod d.seconds.toNat UInt64.size :=
  BitVec.toInt_eq_toNat_bmod d.seconds.toBitVec

/-- The upper half of the seconds is taken for seconds before 1970. -/
theorem signedSeconds_eq (seconds : UInt64) (nanos : Nat) :
    signedSeconds ⟨seconds, nanos⟩ = seconds.toNat ∧ seconds.toNat < 0x8000000000000000 ∨
      signedSeconds ⟨seconds, nanos⟩ = seconds.toNat - (UInt64.size : Int) ∧
        0x8000000000000000 ≤ seconds.toNat := by
  have hlt := seconds.toNat_lt
  rw [signedSeconds_eq_bmod, Int.bmod_def]
  simp only [UInt64.size]
  split <;> omega

/-- Nanoseconds beyond a second carry over, as far as 64 bits go. -/
theorem ofParts?_eq_some {seconds : UInt64} {nanos : UInt32} {d : Duration} :
    ofParts? seconds nanos = some d ↔
      d.seconds.toNat = seconds.toNat + nanos.toNat / nanosPerSecond ∧
        d.nanos = nanos.toNat % nanosPerSecond := by
  rw [ofParts?]
  split
  · rename_i hfits
    rw [Option.some.injEq]
    constructor
    · rintro rfl
      exact ⟨UInt64.toNat_ofNat_of_lt' hfits, rfl⟩
    · rintro ⟨hseconds, hnanos⟩
      obtain ⟨total, rest⟩ := d
      simp only at hseconds hnanos
      rw [← hseconds, ← hnanos]
      simp
  · rename_i hover
    constructor
    · intro h
      cases h
    · rintro ⟨hseconds, _⟩
      exact absurd (hseconds ▸ d.seconds.toNat_lt) hover

end Duration

namespace Instant

open Duration

theorem ofDuration_eq (d : Duration) :
    ofDuration d =
      if InYears d.signedSeconds then ⟨d.signedSeconds, d.nanos / nanosPerMilli⟩ else epoch := by
  have hyears := inYears_iff ⟨d.signedSeconds, d.nanos / nanosPerMilli⟩
  simp only [ofDuration, ← d.signedSeconds_eq_bmod]
  simp only at hyears
  simp only [hyears]

theorem display_of_inYears {d : Duration} (hnanos : d.nanos < nanosPerSecond)
    (h : InYears d.signedSeconds) :
    Denotes (ofDuration d).display d.signedSeconds (d.nanos / nanosPerMilli) := by
  rw [ofDuration_eq, if_pos h]
  apply display_denotes
  simp only [nanosPerMilli, nanosPerSecond] at *
  omega

theorem display_of_not_inYears {d : Duration} (h : ¬ InYears d.signedSeconds) :
    (ofDuration d).display = fallback := by
  rw [ofDuration_eq, if_neg h]
  exact display_epoch

/-- A duration that exists is shown as the instant of its seconds, read as a number of 64 bits with
a sign and cut to the millisecond, if that lies in the years that can be shown, and otherwise as the
start of 1970.  Instants in those years that are a millisecond or more apart are shown
differently. -/
theorem display_ofDuration (seconds : UInt64) (nanos : UInt32)
    (hfits : seconds.toNat + nanos.toNat / 1000000000 < UInt64.size) :
    ∃ d, ofParts? seconds nanos = some d ∧
      d.seconds.toNat = seconds.toNat + nanos.toNat / 1000000000 ∧
      d.nanos = nanos.toNat % 1000000000 ∧
      (InYears d.signedSeconds →
        Denotes (ofDuration d).display d.signedSeconds (d.nanos / 1000000)) ∧
      (¬ InYears d.signedSeconds → (ofDuration d).display = fallback) ∧
      ∀ seconds' nanos' d', ofParts? seconds' nanos' = some d' → InYears d.signedSeconds →
        InYears d'.signedSeconds →
        1000000 ≤ (d.nanosSinceEpoch - d'.nanosSinceEpoch).natAbs →
        (ofDuration d).display ≠ (ofDuration d').display := by
  have hparts : ofParts? seconds nanos = some
      ⟨(seconds.toNat + nanos.toNat / nanosPerSecond).toUInt64, nanos.toNat % nanosPerSecond⟩ :=
    if_pos hfits
  obtain ⟨hseconds, hnanos⟩ := ofParts?_eq_some.mp hparts
  have hlt : nanos.toNat % nanosPerSecond < nanosPerSecond := Nat.mod_lt _ (by decide)
  refine ⟨_, hparts, hseconds, hnanos, display_of_inYears hlt, display_of_not_inYears, ?_⟩
  intro seconds' nanos' d' hparts' hin hin' hapart hsame
  have hlt' : d'.nanos < nanosPerSecond := by
    rw [(ofParts?_eq_some.mp hparts').2]
    exact Nat.mod_lt _ (by decide)
  have hshown := display_of_inYears hlt hin
  rw [hsame] at hshown
  obtain ⟨hsigned, hmillis⟩ := hshown.eq (display_of_inYears hlt' hin')
  simp only [nanosSinceEpoch, hsigned] at hapart
  simp only [nanosPerMilli] at hmillis
  omega

/-- A second before the first of January of year zero, with nanoseconds that carry over. -/
theorem display_ofDuration_negative :
    (0xFFFFFFF1868B83FC : UInt64).toNat + (3999999999 : UInt32).toNat / 1000000000 <
        UInt64.size ∧
      ∃ d, ofParts? 0xFFFFFFF1868B83FC 3999999999 = some d ∧ InYears d.signedSeconds ∧
        Denotes (ofDuration d).display (-62167219201) 999 ∧
        (ofDuration d).display = "-0001-12-31 23:59:59.999" := by
  have hfits : (0xFFFFFFF1868B83FC : UInt64).toNat + (3999999999 : UInt32).toNat / 1000000000 <
      UInt64.size := by
    decide
  refine ⟨hfits, ?_⟩
  obtain ⟨d, hparts, _, _, hshown, _⟩ := display_ofDuration 0xFFFFFFF1868B83FC 3999999999 hfits
  obtain rfl : ⟨0xFFFFFFF1868B83FF, 999999999⟩ = d := Option.some.inj hparts
  have hin : InYears (signedSeconds ⟨0xFFFFFFF1868B83FF, 999999999⟩) := by decide
  exact ⟨_, hparts, hin, hshown hin, by decide +kernel⟩

/-! ## Seconds without a sign -/

theorem firstSecond_eq : firstSecond = -8334601228800 :=
  rfl

theorem endSecond_eq : endSecond = 8210266876800 :=
  rfl

theorem display_ofSeconds_of_inYears {seconds : UInt64} {signed : Int}
    (hsigned : signedSeconds ⟨seconds, 0⟩ = signed) (h : InYears signed) :
    Denotes (ofSeconds seconds).display signed 0 := by
  have hshown := display_of_inYears (d := ⟨seconds, 0⟩) (Nat.zero_lt_succ _) (hsigned ▸ h)
  simp only [hsigned, Nat.zero_div] at hshown
  exact hshown

theorem display_ofSeconds_of_lt {seconds : UInt64} (h : (seconds.toNat : Int) < endSecond) :
    Denotes (ofSeconds seconds).display seconds.toNat 0 := by
  rcases signedSeconds_eq seconds 0 with ⟨hsigned, _⟩ | ⟨_, hbeyond⟩
  · apply display_ofSeconds_of_inYears hsigned
    rw [InYears, firstSecond_eq]
    omega
  · rw [endSecond_eq] at h
    omega

/-- Seconds that run over the sign are shown as so many seconds before 1970 as they lack. -/
theorem display_of_overrun {seconds : UInt64}
    (h : UInt64.size + firstSecond ≤ (seconds.toNat : Int)) :
    (seconds.toNat - UInt64.size : Int) < 0 ∧
      Denotes (ofSeconds seconds).display (seconds.toNat - UInt64.size) 0 := by
  have hlt := seconds.toNat_lt
  rw [firstSecond_eq] at h
  rcases signedSeconds_eq seconds 0 with ⟨_, hbelow⟩ | ⟨hsigned, _⟩
  · simp only [UInt64.size] at h
    omega
  · refine ⟨?_, display_ofSeconds_of_inYears hsigned ?_⟩
    · simp only [UInt64.size]
      omega
    · rw [InYears, firstSecond_eq, endSecond_eq]
      simp only [UInt64.size] at h ⊢
      omega

theorem display_wrong_of_overrun {seconds : UInt64}
    (h : UInt64.size + firstSecond ≤ (seconds.toNat : Int)) :
    ¬ (Denotes (ofSeconds seconds).display seconds.toNat 0 ∨
      (ofSeconds seconds).display = fallback) := by
  obtain ⟨hneg, hshown⟩ := display_of_overrun h
  intro hright
  rcases hright with hexact | hfallback
  · have heq := (hshown.eq hexact).1
    simp only [UInt64.size] at heq
    omega
  · rw [hfallback] at hshown
    have heq := (hshown.eq fallback_denotes).1
    omega

/-- Seconds are shown as what they are, or as the start of 1970, exactly as long as they do not run
over the sign; those that do are shown as an instant before 1970. -/
theorem display_ofSeconds (seconds : UInt64) :
    (Denotes (ofSeconds seconds).display seconds.toNat 0 ∨
        (ofSeconds seconds).display = fallback ↔
      (seconds.toNat : Int) < UInt64.size + firstSecond) ∧
    ((seconds.toNat : Int) < endSecond →
      Denotes (ofSeconds seconds).display seconds.toNat 0) ∧
    (UInt64.size + firstSecond ≤ (seconds.toNat : Int) →
      (seconds.toNat - UInt64.size : Int) < 0 ∧
        Denotes (ofSeconds seconds).display (seconds.toNat - UInt64.size) 0) := by
  refine ⟨⟨?_, ?_⟩, display_ofSeconds_of_lt, display_of_overrun⟩
  · intro hright
    apply Int.not_le.mp
    intro hover
    exact display_wrong_of_overrun hover hright
  · intro hbelow
    rcases Int.lt_or_le seconds.toNat endSecond with hlt | hge
    · exact Or.inl (display_ofSeconds_of_lt hlt)
    · right
      apply display_of_not_inYears
      intro hin
      rw [InYears] at hin
      rcases signedSeconds_eq seconds 0 with ⟨hsigned, _⟩ | ⟨hsigned, _⟩
      · omega
      · omega

theorem display_ofSeconds_last :
    ((1700000000 : UInt64).toNat : Int) < endSecond ∧
      Denotes (ofSeconds 1700000000).display (1700000000 : UInt64).toNat 0 ∧
      (UInt64.size : Int) + firstSecond ≤ (0xFFFFFFFFFFFFFFFF : UInt64).toNat ∧
      Denotes (ofSeconds 0xFFFFFFFFFFFFFFFF).display (-1) 0 := by
  have hbelow : ((1700000000 : UInt64).toNat : Int) < endSecond := by
    decide
  have hover : (UInt64.size : Int) + firstSecond ≤ (0xFFFFFFFFFFFFFFFF : UInt64).toNat := by
    decide
  exact ⟨hbelow, (display_ofSeconds 1700000000).2.1 hbelow, hover,
    ((display_ofSeconds 0xFFFFFFFFFFFFFFFF).2.2 hover).2⟩

/-- The largest number of seconds is shown as the last second of 1969. -/
theorem display_ofSeconds_wrong :
    (ofSeconds 0xFFFFFFFFFFFFFFFF).display = "1969-12-31 23:59:59.000" ∧
      ¬ (Denotes (ofSeconds 0xFFFFFFFFFFFFFFFF).display (0xFFFFFFFFFFFFFFFF : UInt64).toNat 0 ∨
        (ofSeconds 0xFFFFFFFFFFFFFFFF).display = fallback) :=
  ⟨by decide +kernel, display_wrong_of_overrun (by decide)⟩

end Instant

end TraceArchive
