import Mathlib.Order.Monotone.Basic
import Mathlib.Order.SuccPred.Basic
import Mathlib.Tactic.IntervalCases
import TraceArchive.Calendar.Instant
/-!
Numbers of days and their dates.  The date of a number is valid and has that number, in every cycle
of 400 years; and a year is no later than the year of a date exactly if its first day is no later
than the date.
-/

namespace TraceArchive

namespace Day

variable {year : Nat} {dayOfYear : Nat}

/-! ## Years and months -/

/-- The days of a year. -/
def yearLength (year : Int) : Nat :=
  if isLeap year then 366 else 365

theorem yearLength_le (year : Int) : yearLength year ≤ 366 := by
  unfold yearLength
  split <;> omega

/-- A year begins when the year before it is over. -/
theorem daysBeforeYear_succ (year : Int) :
    daysBeforeYear (year + 1) = daysBeforeYear year + yearLength year := by
  simp only [daysBeforeYear, yearLength, isLeap, Bool.and_eq_true, Bool.or_eq_true,
    decide_eq_true_eq]
  split <;> omega

theorem daysBeforeMonth_succ {month : Nat} (h : 1 ≤ month) (year : Int) :
    daysBeforeMonth year (month + 1) = daysBeforeMonth year month + monthLength year month := by
  obtain ⟨month, rfl⟩ := Nat.exists_eq_add_of_le' h
  rfl

theorem daysBeforeMonth_mono (year : Int) : Monotone (daysBeforeMonth year) := by
  apply monotone_nat_of_le_succ
  intro month
  rcases Nat.eq_zero_or_pos month with rfl | hpos
  · exact Nat.le_refl _
  · rw [daysBeforeMonth_succ hpos]
    exact Nat.le_add_right _ _

/-- The months make up the year. -/
theorem daysBeforeMonth_thirteen (year : Int) : daysBeforeMonth year 13 = yearLength year := by
  simp only [daysBeforeMonth, monthLength, yearLength]
  split <;> rfl

/-- The days from the first of January 1970 to the first of March of a year. -/
def march (year : Int) : Int :=
  365 * year + year / 4 - year / 100 + year / 400 - 719468

theorem march_eq (year : Int) :
    march year = daysBeforeYear year - daysBeforeYear 1970 + 31 + monthLength year 2 := by
  simp only [march, daysBeforeYear, monthLength, isLeap, Bool.and_eq_true, Bool.or_eq_true,
    decide_eq_true_eq]
  split <;> omega

theorem march_succ (year : Int) : march (year + 1) = march year + yearLength (year + 1) := by
  simp only [march, yearLength, isLeap, Bool.and_eq_true, Bool.or_eq_true, decide_eq_true_eq]
  split <;> omega

/-- From March on, five months have 153 days, whatever the year. -/
theorem number_of_march_le (year : Int) {month : Nat} (hlow : 3 ≤ month) (hhigh : month ≤ 12)
    (day : Nat) :
    number ⟨year, month, day⟩ = march year + ((153 * (month - 3) + 2) / 5 : Nat) + (day - 1) := by
  rw [march_eq, number]
  interval_cases month <;> simp [daysBeforeMonth, monthLength] <;> omega

theorem number_of_le_february (year : Int) {month : Nat} (hlow : 1 ≤ month) (hhigh : month ≤ 2)
    (day : Nat) :
    number ⟨year + 1, month, day⟩ =
      march year + ((153 * (month + 9) + 2) / 5 : Nat) + (day - 1) := by
  rw [march_eq, number, daysBeforeYear_succ]
  simp only [yearLength, monthLength]
  interval_cases month <;> simp only [daysBeforeMonth, monthLength] <;> split <;> omega

/-- The date so many days after the first of March of a year. -/
def ofMarch (year : Int) (dayOfYear : Nat) : Day :=
  let monthFromMarch := (5 * dayOfYear + 2) / 153
  let month := if monthFromMarch < 10 then monthFromMarch + 3 else monthFromMarch - 9
  ⟨year + (if month ≤ 2 then 1 else 0), month, dayOfYear - (153 * monthFromMarch + 2) / 5 + 1⟩

theorem ofMarch_of_lt (h : dayOfYear < 306) (year : Int) :
    ofMarch year dayOfYear = ⟨year, (5 * dayOfYear + 2) / 153 + 3,
      dayOfYear - (153 * ((5 * dayOfYear + 2) / 153) + 2) / 5 + 1⟩ := by
  have hten : (5 * dayOfYear + 2) / 153 < 10 := by omega
  simp [ofMarch, hten]

theorem ofMarch_of_le (h : 306 ≤ dayOfYear) (hlast : dayOfYear < 366) (year : Int) :
    ofMarch year dayOfYear = ⟨year + 1, (5 * dayOfYear + 2) / 153 - 9,
      dayOfYear - (153 * ((5 * dayOfYear + 2) / 153) + 2) / 5 + 1⟩ := by
  have hten : ¬ (5 * dayOfYear + 2) / 153 < 10 := by omega
  have htwo : (5 * dayOfYear + 2) / 153 ≤ 11 := by omega
  simp [ofMarch, hten, htwo]

theorem number_ofMarch (h : dayOfYear < 366) (year : Int) :
    (ofMarch year dayOfYear).number = march year + dayOfYear := by
  rcases Nat.lt_or_ge dayOfYear 306 with hlt | hge
  · rw [ofMarch_of_lt hlt, number_of_march_le year (by omega) (by omega)]
    omega
  · rw [ofMarch_of_le hge h, number_of_le_february year (by omega) (by omega)]
    omega

/-- The last of February is a day of the year that begins before the next March. -/
theorem ofMarch_valid {year : Int} (h : dayOfYear < yearLength (year + 1)) :
    (ofMarch year dayOfYear).Valid := by
  have hlast : dayOfYear < 366 := h.trans_le (yearLength_le (year + 1))
  rcases Nat.lt_or_ge dayOfYear 306 with hlt | hge
  · rw [ofMarch_of_lt hlt]
    generalize hmonth : (5 * dayOfYear + 2) / 153 = month
    have hhigh : month < 10 := by omega
    refine ⟨by simp only; omega, by simp only; omega, by simp only; omega, ?_⟩
    simp only
    interval_cases month <;> simp only [monthLength] <;> omega
  · rw [ofMarch_of_le hge hlast]
    generalize hmonth : (5 * dayOfYear + 2) / 153 = month
    have hlow : 10 ≤ month := by omega
    have hhigh : month < 12 := by omega
    refine ⟨by simp only; omega, by simp only; omega, by simp only; omega, ?_⟩
    unfold yearLength at h
    simp only
    interval_cases month
    · simp only [monthLength]
      omega
    · simp only [monthLength]
      -- the leap day lengthens February as it lengthens the year
      split at h
      · rename_i hleap
        rw [if_pos hleap]
        omega
      · rename_i hcommon
        rw [if_neg hcommon]
        omega

/-! ## Cycles of 400 years -/

/-- The days of a cycle before one of its years. -/
def yearStart (year : Nat) : Nat :=
  365 * year + year / 4 - year / 100 + year / 400

theorem yearStart_eq (h : year < 400) : yearStart year = 365 * year + year / 4 - year / 100 := by
  rw [yearStart, Nat.div_eq_of_lt h, Nat.add_zero]

theorem march_cycle (cycle : Int) (h : year ≤ 400) :
    march (cycle * 400 + year) = cycle * 146097 + yearStart year - 719468 := by
  simp only [march, yearStart]
  omega

/-- A day of a cycle, the leap days before it left out. -/
def evened (day : Nat) : Nat :=
  day - day / 1460 + day / 36524 - day / 146096

theorem evened_mono : Monotone evened := by
  apply monotone_nat_of_le_succ
  intro day
  unfold evened
  omega

theorem evened_yearStart (h : year < 400) : evened (yearStart year) = 365 * year := by
  have hfour : yearStart year / 1460 = year / 4 := by
    rw [yearStart_eq h]
    omega
  have hcentury : yearStart year / 36524 = year / 100 := by
    rw [yearStart_eq h]
    omega
  rw [evened, hfour, hcentury, yearStart_eq h]
  omega

/-- The last day of a year is not left out. -/
theorem evened_pred_yearStart (hpos : 0 < year) (h : year < 400) :
    evened (yearStart year - 1) < 365 * year := by
  have hfour : (yearStart year - 1) / 1460 = year / 4 := by
    rw [yearStart_eq h]
    omega
  have hcentury : (yearStart year - 1) / 36524 ≤ year / 100 := by
    rw [yearStart_eq h]
    omega
  rw [evened, hfour]
  rw [yearStart_eq h] at *
  omega

/-- A day of a cycle lies in the year that the days before it make up. -/
theorem yearOfCycle_spec {day : Nat} (h : day < 146097) :
    evened day / 365 < 400 ∧ yearStart (evened day / 365) ≤ day ∧
      day < yearStart (evened day / 365 + 1) := by
  have hlast : evened day ≤ evened 146096 := evened_mono (Nat.le_of_lt_succ h)
  have hlt : evened day / 365 < 400 := by
    have hend : evened 146096 = 145999 := by decide
    omega
  refine ⟨hlt, ?_, ?_⟩
  · by_contra hbefore
    have hpos : 0 < evened day / 365 := by
      apply Nat.pos_of_ne_zero
      intro hzero
      rw [hzero] at hbefore
      exact hbefore (Nat.zero_le day)
    have hle := evened_mono (Nat.le_sub_one_of_lt (Nat.lt_of_not_le hbefore))
    have hless := evened_pred_yearStart hpos hlt
    omega
  · by_contra hafter
    have hnext : evened day / 365 + 1 < 400 := by
      by_contra hover
      have hyear : evened day / 365 + 1 = 400 := by omega
      rw [hyear] at hafter
      exact hafter h
    have hle := evened_mono (Nat.le_of_not_lt hafter)
    rw [evened_yearStart hnext] at hle
    omega

/-! ## Numbers and dates -/

/-- A number of days is a year that begins in March, and days since then. -/
theorem exists_ofMarch (days : Int) :
    ∃ year, ∃ dayOfYear : Nat, dayOfYear < yearLength (year + 1) ∧ march year + dayOfYear = days ∧
      ofNumber days = ofMarch year dayOfYear := by
  generalize hcycle : (days + 719468) / 146097 = cycle
  generalize hday : ((days + 719468) % 146097).toNat = day
  have hdays : days = cycle * 146097 + day - 719468 := by omega
  obtain ⟨hyear, hstart, hend⟩ := yearOfCycle_spec (by omega : day < 146097)
  have heq : ofNumber days = ofMarch (cycle * 400 + (evened day / 365 : Nat))
      (day - (365 * (evened day / 365) + evened day / 365 / 4 - evened day / 365 / 100)) := by
    rw [← hcycle, ← hday]
    rfl
  generalize evened day / 365 = year at hyear hstart hend heq
  rw [← yearStart_eq hyear] at heq
  have hfirst := march_cycle cycle (Nat.le_of_lt hyear)
  have hnext := march_cycle cycle (by omega : year + 1 ≤ 400)
  have hsucc := march_succ (cycle * 400 + year)
  rw [Nat.cast_add, Nat.cast_one, ← add_assoc] at hnext
  refine ⟨cycle * 400 + year, day - yearStart year, ?_, ?_, heq⟩
  · omega
  · omega

/-- The date of a number of days is valid, and has that number. -/
theorem number_ofNumber (days : Int) : (ofNumber days).Valid ∧ (ofNumber days).number = days := by
  obtain ⟨year, dayOfYear, hlt, hdays, heq⟩ := exists_ofMarch days
  have hlast : dayOfYear < 366 := hlt.trans_le (yearLength_le (year + 1))
  rw [heq]
  exact ⟨ofMarch_valid hlt, (number_ofMarch hlast year).trans hdays⟩

/-- The number of the first of January of a year. -/
def firstOf (year : Int) : Int :=
  number ⟨year, 1, 1⟩

theorem firstOf_eq (year : Int) : firstOf year = daysBeforeYear year - daysBeforeYear 1970 := by
  simp [firstOf, number, daysBeforeMonth]

/-- Later years begin on later days. -/
theorem firstOf_le {former latter : Int} (h : former ≤ latter) :
    firstOf former ≤ firstOf latter := by
  suffices hmono : Monotone firstOf from hmono h
  apply monotone_int_of_le_succ
  intro year
  rw [firstOf_eq, firstOf_eq, daysBeforeYear_succ]
  omega

/-- A valid date lies between the first day of its year and that of the next. -/
theorem Valid.within_year {d : Day} (h : d.Valid) :
    firstOf d.year ≤ d.number ∧ d.number < firstOf (d.year + 1) := by
  obtain ⟨hmonth, hhigh, hday, hlast⟩ := h
  have hover : daysBeforeMonth d.year (d.month + 1) ≤ yearLength d.year := by
    rw [← daysBeforeMonth_thirteen]
    exact daysBeforeMonth_mono d.year (Nat.succ_le_succ hhigh)
  rw [daysBeforeMonth_succ hmonth] at hover
  rw [firstOf_eq, firstOf_eq, daysBeforeYear_succ, number]
  omega

theorem Valid.le_year_iff {d : Day} (h : d.Valid) (year : Int) :
    year ≤ d.year ↔ firstOf year ≤ d.number := by
  obtain ⟨hfirst, hnext⟩ := h.within_year
  constructor
  · intro hle
    exact (firstOf_le hle).trans hfirst
  · intro hle
    by_contra hlater
    have hless := firstOf_le (Int.add_one_le_of_lt (Int.not_le.mp hlater))
    omega

end Day

end TraceArchive
