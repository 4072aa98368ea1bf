import Mathlib.Algebra.Group.Nat.Defs
import TraceArchive.Number.Double
/-!
Ranks of ratios.  The nearest rank depends on the ratio alone, and the magnitude of a rank has that
rank.
-/

namespace TraceArchive

namespace Double

theorem roundDiv_mul_right (num den : Nat) {k : Nat} (hk : 0 < k) :
    roundDiv (num * k) (den * k) = roundDiv num den := by
  have hdouble (r : Nat) : 2 * (r * k) = 2 * r * k := (Nat.mul_assoc 2 r k).symm
  simp only [roundDiv, Nat.mul_div_mul_right _ _ hk, Nat.mul_mod_mul_right, hdouble,
    Nat.mul_lt_mul_right hk]

/-- A multiple is rounded to its factor. -/
theorem roundDiv_mul_self (n : Nat) {den : Nat} (hden : 0 < den) : roundDiv (n * den) den = n := by
  simp [roundDiv, Nat.mul_div_cancel n hden, hden]

/-- A ratio in other terms has the same rank. -/
theorem rankOfRatio_mul_right (num den : Nat) {k : Nat} (hk : 0 < k) :
    rankOfRatio (num * k) (den * k) = rankOfRatio num den := by
  have hnum (m : Nat) : num * k * m = num * m * k := Nat.mul_right_comm num k m
  have hden (m : Nat) : den * k * m = den * m * k := Nat.mul_right_comm den k m
  simp only [rankOfRatio, hnum, hden, Nat.mul_div_mul_right _ _ hk, roundDiv_mul_right _ _ hk]

/-- A magnitude by its mantissa and its scale: the mantissa is below `2 ^ 53`, and at least `2 ^ 52`
above the lowest two binades. -/
theorem exists_mantissa (rank : Nat) :
    ∃ mantissa scale, unitsOfRank rank = mantissa * 2 ^ scale ∧
      scale * binade + mantissa = rank ∧ mantissa < 2 * binade ∧
      (0 < scale → binade ≤ mantissa) := by
  refine ⟨_, scaleOfRank rank, rfl, ?_⟩
  have hdiv := Nat.div_add_mod rank binade
  have hmod : rank % binade < binade := Nat.mod_lt rank (by decide)
  simp only [scaleOfRank]
  generalize rank / binade = q at *
  generalize rank % binade = r at *
  simp only [binade] at *
  cases q with
  | zero => omega
  | succ q => omega

theorem log2_mul_two_pow {m n : Nat} (hm : m ≠ 0) : Nat.log2 (m * 2 ^ n) = Nat.log2 m + n := by
  induction n with
  | zero => simp
  | succ n ih =>
    have hne : m * 2 ^ n ≠ 0 := Nat.mul_ne_zero hm (Nat.ne_of_gt (Nat.two_pow_pos n))
    rw [Nat.pow_succ, ← Nat.mul_assoc, Nat.mul_comm _ 2, Nat.log2_two_mul hne, ih, Nat.add_assoc]

theorem log2_mantissa {m : Nat} (hlow : binade ≤ m) (hhigh : m < 2 * binade) : Nat.log2 m = 52 := by
  rw [Nat.log2_eq_iff (by omega)]
  simp only [binade] at *
  omega

theorem unit_pos : 0 < Nat.pow 2 1074 := by
  apply Nat.two_pow_pos

/-- The magnitude of a rank has that rank. -/
theorem rankOfRatio_unitsOfRank (rank : Nat) :
    rankOfRatio (unitsOfRank rank) (Nat.pow 2 1074) = rank := by
  have hunit := unit_pos
  obtain ⟨mantissa, scale, hunits, hrank, hhigh, hlow⟩ := exists_mantissa rank
  rw [hunits]
  simp only [rankOfRatio]
  generalize Nat.pow 2 1074 = unit at hunit ⊢
  rw [Nat.mul_div_cancel _ hunit, Nat.pow_eq]
  have hscale : (if mantissa * 2 ^ scale < 2 * binade then 0
      else Nat.log2 (mantissa * 2 ^ scale) - 52) = scale := by
    cases scale with
    | zero => simp [hhigh]
    | succ scale =>
        have hbinade := hlow (Nat.succ_pos scale)
        have hlarge : ¬ mantissa * 2 ^ (scale + 1) < 2 * binade := by
          rw [Nat.not_lt, Nat.mul_comm 2]
          exact Nat.mul_le_mul hbinade (Nat.le_self_pow (Nat.succ_ne_zero scale) 2)
        have hmantissa : mantissa ≠ 0 := by
          simp only [binade] at hbinade
          omega
        rw [if_neg hlarge, log2_mul_two_pow hmantissa, log2_mantissa hbinade hhigh]
        omega
  have hcross : mantissa * 2 ^ scale * unit = mantissa * (unit * 2 ^ scale) := by
    rw [Nat.mul_assoc, Nat.mul_comm unit]
  rw [hscale, hcross, roundDiv_mul_self _ (Nat.mul_pos hunit (Nat.two_pow_pos scale)), hrank]

end Double

end TraceArchive
