import Mathlib.Tactic.SplitIfs
import TraceArchive.Number.Decimal
import TraceArchive.Proofs.Number.Rank
/-!
Shortest decimals.  The rank of a decimal depends on its value alone, so zeros may be added to its
coefficient or taken away; and the decimal chosen for a rank has that rank.
-/

namespace TraceArchive

namespace Decimal

variable {coefficient : Nat} {exponent : Int}

theorem width_le_iff {n k : Nat} (hk : 0 < k) : width n ≤ k ↔ n < Nat.pow 10 k :=
  Nat.length_toDigits_le_iff (by decide) hk

theorem toDigits_mul_ten {n : Nat} (hn : 0 < n) :
    Nat.toDigits 10 (n * 10) = Nat.toDigits 10 n ++ ['0'] := by
  have happend := Nat.toDigits_append_toDigits (b := 10) (d := 0) (by decide) hn (by decide)
  rw [← Nat.mul_comm 10 n, ← Nat.add_zero (10 * n), ← happend, Nat.toDigits_zero]

theorem width_mul_ten_pow (hn : 0 < coefficient) (k : Nat) :
    width (coefficient * 10 ^ k) = width coefficient + k := by
  induction k with
  | zero => simp
  | succ k ih =>
      have hpos : 0 < coefficient * 10 ^ k := Nat.mul_pos hn (Nat.pow_pos (by decide))
      rw [Nat.pow_succ, ← Nat.mul_assoc, width, toDigits_mul_ten hpos, List.length_append, ← width,
        ih]
      rfl

/-- Zeros behind the coefficient change nothing if the exponent makes up for them. -/
theorem rank_mul_ten_pow (coefficient k : Nat) (exponent : Int) :
    rank ⟨coefficient * 10 ^ k, exponent - k⟩ = rank ⟨coefficient, exponent⟩ := by
  rcases Nat.eq_zero_or_pos coefficient with rfl | hpos
  · simp [rank]
  have hten : 0 < 10 ^ k := Nat.pow_pos (by decide)
  have hscaled : coefficient * 10 ^ k ≠ 0 := Nat.ne_of_gt (Nat.mul_pos hpos hten)
  have hplace : exponent - k + (width (coefficient * 10 ^ k) : Nat) =
      exponent + (width coefficient : Nat) := by
    rw [width_mul_ten_pow hpos]
    omega
  simp only [rank, hscaled, Nat.ne_of_gt hpos, ↓reduceIte, hplace, Nat.pow_eq]
  congr 2
  by_cases hlow : 0 ≤ exponent - k
  · have hhigh : 0 ≤ exponent := by omega
    have hexp : exponent.toNat = k + (exponent - k).toNat := by omega
    rw [if_pos hlow, if_pos hhigh, hexp, Nat.pow_add, Nat.mul_assoc]
  · rw [if_neg hlow]
    by_cases hhigh : 0 ≤ exponent
    · have hexp : k = exponent.toNat + (-(exponent - k)).toNat := by omega
      rw [if_pos hhigh, ← Double.rankOfRatio_mul_right _ 1 (k := 10 ^ (-(exponent - k)).toNat)
        (Nat.pow_pos (by decide)), Nat.one_mul, Nat.mul_assoc, ← Nat.pow_add, ← hexp]
    · have hexp : (-(exponent - k)).toNat = (-exponent).toNat + k := by omega
      rw [if_neg hhigh, hexp, Nat.pow_add, Double.rankOfRatio_mul_right _ _ hten]

theorem coefficient_ne_zero {d : Decimal} (hpos : 0 < d.rank) : d.coefficient ≠ 0 := by
  intro hzero
  simp [rank, hzero] at hpos

/-! ## The decimal chosen for a rank -/

/-- The magnitudes of the ranks in all binades up to a scale. -/
theorem units_range {rank scale : Nat} (hpos : 0 < rank)
    (hfinite : rank < (scale + 2) * Double.binade) :
    0 < Double.unitsOfRank rank ∧
      Double.unitsOfRank rank < 2 * Double.binade * Nat.pow 2 scale := by
  obtain ⟨mantissa, own, hunits, hrank, hhigh, hlow⟩ := Double.exists_mantissa rank
  have hown : own ≤ scale := by
    rcases Nat.eq_zero_or_pos own with rfl | hpositive
    · exact Nat.zero_le scale
    · have hbinade := hlow hpositive
      have hbelow : (own + 1) * Double.binade < (scale + 2) * Double.binade := by
        rw [Nat.succ_mul]
        omega
      have := Nat.lt_of_mul_lt_mul_right hbelow
      omega
  have hmantissa : 0 < mantissa := by
    rcases Nat.eq_zero_or_pos own with rfl | hpositive
    · omega
    · exact Nat.lt_of_lt_of_le (by decide) (hlow hpositive)
  rw [hunits, Nat.pow_eq]
  refine ⟨Nat.mul_pos hmantissa (Nat.two_pow_pos own), ?_⟩
  calc mantissa * 2 ^ own
      ≤ mantissa * 2 ^ scale := Nat.mul_le_mul_left mantissa (Nat.pow_le_pow_right (by decide) hown)
    _ < 2 * Double.binade * 2 ^ scale := Nat.mul_lt_mul_of_pos_right hhigh (Nat.two_pow_pos scale)

theorem rank_of_neg {d : Decimal} (hneg : d.exponent < 0) (hne : d.coefficient ≠ 0)
    (hlow : -400 ≤ d.exponent + width d.coefficient)
    (hhigh : d.exponent + width d.coefficient ≤ 310) {tens : Nat}
    (htens : Nat.pow 10 (-d.exponent).toNat = tens) :
    d.rank = Double.rankOfRatio d.coefficient tens := by
  rw [rank, if_neg hne, if_neg (by omega), if_neg (by omega), if_neg (by omega), htens]

theorem fives_pos : 0 < Nat.pow 5 1074 := by
  apply Nat.pow_pos
  decide

/-- The full expansion of a magnitude is neither so small nor so large that its place decides. -/
theorem place_ofUnits {rank : Nat} (hpos : 0 < rank) (hfinite : rank < Double.rankCount) :
    -400 ≤ (-1074 : Int) + width (Double.unitsOfRank rank * Nat.pow 5 1074) ∧
      (-1074 : Int) + width (Double.unitsOfRank rank * Nat.pow 5 1074) ≤ 310 := by
  have hscale : rank < (2045 + 2) * Double.binade := hfinite
  have hfivesPos := fives_pos
  have hunits := (units_range hpos hscale).1
  -- the powers stay behind variables, which nothing computes
  obtain ⟨fewest, hfewest, hfives⟩ :
      ∃ fewest, 673 ≤ fewest ∧ Nat.pow 10 fewest ≤ Nat.pow 5 1074 :=
    ⟨673, Nat.le_refl _, by decide +kernel⟩
  obtain ⟨ceiling, most, hceiling, hmostPos, hmost, hproduct⟩ :
      ∃ ceiling most, Double.unitsOfRank rank < ceiling ∧ 0 < most ∧ most ≤ 1384 ∧
        ceiling * Nat.pow 5 1074 ≤ Nat.pow 10 most :=
    ⟨_, 1384, (units_range hpos hscale).2, by decide, Nat.le_refl _, by decide +kernel⟩
  generalize Double.unitsOfRank rank = units at *
  generalize Nat.pow 5 1074 = fives at *
  have hlow : ¬ width (units * fives) ≤ fewest := by
    rw [width_le_iff (by omega), Nat.not_lt]
    exact Nat.le_trans hfives (Nat.le_mul_of_pos_left _ hunits)
  have hhigh : width (units * fives) ≤ most :=
    (width_le_iff hmostPos).mpr
      (Nat.lt_of_lt_of_le (Nat.mul_lt_mul_of_pos_right hceiling hfivesPos) hproduct)
  constructor
  · omega
  · omega

/-- The full expansion of a magnitude has its rank. -/
theorem rank_ofUnits {rank : Nat} (hpos : 0 < rank) (hfinite : rank < Double.rankCount) :
    (ofUnits (Double.unitsOfRank rank)).rank = rank := by
  have hfivesPos := fives_pos
  have htens : Nat.pow 10 (-(-1074 : Int)).toNat = Nat.pow 2 1074 * Nat.pow 5 1074 := by
    decide +kernel
  have hunits := (units_range hpos (show rank < (2045 + 2) * Double.binade from hfinite)).1
  obtain ⟨hlow, hhigh⟩ := place_ofUnits hpos hfinite
  have hrank := Double.rankOfRatio_unitsOfRank rank
  rw [ofUnits]
  generalize Double.unitsOfRank rank = units at *
  generalize Nat.pow 5 1074 = fives at *
  generalize Nat.pow 2 1074 = twos at *
  have hneg : (-1074 : Int) < 0 := by decide
  have hne : units * fives ≠ 0 := Nat.ne_of_gt (Nat.mul_pos hunits hfivesPos)
  rw [rank_of_neg (d := ⟨units * fives, -1074⟩) hneg hne hlow hhigh htens,
    Double.rankOfRatio_mul_right _ _ hfivesPos, hrank]

theorem rank_of_onGrid? {rank digits : Nat} {d : Decimal} (h : onGrid? rank digits = some d) :
    d.rank = rank := by
  unfold onGrid? at h
  have hfound := List.find?_some h
  exact eq_of_beq hfound

theorem rank_shortestOfRank {rank : Nat} (hpos : 0 < rank) (hfinite : rank < Double.rankCount) :
    (shortestOfRank rank).rank = rank := by
  rw [shortestOfRank]
  cases hfound : (List.range 17).findSome? fun n => onGrid? rank (n + 1) with
  | none => exact rank_ofUnits hpos hfinite
  | some d =>
      obtain ⟨n, _, hgrid⟩ := List.exists_of_findSome?_eq_some hfound
      exact rank_of_onGrid? hgrid

theorem rank_trimmed (fuel : Nat) (d : Decimal) : (trimmed fuel d).rank = d.rank := by
  induction fuel generalizing d with
  | zero => rfl
  | succ fuel ih =>
      rw [trimmed]
      split_ifs with hzero
      · have hten := rank_mul_ten_pow (d.coefficient / 10) 1 (d.exponent + 1)
        rw [Nat.pow_one, Nat.div_mul_cancel (Nat.dvd_of_mod_eq_zero hzero.2)] at hten
        rw [ih, ← hten]
        congr
        omega
      · rfl

end Decimal

end TraceArchive
