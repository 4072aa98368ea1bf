import TraceArchive.Proofs.Number.Shortest
/-!
Scaled readings that come out right.  Where a significand and a power of ten are doubles themselves,
scaling rounds once, and what is read is the nearest double.
-/

namespace TraceArchive

namespace Double

/-- A natural below `2 ^ 53` has a rank at every scale. -/
theorem exists_unitsOfRank {m : Nat} (hm : m < 2 * binade) (scale : Nat) :
    ∃ rank, unitsOfRank rank = m * 2 ^ scale := by
  induction scale generalizing m with
  | zero =>
      have hscale : scaleOfRank m = 0 := by
        simp only [scaleOfRank, binade] at hm ⊢
        omega
      exact ⟨m, by simp [unitsOfRank, hscale]⟩
  | succ scale ih =>
      by_cases hlow : m < binade
      · obtain ⟨rank, hrank⟩ := ih (m := 2 * m) (by omega)
        refine ⟨rank, ?_⟩
        rw [hrank, Nat.pow_succ, Nat.mul_comm 2 m, Nat.mul_assoc, Nat.mul_comm 2]
      · have hscale : scaleOfRank ((scale + 1) * binade + m) = scale + 1 := by
          simp only [scaleOfRank, binade] at hm hlow ⊢
          omega
        exact ⟨(scale + 1) * binade + m, by rw [unitsOfRank, hscale, Nat.add_sub_cancel_left]; rfl⟩

-- The unit goes by a name here, so that `2 ^ 1074` is nowhere computed.
theorem rankOfRatio_of_unitsOfRank {rank n unit : Nat} (hunit : unit = Nat.pow 2 1074)
    (h : unitsOfRank rank = n * unit) : rankOfRatio n 1 = rank := by
  have hpos : 0 < unit := hunit ▸ unit_pos
  have hround := rankOfRatio_unitsOfRank rank
  rw [← hunit] at hround
  rw [← rankOfRatio_mul_right n 1 hpos, Nat.one_mul, ← h, hround]

theorem exists_unitsOfRank_mul {m : Nat} (hm : m < 2 * binade) (scale : Nat) {unit n : Nat}
    (hunit : unit = Nat.pow 2 n) : ∃ rank, unitsOfRank rank = m * 2 ^ scale * unit := by
  obtain ⟨rank, hrank⟩ := exists_unitsOfRank hm (scale + n)
  exact ⟨rank, by rw [hrank, hunit, Nat.pow_add, Nat.pow_eq, Nat.mul_assoc]⟩

/-- Such a natural, scaled, is the magnitude of its rank. -/
theorem unitsOfRank_rankOfRatio {m : Nat} (hm : m < 2 * binade) (scale : Nat) {unit : Nat}
    (hunit : unit = Nat.pow 2 1074) :
    unitsOfRank (rankOfRatio (m * 2 ^ scale) 1) = m * 2 ^ scale * unit := by
  obtain ⟨rank, hrank⟩ := exists_unitsOfRank_mul hm scale hunit
  rw [rankOfRatio_of_unitsOfRank hunit hrank, hrank]

theorem unitsOfRank_ofNat {m : Nat} (hm : m < 2 * binade) :
    unitsOfRank (rankOfRatio m 1) = m * Nat.pow 2 1074 := by
  have hunits := unitsOfRank_rankOfRatio hm 0 rfl
  rwa [Nat.pow_zero, Nat.mul_one] at hunits

/-- The powers of ten up to `10 ^ 22` are doubles, as `5 ^ 22` is below `2 ^ 53`. -/
theorem unitsOfRank_tenRank {k : Nat} (hk : k ≤ 22) :
    unitsOfRank (tenRank k) = 10 ^ k * Nat.pow 2 1074 := by
  have hfives : 5 ^ k < 2 * binade :=
    Nat.lt_of_le_of_lt (Nat.pow_le_pow_right (by decide) hk) (by decide)
  have hten : 10 ^ k = 5 ^ k * 2 ^ k := Nat.mul_pow 5 2 k
  rw [tenRank, Nat.pow_eq, hten]
  exact unitsOfRank_rankOfRatio hfives k rfl

variable {significand : Nat} {exponent : Int}

theorem mulRank_tenRank (hsignificand : significand < 2 * binade) {k : Nat} (hk : k ≤ 22) :
    mulRank (rankOfRatio significand 1) (tenRank k) = rankOfRatio (significand * 10 ^ k) 1 := by
  have hunits := Nat.mul_pos unit_pos unit_pos
  have hsquare : Nat.pow 2 2148 = 1 * (Nat.pow 2 1074 * Nat.pow 2 1074) := by decide +kernel
  have hratio := rankOfRatio_mul_right (significand * 10 ^ k) 1 hunits
  rw [mulRank, unitsOfRank_ofNat hsignificand, unitsOfRank_tenRank hk, hsquare,
    Nat.mul_mul_mul_comm]
  exact hratio

theorem divRank_tenRank (hsignificand : significand < 2 * binade) {k : Nat} (hk : k ≤ 22) :
    divRank (rankOfRatio significand 1) (tenRank k) = rankOfRatio significand (10 ^ k) := by
  rw [divRank, unitsOfRank_ofNat hsignificand, unitsOfRank_tenRank hk,
    rankOfRatio_mul_right _ _ unit_pos]

/-- A significand below `2 ^ 53` is scaled with one rounding, if the power is `10 ^ 22` at most. -/
theorem scaledRank_of_short (hsignificand : significand < 2 * binade) (hlow : -22 ≤ exponent)
    (hhigh : exponent ≤ 22) :
    scaledRank significand exponent =
      if 0 ≤ exponent then rankOfRatio (significand * 10 ^ exponent.toNat) 1
      else rankOfRatio significand (10 ^ (-exponent).toNat) := by
  rw [scaledRank]
  by_cases hneg : exponent < 0
  · have hsteps : ((-exponent).toNat - 1) / 308 = 0 := by omega
    rw [if_neg (Int.not_le.mpr hneg)]
    simp only [hneg, hsteps, ↓reduceIte, lowered, Nat.mul_zero, Nat.sub_zero]
    exact divRank_tenRank hsignificand (by omega)
  · have hpower : exponent ≤ 308 := by omega
    rw [if_pos (Int.not_lt.mp hneg)]
    simp only [hneg, hpower, ↓reduceIte]
    exact mulRank_tenRank hsignificand (by omega)

theorem rankOfRatio_zero (den : Nat) : rankOfRatio 0 den = 0 := by
  rw [rankOfRatio]
  generalize Nat.pow 2 1074 = unit
  simp [roundDiv]

/-- What is scaled so is scaled to the nearest rank. -/
theorem scaledRank_eq_rank (hsignificand : significand < 2 * binade) (hlow : -22 ≤ exponent)
    (hhigh : exponent ≤ 22) :
    scaledRank significand exponent = Decimal.rank ⟨significand, exponent⟩ := by
  have hwidth : Decimal.width significand ≤ 16 :=
    (Decimal.width_le_iff (by decide)).mpr (Nat.lt_trans hsignificand (by decide))
  have hfinite : ¬ 310 < exponent + (Decimal.width significand : Nat) := by omega
  have hlarge : ¬ exponent + (Decimal.width significand : Nat) < -400 := by omega
  rw [scaledRank_of_short hsignificand hlow hhigh, Decimal.rank]
  simp only [hfinite, hlarge, ↓reduceIte, Nat.pow_eq]
  split_ifs with hpos hzero hzero
  · rw [hzero, Nat.zero_mul, rankOfRatio_zero]
  · rfl
  · rw [hzero, rankOfRatio_zero]
  · rfl

end Double

end TraceArchive
