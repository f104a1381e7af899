import IssueQuery.Proofs.Number.Rounding

/-!
# The range of doubles

Rounding never leads past a multiple of the unit.  Hence what does not lie beyond the greatest
double is rounded to a finite one, and a double is rounded to itself.
-/

namespace IssueQuery

open Number

namespace Number

variable {x : Rat} {n : Int}

theorem roundEven_le (h : x ≤ n) : roundEven x ≤ n := by
  have hneg : ((-n : Int) : Rat) ≤ -x := by
    push_cast
    exact neg_le_neg h
  have hle := le_roundEven hneg
  rw [roundEven_neg] at hle
  exact neg_le_neg_iff.mp hle

end Number

namespace Double

variable {d q : Rat} {n : Int}

/-! ## Finite doubles -/

/-- The greatest finite double. -/
def greatest : Rat :=
  (2 ^ 53 - 1 : Int) * 2 ^ (971 : Int)

theorem greatest_lt : greatest < 2 ^ (1024 : Int) := by
  calc greatest < (2 ^ 53 : Int) * 2 ^ (971 : Int) := by
        unfold greatest
        gcongr
        norm_num
    _ = 2 ^ (1024 : Int) := by
        rw [show (1024 : Int) = 53 + 971 by norm_num, zpow_add₀ (by norm_num)]
        norm_num

/-- Rounding does not lead past a multiple of the unit. -/
theorem abs_roundEven_mul_le (h : |d| ≤ n * 2 ^ unitExponent |d|) :
    |(roundEven (d / 2 ^ unitExponent |d|) : Rat) * 2 ^ unitExponent (|d|)| ≤
      n * 2 ^ unitExponent |d| := by
  have hunit := two_zpow_pos (unitExponent |d|)
  have hscaled : |d / 2 ^ unitExponent (|d|)| ≤ n := by
    rw [abs_div, abs_of_pos hunit, div_le_iff₀ hunit]
    exact h
  rw [abs_mul, abs_of_pos hunit, ← Int.cast_abs, abs_roundEven]
  gcongr
  exact roundEven_le hscaled

/-- What does not lie beyond the greatest double is rounded to a finite double. -/
theorem isSome_toRat?_round (h : |d| ≤ greatest) : (round d).toRat?.isSome := by
  unfold round
  dsimp only
  rw [magnitude_eq_abs, magnitude_eq_abs]
  split
  · rfl
  · rename_i hd
    have hplace : floorLog2 |d| < 1024 :=
      (zpow_lt_zpow_iff_right₀ (by norm_num)).mp
        ((floorLog2_spec (abs_pos.mpr hd)).1.trans_lt (h.trans_lt greatest_lt))
    have hunit : unitExponent |d| ≤ 971 := unitExponent_le_iff.mpr ⟨by omega, by norm_num⟩
    obtain ⟨m, hm⟩ := exists_multiple hunit (2 ^ 53 - 1)
    have hgreatest : greatest = m * 2 ^ unitExponent |d| := hm
    have hvalue := abs_roundEven_mul_le (hgreatest ▸ h)
    rw [← hgreatest] at hvalue
    split
    · split <;> rfl
    · rw [if_neg (not_le.mpr (hvalue.trans_lt greatest_lt))]
      rfl

/-! ## Doubles are rounded to themselves -/

theorem eq_of_round (hne : q ≠ 0) (h : round d = .finite q) :
    d ≠ 0 ∧ q = roundEven (d / 2 ^ unitExponent |d|) * 2 ^ unitExponent |d| := by
  unfold round at h
  dsimp only at h
  rw [magnitude_eq_abs, magnitude_eq_abs] at h
  split_ifs at h with hzero hvalue hsign hlarge
  · exact absurd (Double.finite.inj h).symm hne
  · exact absurd (Double.finite.inj h).symm hne
  · exact ⟨hzero, (Double.finite.inj h).symm⟩

/-- A double is a multiple of its own unit, even if rounding led up to the next power of two. -/
theorem exists_multiple_of_round (hne : q ≠ 0) (h : round d = .finite q) :
    ∃ n : Int, q = n * 2 ^ unitExponent |q| := by
  obtain ⟨hd, hq⟩ := eq_of_round hne h
  rcases le_or_gt (unitExponent |q|) (unitExponent |d|) with hle | hgt
  · obtain ⟨m, hm⟩ := exists_multiple hle (roundEven (d / 2 ^ unitExponent |d|))
    exact ⟨m, hq.trans hm⟩
  · have hunit : unitExponent |q| = floorLog2 |q| - 52 := by
      have hleast := (le_unitExponent |d|).2
      unfold unitExponent at hgt hleast ⊢
      dsimp only at hgt hleast ⊢
      split at hgt <;> omega
    have hplace := (le_unitExponent |d|).1
    -- The number lies below the power of two that its double has reached, so the double is this
    -- power.
    obtain ⟨m, hm⟩ := exists_multiple (e := floorLog2 |q|) (f := unitExponent |d|) (by omega) 1
    rw [Int.cast_one, one_mul] at hm
    have hbelow : |d| ≤ m * 2 ^ unitExponent |d| := by
      rw [← hm]
      exact (floorLog2_spec (abs_pos.mpr hd)).2.le.trans
        (zpow_le_zpow_right₀ (by norm_num) (by omega))
    have hpower : |q| = 2 ^ floorLog2 |q| := by
      apply le_antisymm _ (floorLog2_spec (abs_pos.mpr hne)).1
      nth_rewrite 1 [hq]
      rw [hm]
      exact abs_roundEven_mul_le hbelow
    have hmultiple : |q| = (2 ^ 52 : Int) * 2 ^ unitExponent |q| := by
      rw [hunit, zpow_sub₀ (by norm_num), ← hpower]
      norm_num
      ring
    rcases abs_choice q with habs | habs
    · exact ⟨2 ^ 52, habs.symm.trans hmultiple⟩
    · refine ⟨-2 ^ 52, ?_⟩
      rw [Int.cast_neg, neg_mul, ← hmultiple, habs, neg_neg]

theorem round_zero : round 0 = .finite 0 :=
  if_pos rfl

/-- A double is rounded to itself. -/
theorem round_round (h : round d = .finite q) : round q = .finite q := by
  by_cases hq : q = 0
  · rw [hq, round_zero]
  · obtain ⟨n, hn⟩ := exists_multiple_of_round hq h
    exact round_eq_of_close hq hn (by rw [sub_self, abs_zero]; exact half_pos (two_zpow_pos _)) hq
      (multiple_of_round_eq hq h).2

end Double

end IssueQuery
