import IssueQuery.Number.Double
import Mathlib

/-!
# Rounding to doubles

A rational is rounded to a multiple of the unit of its binary place.  Two facts carry what follows:
the places of the leading digits are those of the powers around a number, and a number that lies
within half a unit of a double is rounded to it.
-/

namespace IssueQuery

open Number

namespace Number

variable {q x : Rat} {n : Int}

theorem magnitude_eq_abs (q : Rat) : magnitude q = |q| := by
  unfold magnitude
  split
  · rename_i h
    rw [abs_of_neg h]
  · rename_i h
    rw [abs_of_nonneg (not_lt.mp h)]

/-! ## Leading places -/

/-- The powers around a quotient, from those around its parts. -/
theorem quotient_between {base a b i j : Nat} (hbase : 0 < base) (hb : 0 < b)
    (ha : base ^ i ≤ a ∧ a < base ^ (i + 1)) (hb' : base ^ j ≤ b ∧ b < base ^ (j + 1)) :
    (base : Rat) ^ ((i : Int) - j - 1) ≤ a / b ∧ (a / b : Rat) < base ^ ((i : Int) - j + 1) := by
  have hbase' : (0 : Rat) < base := by exact_mod_cast hbase
  have hpos : (0 : Rat) < b := by exact_mod_cast hb
  have halow : (base : Rat) ^ i ≤ a := by exact_mod_cast ha.1
  have hahigh : (a : Rat) < base ^ (i + 1) := by exact_mod_cast ha.2
  have hblow : (base : Rat) ^ j ≤ b := by exact_mod_cast hb'.1
  have hbhigh : (b : Rat) < base ^ (j + 1) := by exact_mod_cast hb'.2
  have hlow : (base : Rat) ^ ((i : Int) - j - 1) = base ^ i / base ^ (j + 1) := by
    rw [show (i : Int) - j - 1 = (i : Int) - (j + 1 : Nat) by push_cast; ring,
      zpow_sub₀ hbase'.ne', zpow_natCast, zpow_natCast]
  have hhigh : (base : Rat) ^ ((i : Int) - j + 1) = base ^ (i + 1) / base ^ j := by
    rw [show (i : Int) - j + 1 = (i + 1 : Nat) - (j : Int) by push_cast; ring,
      zpow_sub₀ hbase'.ne', zpow_natCast, zpow_natCast]
  constructor
  · rw [hlow]
    gcongr
  · rw [hhigh, div_lt_div_iff₀ hpos (by positivity)]
    calc (a : Rat) * base ^ j ≤ a * b := by gcongr
      _ < base ^ (i + 1) * b := by gcongr

theorem num_pos_of_pos (hq : 0 < q) : 0 < q.num.natAbs := by
  have hnum := Rat.num_pos.mpr hq
  omega

theorem natAbs_num_div_den (hq : 0 < q) : (q.num.natAbs / q.den : Rat) = q := by
  have hnum : ((q.num.natAbs : Int) : Rat) = q.num := by
    rw [Int.natAbs_of_nonneg (Rat.num_pos.mpr hq).le]
  calc (q.num.natAbs / q.den : Rat) = q.num / q.den := by rw [← hnum, Int.cast_natCast]
    _ = q := Rat.num_div_den q

theorem floorLog2_spec (hq : 0 < q) :
    (2 : Rat) ^ floorLog2 q ≤ q ∧ q < (2 : Rat) ^ (floorLog2 q + 1) := by
  obtain ⟨hlow, hhigh⟩ := quotient_between (by decide) q.den_pos
    ⟨Nat.log2_self_le (num_pos_of_pos hq).ne', Nat.lt_log2_self⟩
    ⟨Nat.log2_self_le q.den_pos.ne', Nat.lt_log2_self⟩
  rw [natAbs_num_div_den hq, Nat.cast_ofNat] at hlow hhigh
  unfold floorLog2
  dsimp only
  split
  · rename_i h
    exact ⟨h, hhigh⟩
  · rename_i h
    rw [sub_add_cancel]
    exact ⟨hlow, not_le.mp h⟩

theorem digitCount_pos (n : Nat) : 0 < digitCount n :=
  Nat.length_toDigits_pos

/-- A positive number of so many digits lies between the two powers of ten. -/
theorem digitCount_spec {n : Nat} (hn : 0 < n) :
    10 ^ (digitCount n - 1) ≤ n ∧ n < 10 ^ (digitCount n - 1 + 1) := by
  have hcount := digitCount_pos n
  rw [Nat.sub_add_cancel hcount]
  refine ⟨?_, (Nat.length_toDigits_le_iff (by decide) hcount).mp le_rfl⟩
  by_cases hone : digitCount n = 1
  · rw [hone]
    exact hn
  · by_contra hlt
    have hle := (Nat.length_toDigits_le_iff (b := 10) (by decide) (by omega)).mpr (not_le.mp hlt)
    rw [← digitCount] at hle
    omega

theorem floorLog10_spec (hq : 0 < q) :
    (10 : Rat) ^ floorLog10 q ≤ q ∧ q < (10 : Rat) ^ (floorLog10 q + 1) := by
  obtain ⟨hlow, hhigh⟩ := quotient_between (by decide) q.den_pos
    (digitCount_spec (num_pos_of_pos hq)) (digitCount_spec q.den_pos)
  have hguess : ((digitCount q.num.natAbs - 1 : Nat) : Int) - (digitCount q.den - 1 : Nat) =
      digitCount q.num.natAbs - digitCount q.den := by
    have hnum := digitCount_pos q.num.natAbs
    have hden := digitCount_pos q.den
    omega
  rw [natAbs_num_div_den hq, hguess, Nat.cast_ofNat] at hlow hhigh
  unfold floorLog10
  dsimp only
  split
  · rename_i h
    exact ⟨h, hhigh⟩
  · rename_i h
    rw [sub_add_cancel]
    exact ⟨hlow, not_le.mp h⟩

/-! ## Rounding to integers -/

theorem floor_eq (hlow : (n : Rat) ≤ x) (hhigh : x < n + 1) : x.floor = n :=
  Int.floor_eq_iff.mpr ⟨hlow, hhigh⟩

theorem le_floor (h : (n : Rat) ≤ x) : n ≤ x.floor :=
  Int.le_floor.mpr h

theorem roundEven_eq_of_close (h : |x - n| < 1 / 2) : roundEven x = n := by
  obtain ⟨hlow, hhigh⟩ := abs_lt.mp h
  unfold roundEven
  dsimp only
  rcases le_or_gt (n : Rat) x with hle | hgt
  · rw [floor_eq hle (by linarith), if_pos hhigh]
  · have hfloor : x.floor = n - 1 := by
      apply floor_eq <;> push_cast <;> linarith
    rw [hfloor]
    push_cast
    rw [if_neg (by linarith), if_pos (by linarith)]
    omega

theorem roundEven_of_half (h : x - x.floor = 1 / 2) :
    roundEven x = if x.floor % 2 = 0 then x.floor else x.floor + 1 := by
  unfold roundEven
  dsimp only
  rw [h, if_neg (lt_irrefl _), if_neg (lt_irrefl _)]

theorem le_roundEven (h : (n : Rat) ≤ x) : n ≤ roundEven x := by
  have hfloor := le_floor h
  unfold roundEven
  dsimp only
  split_ifs <;> omega

theorem roundEven_neg (x : Rat) : roundEven (-x) = -roundEven x := by
  have hclose : ∀ n : Int, |x - n| < 1 / 2 → roundEven (-x) = -roundEven x := by
    intro n h
    have hneg : |-x - (-n : Int)| < 1 / 2 := by
      rwa [Int.cast_neg, neg_sub_neg, abs_sub_comm]
    rw [roundEven_eq_of_close h, roundEven_eq_of_close hneg]
  have hlow : (x.floor : Rat) ≤ x := Int.floor_le x
  have hhigh : x < x.floor + 1 := Int.lt_floor_add_one x
  rcases lt_trichotomy (x - x.floor) (1 / 2) with hrest | hrest | hrest
  · apply hclose x.floor
    rw [abs_lt]
    constructor <;> linarith
  · have hfloor : (-x).floor = -x.floor - 1 := by
      apply floor_eq <;> push_cast <;> linarith
    have hneg : -x - (-x).floor = 1 / 2 := by
      rw [hfloor]
      push_cast
      linarith
    rw [roundEven_of_half hrest, roundEven_of_half hneg, hfloor]
    split_ifs <;> omega
  · apply hclose (x.floor + 1)
    rw [abs_lt]
    push_cast
    constructor <;> linarith

theorem abs_roundEven (x : Rat) : |roundEven x| = roundEven |x| := by
  have hnonneg : ∀ y : Rat, 0 ≤ y → 0 ≤ roundEven y := fun y hy =>
    le_roundEven (by exact_mod_cast hy)
  rcases abs_cases x with ⟨habs, hx⟩ | ⟨habs, hx⟩
  · rw [habs, abs_of_nonneg (hnonneg x hx)]
  · have hneg := hnonneg (-x) (by linarith)
    rw [habs, roundEven_neg] at *
    rw [abs_of_nonpos (by omega)]

end Number

namespace Double

variable {d q : Rat} {n : Int}

/-! ## Units -/

theorem two_zpow_pos (e : Int) : (0 : Rat) < 2 ^ e :=
  zpow_pos (by norm_num) e

theorem unitExponent_le_iff {e : Int} :
    unitExponent q ≤ e ↔ floorLog2 q - 52 ≤ e ∧ -1074 ≤ e := by
  unfold unitExponent
  dsimp only
  split <;> omega

theorem le_unitExponent (q : Rat) : floorLog2 q - 52 ≤ unitExponent q ∧ -1074 ≤ unitExponent q :=
  unitExponent_le_iff.mp le_rfl

/-- Multiples of a unit are multiples of every smaller one. -/
theorem exists_multiple {e f : Int} (h : f ≤ e) (n : Int) :
    ∃ m : Int, (n * 2 ^ e : Rat) = m * 2 ^ f := by
  obtain ⟨k, hk⟩ := Int.eq_ofNat_of_zero_le (sub_nonneg.mpr h)
  refine ⟨n * 2 ^ k, ?_⟩
  have hsplit : (2 : Rat) ^ e = 2 ^ k * 2 ^ f := by
    rw [← zpow_natCast, ← hk, ← zpow_add₀ (by norm_num), sub_add_cancel]
  rw [hsplit]
  push_cast
  ring

/-! ## Rounding -/

/-- A number within half a unit of a double is rounded to it. -/
theorem round_eq_of_close (hd : d ≠ 0) (hq : q = n * 2 ^ unitExponent |d|)
    (hclose : |d - q| < 2 ^ unitExponent |d| / 2) (hne : q ≠ 0) (hlt : |q| < 2 ^ (1024 : Int)) :
    round d = .finite q := by
  have hunit := two_zpow_pos (unitExponent |d|)
  have hnear : |d / 2 ^ unitExponent |d| - n| < 1 / 2 := by
    have hscale : d / 2 ^ unitExponent |d| - n = (d - q) / 2 ^ unitExponent |d| := by
      rw [hq]
      field_simp
    rw [hscale, abs_div, abs_of_pos hunit, div_lt_iff₀ hunit]
    linarith
  unfold round
  dsimp only
  rw [magnitude_eq_abs, magnitude_eq_abs, if_neg hd, roundEven_eq_of_close hnear, ← hq, if_neg hne,
    if_neg (not_le.mpr hlt)]

/-- A double is a multiple of its unit, and finite. -/
theorem multiple_of_round_eq (hne : q ≠ 0) (h : round d = .finite q) :
    (∃ n : Int, q = n * 2 ^ unitExponent |d|) ∧ |q| < 2 ^ (1024 : Int) := by
  unfold round at h
  dsimp only at h
  rw [magnitude_eq_abs, magnitude_eq_abs] at h
  split_ifs at h with hzero hvalue hsign hlarge
  · exact absurd (Double.finite.inj h).symm hne
  · exact absurd (Double.finite.inj h).symm hne
  · obtain rfl := Double.finite.inj h
    exact ⟨⟨_, rfl⟩, not_le.mp hlarge⟩

theorem round_neg (hne : q ≠ 0) (h : round d = .finite q) : round (-d) = .finite (-q) := by
  unfold round at h ⊢
  dsimp only at h ⊢
  rw [magnitude_eq_abs, magnitude_eq_abs] at h ⊢
  rw [abs_neg, neg_div, roundEven_neg, Int.cast_neg, neg_mul, abs_neg]
  split_ifs at h with hzero hvalue hsign hlarge
  · exact absurd (Double.finite.inj h).symm hne
  · exact absurd (Double.finite.inj h).symm hne
  · rw [if_neg (neg_ne_zero.mpr hzero), if_neg (neg_ne_zero.mpr hvalue), if_neg hlarge,
      Double.finite.inj h]

/-- What lies beyond the greatest double is rounded to infinity. -/
theorem round_of_large (h : 2 ^ (1024 : Int) ≤ |q|) : round q = .infinity (q < 0) := by
  have hpos : 0 < |q| := (two_zpow_pos 1024).trans_le h
  obtain ⟨hlow, hhigh⟩ := floorLog2_spec hpos
  have hplace : 1024 < floorLog2 |q| + 1 :=
    (zpow_lt_zpow_iff_right₀ (by norm_num)).mp (h.trans_lt hhigh)
  have hunit : unitExponent |q| = floorLog2 |q| - 52 := by
    unfold unitExponent
    dsimp only
    rw [if_neg (by omega)]
  have hscaled : ((2 ^ 52 : Int) : Rat) ≤ |q / 2 ^ unitExponent (|q|)| := by
    rw [abs_div, abs_of_pos (two_zpow_pos _), le_div_iff₀ (two_zpow_pos _), hunit]
    calc ((2 ^ 52 : Int) : Rat) * 2 ^ (floorLog2 |q| - 52) = 2 ^ floorLog2 |q| := by
          rw [zpow_sub₀ (by norm_num)]
          norm_num
          ring
      _ ≤ |q| := hlow
  have hvalue : (2 : Rat) ^ (1024 : Int) ≤
      |(roundEven (q / 2 ^ unitExponent |q|) : Rat) * 2 ^ unitExponent (|q|)| := by
    rw [abs_mul, abs_of_pos (two_zpow_pos _), ← Int.cast_abs, abs_roundEven]
    calc (2 : Rat) ^ (1024 : Int) ≤ 2 ^ floorLog2 |q| :=
          zpow_le_zpow_right₀ (by norm_num) (by omega)
      _ = (2 ^ 52 : Int) * 2 ^ unitExponent |q| := by
          rw [hunit, zpow_sub₀ (by norm_num)]
          norm_num
          ring
      _ ≤ roundEven |q / 2 ^ unitExponent (|q|)| * 2 ^ unitExponent |q| := by
          gcongr
          exact le_roundEven hscaled
  unfold round
  dsimp only
  rw [magnitude_eq_abs, magnitude_eq_abs, if_neg (abs_pos.mp hpos), if_neg, if_pos hvalue]
  exact abs_pos.mp ((two_zpow_pos 1024).trans_le hvalue)

/-- What lies below half the least double is rounded to zero. -/
theorem round_of_small (hne : q ≠ 0) (h : |q| < 2 ^ (-1075 : Int)) :
    round q = if q < 0 then .negativeZero else .finite 0 := by
  have hplace : floorLog2 |q| < -1075 :=
    (zpow_lt_zpow_iff_right₀ (by norm_num)).mp ((floorLog2_spec (abs_pos.mpr hne)).1.trans_lt h)
  have hunit : unitExponent |q| = -1074 := by
    unfold unitExponent
    dsimp only
    rw [if_pos (by omega)]
  have hnear : |q / 2 ^ (-1074 : Int) - (0 : Int)| < 1 / 2 := by
    rw [Int.cast_zero, sub_zero, abs_div, abs_of_pos (two_zpow_pos _), div_lt_iff₀ (two_zpow_pos _)]
    calc |q| < 2 ^ (-1075 : Int) := h
      _ = 1 / 2 * 2 ^ (-1074 : Int) := by
          rw [show (-1075 : Int) = -1 + -1074 by norm_num, zpow_add₀ (by norm_num)]
          norm_num
  unfold round
  dsimp only
  rw [magnitude_eq_abs, magnitude_eq_abs, if_neg hne, hunit, roundEven_eq_of_close hnear,
    Int.cast_zero, zero_mul, if_pos rfl]

theorem lt_of_round_eq (h : round d = .finite q) : |d| < 2 ^ (1024 : Int) := by
  by_contra hlarge
  rw [round_of_large (not_lt.mp hlarge)] at h
  cases h

/-- An integer is rounded to an integer. -/
theorem exists_int_of_round {z : Int} (h : round z = .finite q) : ∃ k : Int, q = k := by
  by_cases hq : q = 0
  · exact ⟨0, by rw [hq, Int.cast_zero]⟩
  · obtain ⟨⟨m, hm⟩, -⟩ := multiple_of_round_eq hq h
    rcases le_total 0 (unitExponent |(z : Rat)|) with hunit | hunit
    · obtain ⟨k, hk⟩ := exists_multiple hunit m
      exact ⟨k, by rw [hm, hk, zpow_zero, mul_one]⟩
    · -- Here the unit is at most one, and nothing is rounded off.
      obtain ⟨k, hk⟩ := exists_multiple hunit z
      rw [zpow_zero, mul_one] at hk
      have hz : (z : Rat) ≠ 0 := by
        intro hz
        rw [hz, round, if_pos rfl] at h
        exact hq (Double.finite.inj h).symm
      have hself : round z = .finite z :=
        round_eq_of_close hz hk (by rw [sub_self, abs_zero]; exact half_pos (two_zpow_pos _)) hz
          (lt_of_round_eq h)
      exact ⟨z, Double.finite.inj (h.symm.trans hself)⟩

theorem toInt?_finite (k : Int) : (finite k).toInt? = some k := by
  rw [toInt?, toRat?]
  exact if_pos (Rat.den_intCast k)

theorem isSome_toInt?_round {z : Int} (h : (round z).toRat?.isSome) :
    (round z).toInt?.isSome := by
  cases hround : round z with
  | nan | infinity negative =>
      rw [hround] at h
      cases h
  | negativeZero => rfl
  | finite q =>
      obtain ⟨k, rfl⟩ := exists_int_of_round hround
      rw [toInt?_finite]
      rfl

/-! ## Decimals -/

theorem two_pow_le_ten_pow : (2 : Rat) ^ (1024 : Int) ≤ 10 ^ (310 : Int) := by
  calc (2 : Rat) ^ (1024 : Int) ≤ 2 ^ ((205 : Int) * 5) :=
        zpow_le_zpow_right₀ (by norm_num) (by norm_num)
    _ = (2 ^ 205) ^ 5 := zpow_mul 2 205 5
    _ ≤ (10 ^ 62) ^ 5 := pow_le_pow_left₀ (by positivity) (by norm_num) 5
    _ = 10 ^ ((62 : Int) * 5) := (zpow_mul 10 62 5).symm
    _ = 10 ^ (310 : Int) := by norm_num

theorem ten_pow_le_two_pow : (10 : Rat) ^ (-330 : Int) ≤ 2 ^ (-1075 : Int) := by
  calc (10 : Rat) ^ (-330 : Int) = 10 ^ ((-66 : Int) * 5) := by norm_num
    _ = (10 ^ (-66 : Int)) ^ 5 := zpow_mul 10 (-66) 5
    _ ≤ (2 ^ (-215 : Int)) ^ 5 := pow_le_pow_left₀ (by positivity) (by norm_num) 5
    _ = 2 ^ ((-215 : Int) * 5) := (zpow_mul 2 (-215) 5).symm
    _ = 2 ^ (-1075 : Int) := by norm_num

/-- A decimal lies between the powers of ten that its digits and its exponent tell. -/
theorem decimal_between {m : Nat} (hm : 0 < m) (e : Int) :
    (10 : Rat) ^ (digitCount m + e - 1) ≤ m * 10 ^ e ∧
      (m * 10 ^ e : Rat) < 10 ^ (digitCount m + e) := by
  obtain ⟨hlow, hhigh⟩ := digitCount_spec hm
  rw [Nat.sub_add_cancel (digitCount_pos m)] at hhigh
  have hten : (0 : Rat) < 10 ^ e := zpow_pos (by norm_num) e
  have hcount : (digitCount m : Int) + e - 1 = (digitCount m - 1 : Nat) + e := by
    have hpos := digitCount_pos m
    omega
  constructor
  · rw [hcount, zpow_add₀ (by norm_num), zpow_natCast]
    have hlow' : (10 : Rat) ^ (digitCount m - 1) ≤ m := by exact_mod_cast hlow
    gcongr
  · rw [zpow_add₀ (by norm_num), zpow_natCast]
    have hhigh' : (m : Rat) < 10 ^ digitCount m := by exact_mod_cast hhigh
    gcongr

/-- The ranges in which decimals are settled at once are those that rounding leads out of. -/
theorem ofDecimal_eq_round {m : Nat} (hm : 0 < m) (negative : Bool) (e : Int) :
    ofDecimal negative m e =
      round (if negative then -(m * (10 : Rat) ^ e) else m * (10 : Rat) ^ e) := by
  obtain ⟨hlow, hhigh⟩ := decimal_between hm e
  have hpos : (0 : Rat) < m * 10 ^ e := (zpow_pos (by norm_num) _).trans_le hlow
  have habs : |if negative then -(m * (10 : Rat) ^ e) else m * (10 : Rat) ^ e| = m * 10 ^ e := by
    split
    · rw [abs_neg, abs_of_pos hpos]
    · rw [abs_of_pos hpos]
  have hsign : (if negative then -(m * (10 : Rat) ^ e) else m * (10 : Rat) ^ e) < 0 ↔
      negative := by
    cases negative with
    | true => simpa using hpos
    | false => simpa using hpos.le
  unfold ofDecimal
  dsimp only
  rw [if_neg hm.ne']
  by_cases hlarge : 310 < digitCount m + e
  · have hbeyond : (2 : Rat) ^ (1024 : Int) ≤ m * 10 ^ e := by
      calc (2 : Rat) ^ (1024 : Int) ≤ 10 ^ (310 : Int) := two_pow_le_ten_pow
        _ ≤ 10 ^ (digitCount m + e - 1) := zpow_le_zpow_right₀ (by norm_num) (by omega)
        _ ≤ m * 10 ^ e := hlow
    rw [if_pos hlarge, round_of_large (by rwa [habs])]
    simp only [hsign, Bool.decide_eq_true]
  · rw [if_neg hlarge]
    by_cases hsmall : digitCount m + e < -330
    · have hbelow : (m * 10 ^ e : Rat) < 2 ^ (-1075 : Int) := by
        calc (m * 10 ^ e : Rat) < 10 ^ (digitCount m + e) := hhigh
          _ ≤ 10 ^ (-330 : Int) := zpow_le_zpow_right₀ (by norm_num) (by omega)
          _ ≤ 2 ^ (-1075 : Int) := ten_pow_le_two_pow
      rw [if_pos hsmall, round_of_small (abs_pos.mp (by rwa [habs])) (by rwa [habs])]
      simp only [hsign]
    · rw [if_neg hsmall]

end Double

end IssueQuery
