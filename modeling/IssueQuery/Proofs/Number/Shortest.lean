import IssueQuery.Number.Shortest
import IssueQuery.Proofs.Number.Rounding

/-!
# Seventeen digits

The search for the shortest decimal of a double ends: `10 ^ 16` is above `2 ^ 53`, so among the two
decimals with seventeen digits around a double there is one within half a unit of it.
-/

namespace IssueQuery

open Number

namespace Double

variable {d q : Rat} {count : Nat}

/-! ## Neighbours -/

/-- The two neighbours are one step apart and enclose the number; both have its leading place. -/
theorem neighbours_spec (hq : 0 < q) (count : Nat) :
    (10 : Rat) ^ floorLog10 q ≤ (neighbours q count).1.toRat ∧
      (neighbours q count).1.toRat ≤ q ∧ q ≤ (neighbours q count).2.toRat ∧
        (neighbours q count).2.toRat = (neighbours q count).1.toRat +
          10 ^ (floorLog10 q - (count - 1 : Nat)) := by
  let step : Rat := 10 ^ (floorLog10 q - (count - 1 : Nat))
  have hstep : 0 < step := zpow_pos (by norm_num) _
  have hlead : (10 : Rat) ^ floorLog10 q = (10 ^ (count - 1) : Nat) * step := by
    rw [Nat.cast_pow, Nat.cast_ofNat, ← zpow_natCast, ← zpow_add₀ (by norm_num)]
    congr 1
    omega
  have hfloor : ((10 ^ (count - 1) : Nat) : Int) ≤ (q / step).floor := by
    apply le_floor
    rw [le_div_iff₀ hstep, Int.cast_natCast, ← hlead]
    exact (floorLog10_spec hq).1
  have hbelow : (((q / step).floor.toNat : Int) : Rat) = (q / step).floor := by
    rw [Int.toNat_of_nonneg ((Int.natCast_nonneg _).trans hfloor)]
  have hlow : ((q / step).floor : Rat) ≤ q / step := Int.floor_le _
  have hhigh : q / step < (q / step).floor + 1 := Int.lt_floor_add_one _
  have hfirst : (neighbours q count).1.toRat = (q / step).floor * step := by
    rw [← hbelow]
    rfl
  have hsecond : (neighbours q count).2.toRat = ((q / step).floor + 1) * step := by
    rw [← hbelow]
    show (((q / step).floor.toNat + 1 : Nat) : Rat) * step = _
    push_cast
    rfl
  refine ⟨?_, ?_, ?_, ?_⟩
  · rw [hfirst, hlead]
    gcongr
    exact_mod_cast hfloor
  · rw [hfirst]
    exact (le_div_iff₀ hstep).mp hlow
  · rw [hsecond]
    exact ((div_lt_iff₀ hstep).mp hhigh).le
  · rw [hfirst, hsecond]
    ring

/-! ## Decimals within half a unit -/

/-- Half of the seventeenth decimal place is below half of the fifty-third binary place. -/
theorem div_lt_half_unit (hq : 0 < q) : q / (2 * 10 ^ 16) < 2 ^ unitExponent q / 2 := by
  calc q / (2 * 10 ^ 16) < 2 ^ (floorLog2 q + 1) / (2 * 10 ^ 16) := by
        gcongr
        exact (floorLog2_spec hq).2
    _ ≤ 2 ^ (floorLog2 q + 1) / (2 * 2 ^ 53) := by
        gcongr
        norm_num
    _ = 2 ^ (floorLog2 q - 52) / 2 := by
        rw [zpow_add₀ (by norm_num), zpow_sub₀ (by norm_num)]
        norm_num
        ring
    _ ≤ 2 ^ unitExponent q / 2 := by
        gcongr
        · norm_num
        · exact (le_unitExponent q).1

/-- A number close to a double has no greater unit: otherwise a power of two would separate them,
and the double would be a unit below it. -/
theorem unitExponent_le_of_close (hd : 0 < d) (hq : 0 < q) {n : Int}
    (hn : q = n * 2 ^ unitExponent q) (hclose : |d - q| < 2 ^ unitExponent q / 2) :
    unitExponent d ≤ unitExponent q := by
  have hunit := two_zpow_pos (unitExponent q)
  refine unitExponent_le_iff.mpr ⟨?_, (le_unitExponent q).2⟩
  by_contra hlt
  have hpower : (2 : Rat) ^ (unitExponent q + 53) = (2 ^ 53 : Int) * 2 ^ unitExponent q := by
    rw [zpow_add₀ (by norm_num)]
    norm_num
    ring
  have habove : (2 : Rat) ^ (unitExponent q + 53) ≤ d :=
    (zpow_le_zpow_right₀ (by norm_num) (by omega)).trans (floorLog2_spec hd).1
  have hbelow : q < 2 ^ (unitExponent q + 53) := by
    refine (floorLog2_spec hq).2.trans_le (zpow_le_zpow_right₀ (by norm_num) ?_)
    have hplace := (le_unitExponent q).1
    omega
  have hn' : n + 1 ≤ 2 ^ 53 := by
    have hmultiples : (n : Rat) * 2 ^ unitExponent q < (2 ^ 53 : Int) * 2 ^ unitExponent q := by
      rwa [← hn, ← hpower]
    have hlt := lt_of_mul_lt_mul_right hmultiples hunit.le
    exact_mod_cast hlt
  have hgap : q + 2 ^ unitExponent q ≤ d := by
    calc q + 2 ^ unitExponent q = (n + 1) * 2 ^ unitExponent q := by
          nth_rewrite 1 [hn]
          ring
      _ ≤ (2 ^ 53 : Int) * 2 ^ unitExponent q := by
          gcongr
          exact_mod_cast hn'
      _ ≤ d := by rwa [← hpower]
  have hupper := (abs_lt.mp hclose).2
  linarith

/-- A decimal within half of the seventeenth place of a double is read as it. -/
theorem round_eq_of_seventeen (hq : 0 < q) (h : round q = .finite q)
    (hlead : (10 : Rat) ^ floorLog10 q ≤ d)
    (hclose : |d - q| ≤ 10 ^ (floorLog10 q - 16) / 2) : round d = .finite q := by
  have hd : 0 < d := (zpow_pos (by norm_num) _).trans_le hlead
  have hhalf : ∀ p : Rat, 10 ^ floorLog10 q ≤ p → |d - q| < 2 ^ unitExponent p / 2 := by
    intro p hp
    have hpos : 0 < p := (zpow_pos (by norm_num) _).trans_le hp
    calc |d - q| ≤ 10 ^ (floorLog10 q - 16) / 2 := hclose
      _ = 10 ^ floorLog10 q / (2 * 10 ^ 16) := by
          rw [zpow_sub₀ (by norm_num)]
          norm_num
          ring
      _ ≤ p / (2 * 10 ^ 16) := by gcongr
      _ < 2 ^ unitExponent p / 2 := div_lt_half_unit hpos
  obtain ⟨⟨n, hn⟩, hfinite⟩ := multiple_of_round_eq hq.ne' h
  rw [abs_of_pos hq] at hn
  have hunit : unitExponent d ≤ unitExponent q :=
    unitExponent_le_of_close hd hq hn (hhalf q (floorLog10_spec hq).1)
  obtain ⟨m, hm⟩ := exists_multiple hunit n
  apply round_eq_of_close hd.ne' (n := m)
  · rw [abs_of_pos hd, ← hm]
    exact hn
  · rw [abs_of_pos hd]
    exact hhalf d hlead
  · exact hq.ne'
  · exact hfinite

/-! ## The search -/

theorem round_of_readBack? {x : Decimal} (h : readBack? q count = some x) :
    round x.toRat = .finite q := by
  unfold readBack? at h
  dsimp only at h
  split_ifs at h with hlow hhigh hdown hup heven hhigh
  all_goals obtain rfl := Option.some.inj h
  · exact of_decide_eq_true hlow
  · exact of_decide_eq_true hhigh
  · exact of_decide_eq_true hlow
  · exact of_decide_eq_true hhigh
  · exact of_decide_eq_true hlow
  · exact of_decide_eq_true hhigh

theorem readBack?_isSome (h : round (neighbours q count).1.toRat = .finite q ∨
    round (neighbours q count).2.toRat = .finite q) : (readBack? q count).isSome := by
  unfold readBack?
  dsimp only
  split_ifs with hlow hhigh hdown hup heven hhigh
  any_goals rfl
  rcases h with h | h
  · exact absurd (decide_eq_true h) hlow
  · exact absurd (decide_eq_true h) hhigh

/-- Seventeen digits are enough. -/
theorem readBack?_seventeen (hq : 0 < q) (h : round q = .finite q) :
    (readBack? q 17).isSome := by
  obtain ⟨hlead, hlow, hhigh, hstep⟩ := neighbours_spec hq 17
  apply readBack?_isSome
  rcases le_total (q - (neighbours q 17).1.toRat) ((neighbours q 17).2.toRat - q) with hnear | hnear
  · refine Or.inl (round_eq_of_seventeen hq h hlead ?_)
    rw [abs_of_nonpos (by linarith)]
    norm_num at hstep ⊢
    linarith
  · refine Or.inr (round_eq_of_seventeen hq h ?_ ?_)
    · exact hlead.trans (hlow.trans hhigh)
    · rw [abs_of_nonneg (by linarith)]
      norm_num at hstep ⊢
      linarith

/-- The shortest decimal of a double reads back as it. -/
theorem round_shortest (hq : 0 < q) (h : round q = .finite q) :
    round (shortest q).toRat = .finite q := by
  unfold shortest
  cases hfound : (List.range 17).findSome? fun n => readBack? q (n + 1) with
  | none =>
      have hlast : readBack? q 17 = none := List.findSome?_eq_none_iff.mp hfound 16 (by decide)
      have hsome := readBack?_seventeen hq h
      rw [hlast] at hsome
      cases hsome
  | some x =>
      obtain ⟨n, -, hx⟩ := List.exists_of_findSome?_eq_some hfound
      exact round_of_readBack? hx

theorem digits_shortest_pos (hq : 0 < q) (h : round q = .finite q) : 0 < (shortest q).digits := by
  apply Nat.pos_of_ne_zero
  intro hzero
  have hround := round_shortest hq h
  rw [Decimal.toRat, hzero, Nat.cast_zero, zero_mul, round, if_pos rfl] at hround
  exact hq.ne (Double.finite.inj hround)

end Double

end IssueQuery
