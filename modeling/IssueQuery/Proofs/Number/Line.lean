import IssueQuery.Number.Basic
import Mathlib

/-!
# The line of numbers

The points of the line are in a consistent order, its ends included, and a number has a point unless
it is no number.
-/

namespace IssueQuery

open Std (TransCmp)

namespace Number

namespace LinePoint

theorem compare_swap (p q : LinePoint) : p.compare q = (q.compare p).swap := by
  cases p with
  | bottom => cases q <;> rfl
  | top => cases q <;> rfl
  | rational p =>
      cases q with
      | bottom => rfl
      | top => rfl
      | rational q =>
          rw [compare, compare]
          rcases lt_trichotomy p q with hlt | heq | hgt
          · rw [if_pos hlt, if_neg hlt.not_gt, if_pos hlt]
            rfl
          · rw [heq, if_neg (lt_irrefl q), if_neg (lt_irrefl q)]
            rfl
          · rw [if_neg hgt.not_gt, if_pos hgt, if_pos hgt]
            rfl

theorem isLE_compare_rational {p q : ℚ} : ((rational p).compare (rational q)).isLE ↔ p ≤ q := by
  rw [compare]
  rcases lt_trichotomy p q with hlt | heq | hgt
  · rw [if_pos hlt]
    exact iff_of_true rfl hlt.le
  · rw [heq, if_neg (lt_irrefl q), if_neg (lt_irrefl q)]
    exact iff_of_true rfl le_rfl
  · rw [if_neg hgt.not_gt, if_pos hgt]
    exact iff_of_false Bool.false_ne_true hgt.not_ge

theorem isLE_compare_bottom (p : LinePoint) : (bottom.compare p).isLE := by
  cases p <;> rfl

theorem isLE_compare_top (p : LinePoint) : (p.compare top).isLE := by
  cases p <;> rfl

theorem isLE_compare_trans {p q r : LinePoint} (hpq : (p.compare q).isLE)
    (hqr : (q.compare r).isLE) : (p.compare r).isLE := by
  cases p with
  | bottom => exact isLE_compare_bottom r
  | top =>
      cases q with
      | top => exact hqr
      | bottom => cases hpq
      | rational q => cases hpq
  | rational p =>
      cases r with
      | top => exact isLE_compare_top _
      | bottom =>
          cases q with
          | bottom => exact hpq
          | top => cases hqr
          | rational q => cases hqr
      | rational r =>
          cases q with
          | bottom => cases hpq
          | top => cases hqr
          | rational q =>
              rw [isLE_compare_rational] at *
              exact hpq.trans hqr

instance : TransCmp LinePoint.compare where
  eq_swap := compare_swap _ _
  isLE_trans := isLE_compare_trans

end LinePoint

/-- Every number that is one has its place on the line. -/
theorem isSome_point? {n : Number} (h : n ≠ .double .nan) : n.point?.isSome := by
  cases n with
  | int n => rfl
  | double x =>
      cases x with
      | nan => exact absurd rfl h
      | infinity negative => cases negative <;> rfl
      | negativeZero => rfl
      | finite q => rfl

theorem point?_eq_none_iff {n : Number} : n.point? = none ↔ n = .double .nan := by
  constructor
  · intro h
    by_contra hnan
    have hsome := isSome_point? hnan
    rw [h] at hsome
    cases hsome
  · rintro rfl
    rfl

/-- Numbers for the same point are the same. -/
theorem same_of_point?_eq {m n : Number} (hn : n ≠ .double .nan) (h : m.point? = n.point?) :
    m.same n := by
  obtain ⟨p, hp⟩ := Option.isSome_iff_exists.mp (isSome_point? hn)
  have hself : p.compare p = .eq := Std.ReflCmp.compare_self
  rw [same, compare?, h, hp]
  simp [hself]

/-- Every number but what is no number is the same as itself. -/
theorem same_self {n : Number} (h : n ≠ .double .nan) : n.same n :=
  same_of_point?_eq h rfl

/-- Integers are compared without being rounded. -/
theorem compare?_int (m n : Int) : compare? (.int m) (.int n) = some (compare m n) := by
  simp only [compare?, point?, LinePoint.compare, Int.cast_lt]
  rcases lt_trichotomy m n with hlt | heq | hgt
  · rw [if_pos hlt, compare_lt_iff_lt.mpr hlt]
  · rw [heq, if_neg (lt_irrefl n), if_neg (lt_irrefl n), compare_eq_iff_eq.mpr rfl]
  · rw [if_neg hgt.not_gt, if_pos hgt, compare_gt_iff_gt.mpr hgt]

theorem same_int (m n : Int) : same (.int m) (.int n) = decide (m = n) := by
  rw [same, compare?_int, Bool.eq_iff_iff, beq_iff_eq, Option.some.injEq, compare_eq_iff_eq,
    decide_eq_true_eq]

end Number

end IssueQuery
