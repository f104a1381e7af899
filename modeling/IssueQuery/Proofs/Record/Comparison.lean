import IssueQuery.Proofs.Number.Line
import IssueQuery.Proofs.Text.Order
import IssueQuery.Record.Sorting

/-!
# Orders of values

Among texts alone, among numbers alone and among all other values alone, the comparison of a sorted
list is a consistent order: by collation, along the rational line and by labels.
-/

namespace IssueQuery

open Std (TransCmp)

/-- The kinds of values that are sorted by one rule. -/
inductive SortKind where
  | text
  | number
  | other
  deriving DecidableEq

namespace SortKind

/-- The values of a kind; what is no number is of no kind. -/
inductive Has : SortKind → Value → Prop where
  | text (s : String) : Has .text (.string s)
  | number {n : Number} : n ≠ .double .nan → Has .number (.number n)
  | other {v : Value} : (∀ s, v ≠ .string s) → (∀ n, v ≠ .number n) → Has .other v

/-- The point of the line that a value stands for; only those of numbers matter. -/
def point : Value → Number.LinePoint
  | .number n => n.point?.getD .bottom
  | _ => .bottom

/-- The order of values by the rule of a kind, applied to all values. -/
def order : SortKind → Value → Value → Ordering
  | text => fun v w => (Text.collationKey v.label).compare (Text.collationKey w.label)
  | number => fun v w => (point v).compare (point w)
  | other => fun v w => Text.compareChars v.label.toList w.label.toList

instance (kind : SortKind) : TransCmp kind.order := by
  have htext := Text.transCmp_comap Text.CollationKey.compare fun v : Value =>
    Text.collationKey v.label
  have hnumber := Text.transCmp_comap Number.LinePoint.compare point
  have hother := Text.transCmp_comap Text.compareChars fun v : Value => v.label.toList
  cases kind with
  | text => exact htext
  | number => exact hnumber
  | other => exact hother

variable {kind : SortKind} {v w : Value}

/-- Two texts and two numbers have rules of their own; all other pairs stand in the order of their
labels. -/
theorem sortOrder_eq_other (htext : ∀ s t, ¬(v = .string s ∧ w = .string t))
    (hnumber : ¬(v.isNumber ∧ w.isNumber)) : v.sortOrder w = SortKind.other.order v w := by
  rw [Value.sortOrder]
  · rfl
  · exact fun s t hv hw => htext s t ⟨hv, hw⟩
  · rintro m n rfl rfl
    exact hnumber ⟨rfl, rfl⟩

/-- Values of one kind are compared by its rule. -/
theorem sortOrder_eq_order (hv : kind.Has v) (hw : kind.Has w) :
    v.sortOrder w = kind.order v w := by
  cases hv with
  | text s =>
      cases hw with
      | text t => simp only [Value.sortOrder, order, Value.label]
  | number hm =>
      cases hw with
      | number hn =>
          obtain ⟨p, hp⟩ := Option.isSome_iff_exists.mp (Number.isSome_point? hm)
          obtain ⟨q, hq⟩ := Option.isSome_iff_exists.mp (Number.isSome_point? hn)
          simp only [Value.sortOrder, order, point, Number.compare?, hp, hq, Option.getD_some]
  | other hstring hnumber =>
      apply sortOrder_eq_other
      · exact fun s _ h => hstring s h.1
      · rintro ⟨hv, -⟩
        cases v with
        | number n => exact hnumber n rfl
        | _ => cases hv

end SortKind

/-! ## Texts next to numbers -/

namespace Value

variable {a b c v w : Value}

/-- A text or a number, as fields that stand for other records have them. -/
def IsNameOrNumber (v : Value) : Prop :=
  SortKind.text.Has v ∨ SortKind.number.Has v

/-- Two values stand in the order of their labels if they are of one kind. -/
def FollowsLabels (v w : Value) : Prop :=
  ∀ kind : SortKind, kind.Has v → kind.Has w →
    (v.sortOrder w = .gt ↔ SortKind.other.order v w = .gt)

/-- A text and a number stand in the order of their labels in any case. -/
theorem sortOrder_ne_gt_iff (hv : v.IsNameOrNumber) (hw : w.IsNameOrNumber)
    (h : v.FollowsLabels w) : v.sortOrder w ≠ .gt ↔ SortKind.other.order v w ≠ .gt := by
  refine not_congr ?_
  rcases hv with hv | hv
  · rcases hw with hw | hw
    · exact h .text hv hw
    · cases hv
      cases hw
      rw [SortKind.sortOrder_eq_other (fun _ _ h => by cases h.2) fun h => by cases h.1]
  · rcases hw with hw | hw
    · cases hv
      cases hw
      rw [SortKind.sortOrder_eq_other (fun _ _ h => by cases h.1) fun h => by cases h.2]
    · exact h .number hv hw

/-- The comparison of texts and numbers is transitive among values of one kind, and where the values
of one kind stand in the order of their labels. -/
theorem sortOrder_trans (ha : a.IsNameOrNumber) (hb : b.IsNameOrNumber) (hc : c.IsNameOrNumber)
    (h : (∃ kind : SortKind, kind.Has a ∧ kind.Has b ∧ kind.Has c) ∨
      (a.FollowsLabels b ∧ b.FollowsLabels c ∧ a.FollowsLabels c))
    (hab : a.sortOrder b ≠ .gt) (hbc : b.sortOrder c ≠ .gt) : a.sortOrder c ≠ .gt := by
  rcases h with ⟨kind, hkinda, hkindb, hkindc⟩ | ⟨hfab, hfbc, hfac⟩
  · rw [SortKind.sortOrder_eq_order hkinda hkindb] at hab
    rw [SortKind.sortOrder_eq_order hkindb hkindc] at hbc
    rw [SortKind.sortOrder_eq_order hkinda hkindc]
    exact Text.ne_gt_trans kind.order hab hbc
  · rw [sortOrder_ne_gt_iff ha hb hfab] at hab
    rw [sortOrder_ne_gt_iff hb hc hfbc] at hbc
    rw [sortOrder_ne_gt_iff ha hc hfac]
    exact Text.ne_gt_trans SortKind.other.order hab hbc

/-- The numbers 2 and 3 stand in the order of their labels, and a name comes after both. -/
theorem sortOrder_trans_two :
    (int 2).IsNameOrNumber ∧ (int 3).IsNameOrNumber ∧ (string "bug").IsNameOrNumber ∧
      ((int 2).FollowsLabels (int 3) ∧ (int 3).FollowsLabels (string "bug") ∧
        (int 2).FollowsLabels (string "bug")) ∧
      (int 2).sortOrder (int 3) ≠ .gt ∧ (int 3).sortOrder (string "bug") ≠ .gt ∧
      (int 2).sortOrder (string "bug") ≠ .gt := by
  have htwo : (int 2).IsNameOrNumber := .inr (.number (by decide))
  have hthree : (int 3).IsNameOrNumber := .inr (.number (by decide))
  have hbug : (string "bug").IsNameOrNumber := .inl (.text "bug")
  have hfirst : (int 2).FollowsLabels (int 3) := fun _ _ _ =>
    iff_of_false (by decide) (by decide)
  have hsecond : (int 3).FollowsLabels (string "bug") := fun _ _ _ =>
    iff_of_false (by decide) (by decide)
  have hthird : (int 2).FollowsLabels (string "bug") := fun _ _ _ =>
    iff_of_false (by decide) (by decide)
  exact ⟨htwo, hthree, hbug, ⟨hfirst, hsecond, hthird⟩, by decide, by decide,
    sortOrder_trans htwo hthree hbug (.inr ⟨hfirst, hsecond, hthird⟩) (by decide) (by decide)⟩

/-- The number 9 comes before the number 10, which is equal to the text `10`, but the text comes
before 9. -/
theorem not_sortOrder_trans : ¬∀ a b c : Value, a.IsNameOrNumber → b.IsNameOrNumber →
    c.IsNameOrNumber → a.sortOrder b ≠ .gt → b.sortOrder c ≠ .gt → a.sortOrder c ≠ .gt := by
  intro h
  have hnine : (int 9).IsNameOrNumber := .inr (.number (by decide))
  have hten : (int 10).IsNameOrNumber := .inr (.number (by decide))
  refine h (int 9) (int 10) (string "10") hnine hten (.inl (.text "10")) ?_ ?_ ?_
  · decide
  · decide
  · decide

end Value

end IssueQuery
