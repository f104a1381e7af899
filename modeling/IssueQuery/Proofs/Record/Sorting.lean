import IssueQuery.Proofs.Record.Comparison
import IssueQuery.Proofs.ResultSet

/-!
# Sorted lists

Where the values of a field are of one kind, sorting is what its name says, in both directions:
nothing is lost, what has no value comes first, the rest is in order, and what is equal stays in the
order that it had.
-/

namespace IssueQuery

open Std (OrientedCmp TransCmp)

/-! ## Sorting by a consistent order -/

section MergeSort

variable {α : Type} {cmp : α → α → Ordering} [TransCmp cmp] {as bs : List α} {a : α}

theorem isLE_total (a b : α) : ((cmp a b).isLE || (cmp b a).isLE) = true := by
  have hswap : cmp b a = (cmp a b).swap := OrientedCmp.eq_swap
  rw [hswap]
  cases cmp a b <;> rfl

theorem pairwise_isLE_mergeSort (cmp : α → α → Ordering) [TransCmp cmp] (as : List α) :
    (as.mergeSort fun a b => (cmp a b).isLE).Pairwise fun a b => (cmp a b).isLE :=
  List.pairwise_mergeSort (fun _ _ _ => TransCmp.isLE_trans) isLE_total as

/-- What is equal to an element is sorted already, so it keeps its order among all others. -/
theorem filter_mergeSort (as : List α) (a : α) :
    (as.mergeSort fun b c => (cmp b c).isLE).filter (cmp a · = .eq) =
      as.filter (cmp a · = .eq) := by
  have hequal : (as.filter (cmp a · = .eq)).Pairwise fun b c => (cmp b c).isLE := by
    refine List.pairwise_of_forall_mem_list fun b hb c hc => ?_
    have hab : cmp a b = .eq := of_decide_eq_true (List.mem_filter.mp hb).2
    have hac : cmp a c = .eq := of_decide_eq_true (List.mem_filter.mp hc).2
    rw [TransCmp.congr_left hab] at hac
    rw [hac]
    rfl
  have hsublist := List.sublist_mergeSort (fun _ _ _ => TransCmp.isLE_trans) isLE_total hequal
    List.filter_sublist
  have hfilter := hsublist.filter (cmp a · = .eq)
  rw [List.filter_filter] at hfilter
  simp only [Bool.and_self] at hfilter
  exact (hfilter.eq_of_length ((List.mergeSort_perm _ _).filter _).length_eq.symm).symm

end MergeSort

/-! ## The order of records -/

namespace SortKind

/-- The order of records that a field and a direction ask for, by the rule of a kind. -/
def rank (kind : SortKind) (order : SortOrder) : Record → Record → Ordering :=
  match order.direction with
  | .ascending => fun r s => kind.order (r.resolve order.field) (s.resolve order.field)
  | .descending => fun r s => kind.order (s.resolve order.field) (r.resolve order.field)

variable {kind : SortKind} {order : SortOrder} {r s : Record}

instance (kind : SortKind) (order : SortOrder) : TransCmp (kind.rank order) := by
  have hvalues := Text.transCmp_comap kind.order fun r : Record => r.resolve order.field
  unfold rank
  cases order.direction with
  | ascending => exact hvalues
  | descending => exact Text.transCmp_flip _

/-- Records whose values are of one kind are put in the order of that kind. -/
theorem mayPrecede_eq_isLE_rank (hr : kind.Has (r.resolve order.field))
    (hs : kind.Has (s.resolve order.field)) :
    SortOrder.mayPrecede order.direction (r.resolve order.field) (s.resolve order.field) =
      (kind.rank order r s).isLE := by
  unfold SortOrder.mayPrecede rank
  cases order.direction with
  | ascending =>
      simp only [sortOrder_eq_order hr hs]
      cases kind.order (r.resolve order.field) (s.resolve order.field) <;> rfl
  | descending =>
      have hswap : kind.order (s.resolve order.field) (r.resolve order.field) =
          (kind.order (r.resolve order.field) (s.resolve order.field)).swap := OrientedCmp.eq_swap
      simp only [sortOrder_eq_order hr hs, hswap]
      cases kind.order (r.resolve order.field) (s.resolve order.field) <;> rfl

theorem rank_eq_eq_iff (hr : kind.Has (r.resolve order.field))
    (hs : kind.Has (s.resolve order.field)) :
    kind.rank order r s = .eq ↔
      (r.resolve order.field).sortOrder (s.resolve order.field) = .eq := by
  have hswap : kind.order (s.resolve order.field) (r.resolve order.field) = .eq ↔
      kind.order (r.resolve order.field) (s.resolve order.field) = .eq := OrientedCmp.eq_comm
  rw [sortOrder_eq_order hr hs]
  unfold rank
  cases order.direction with
  | ascending => rfl
  | descending => exact hswap

end SortKind

namespace SortOrder

/-! ## Sorted records -/

/-- Whether a record has no value of the field. -/
def isMissing (order : SortOrder) (r : Record) : Bool :=
  (r.resolve order.field).isNull

/-- Whether a record has a value that is equal to that of `r`. -/
def isTied (order : SortOrder) (r s : Record) : Bool :=
  !order.isMissing s && (r.resolve order.field).sortOrder (s.resolve order.field) = .eq

/-- All values of the field that there are in a list of records are of one kind. -/
def IsUniform (order : SortOrder) (kind : SortKind) (records : List Record) : Prop :=
  ∀ r ∈ records, order.isMissing r = false → kind.Has (r.resolve order.field)

/-- Whether a value in front of another one is in the order of a direction. -/
def InOrder (direction : Direction) (v w : Value) : Prop :=
  match direction with
  | .ascending => v.sortOrder w ≠ .gt
  | .descending => v.sortOrder w ≠ .lt

/-- What a sorted list of records is to the list that it has been made of. -/
structure Arranges (order : SortOrder) (records sorted : List Record) : Prop where
  perm : sorted.Perm records
  /-- Records without a value come first, in the order that they had. -/
  missing_first : sorted =
    records.filter order.isMissing ++ sorted.filter (!order.isMissing ·)
  in_order : (sorted.filter (!order.isMissing ·)).Pairwise fun r s =>
    InOrder order.direction (r.resolve order.field) (s.resolve order.field)
  /-- Records with equal values stand in the order that they had. -/
  stable : ∀ r ∈ records, order.isMissing r = false →
    sorted.filter (order.isTied r) = records.filter (order.isTied r)
  /-- Sorted again, the list stays as it is. -/
  settled : order.apply sorted = sorted

variable {order : SortOrder} {kind : SortKind} {records : List Record}

theorem inOrder_iff {direction : Direction} {v w : Value} :
    InOrder direction v w ↔ mayPrecede direction v w := by
  cases direction with
  | ascending => simp [InOrder, mayPrecede]
  | descending => simp [InOrder, mayPrecede]

/-- The pairs of values and records that are sorted stand for the records alone. -/
theorem apply_eq (order : SortOrder) (records : List Record) :
    order.apply records = records.filter order.isMissing ++
      (records.filter (!order.isMissing ·)).mergeSort fun r s =>
        mayPrecede order.direction (r.resolve order.field) (s.resolve order.field) := by
  have hmap : ∀ rs : List Record, (rs.map fun r => (r.resolve order.field, r)).map (·.2) = rs := by
    intro rs
    rw [List.map_map]
    exact List.map_id rs
  unfold apply
  dsimp only
  rw [List.filter_map, List.filter_map, hmap]
  congr 1
  rw [← List.map_mergeSort (r := fun r s =>
    mayPrecede order.direction (r.resolve order.field) (s.resolve order.field))
    (fun _ _ _ _ => rfl), hmap]
  rfl

theorem IsUniform.has_of_present (h : order.IsUniform kind records) :
    ∀ r ∈ records.filter (!order.isMissing ·), kind.Has (r.resolve order.field) := by
  intro r hr
  obtain ⟨hr, hpresent⟩ := List.mem_filter.mp hr
  exact h r hr (by simpa using hpresent)

theorem apply_eq_of_isUniform (h : order.IsUniform kind records) :
    order.apply records = records.filter order.isMissing ++
      (records.filter (!order.isMissing ·)).mergeSort fun r s => (kind.rank order r s).isLE := by
  rw [apply_eq]
  congr 1
  have hsame := List.map_mergeSort
    (r := fun r s => mayPrecede order.direction (r.resolve order.field) (s.resolve order.field))
    (s := fun r s => (kind.rank order r s).isLE) (f := id)
    fun r hr s hs =>
      SortKind.mayPrecede_eq_isLE_rank (h.has_of_present r hr) (h.has_of_present s hs)
  rwa [List.map_id, List.map_id] at hsame

/-- Records that all have values and are in order stay as they are. -/
theorem apply_eq_self (hpresent : ∀ r ∈ records, order.isMissing r = false)
    (h : records.Pairwise fun r s =>
      InOrder order.direction (r.resolve order.field) (s.resolve order.field)) :
    order.apply records = records := by
  have hnone : records.filter order.isMissing = [] := by
    rw [List.filter_eq_nil_iff]
    intro r hr
    simp [hpresent r hr]
  have hall : records.filter (!order.isMissing ·) = records := by
    rw [List.filter_eq_self]
    intro r hr
    simp [hpresent r hr]
  rw [apply_eq, hnone, hall, List.nil_append, List.mergeSort_of_pairwise]
  exact h.imp inOrder_iff.mp

section Uniform

variable (h : order.IsUniform kind records)

include h

theorem isUniform_apply : order.IsUniform kind (order.apply records) :=
  fun r hr => h r ((order.apply_perm records).mem_iff.mp hr)

theorem filter_missing_apply :
    (order.apply records).filter order.isMissing = records.filter order.isMissing := by
  have hnone : ((records.filter (!order.isMissing ·)).mergeSort fun r s =>
      (kind.rank order r s).isLE).filter order.isMissing = [] := by
    rw [List.filter_eq_nil_iff]
    intro r hr
    simpa using (List.mem_filter.mp (List.mem_mergeSort.mp hr)).2
  rw [apply_eq_of_isUniform h, List.filter_append, List.filter_filter, hnone, List.append_nil]
  simp only [Bool.and_self]

theorem filter_present_apply : (order.apply records).filter (!order.isMissing ·) =
    (records.filter (!order.isMissing ·)).mergeSort fun r s => (kind.rank order r s).isLE := by
  have hnone : (records.filter order.isMissing).filter (!order.isMissing ·) = [] := by
    rw [List.filter_eq_nil_iff]
    intro r hr
    simpa using (List.mem_filter.mp hr).2
  rw [apply_eq_of_isUniform h, List.filter_append, hnone, List.nil_append, List.filter_eq_self]
  intro r hr
  exact (List.mem_filter.mp (List.mem_mergeSort.mp hr)).2

/-- What has a value is in order. -/
theorem pairwise_inOrder_apply : ((order.apply records).filter (!order.isMissing ·)).Pairwise
    fun r s => InOrder order.direction (r.resolve order.field) (s.resolve order.field) := by
  have hhas := (isUniform_apply h).has_of_present
  have hsorted := pairwise_isLE_mergeSort (kind.rank order) (records.filter (!order.isMissing ·))
  rw [← filter_present_apply h] at hsorted
  refine hsorted.imp_of_mem fun hr hs hle => ?_
  rw [inOrder_iff, SortKind.mayPrecede_eq_isLE_rank (hhas _ hr) (hhas _ hs), hle]

theorem filter_isTied_apply {r : Record} (hr : r ∈ records) (hpresent : order.isMissing r = false) :
    (order.apply records).filter (order.isTied r) = records.filter (order.isTied r) := by
  have htied : ∀ rs : List Record, (∀ s ∈ rs, s ∈ records) → rs.filter (order.isTied r) =
      (rs.filter (!order.isMissing ·)).filter (kind.rank order r · = .eq) := by
    intro rs hrs
    rw [List.filter_filter]
    refine List.filter_congr fun s hs => ?_
    unfold isTied
    cases hmissing : order.isMissing s with
    | true => simp
    | false =>
        have hrank := SortKind.rank_eq_eq_iff (h r hr hpresent) (h s (hrs s hs) hmissing)
        simp [hrank]
  rw [htied _ fun s => (order.apply_perm records).mem_iff.mp, htied _ fun s hs => hs,
    filter_present_apply h, filter_mergeSort]

/-- What is sorted already stays as it is. -/
theorem apply_apply : order.apply (order.apply records) = order.apply records := by
  rw [apply_eq_of_isUniform (isUniform_apply h), filter_missing_apply h, filter_present_apply h,
    List.mergeSort_of_pairwise (pairwise_isLE_mergeSort _ _)]
  exact (apply_eq_of_isUniform h).symm

end Uniform

/-- Records are sorted by any field whose values are all texts, all numbers, or all neither. -/
theorem apply_arranges (order : SortOrder) (kind : SortKind) (records : List Record)
    (h : order.IsUniform kind records) : order.Arranges records (order.apply records) where
  perm := order.apply_perm records
  missing_first := by
    rw [filter_present_apply h]
    exact apply_eq_of_isUniform h
  in_order := pairwise_inOrder_apply h
  stable := fun _ hr hpresent => filter_isTied_apply h hr hpresent
  settled := apply_apply h

/-- Five records, two of them without a reference and two with the same one. -/
theorem apply_arranges_references :
    let records := Record.ofValues [.object [("ref", .int 3)], .object [],
      .object [("ref", .int 1)], .object [("ref", .null)], .object [("ref", .double (.finite 3))]]
    IsUniform ⟨"ref", .descending⟩ .number records ∧
      Arranges ⟨"ref", .descending⟩ records (apply ⟨"ref", .descending⟩ records) := by
  intro records
  have hvalues : records.map (·.resolve "ref") =
      [.int 3, .null, .int 1, .null, .double (.finite 3)] := by
    cbv
  have huniform : IsUniform ⟨"ref", .descending⟩ .number records := by
    intro r hr hpresent
    have hvalue := List.mem_map_of_mem (f := (·.resolve "ref")) hr
    rw [hvalues] at hvalue
    unfold isMissing at hpresent
    dsimp only at hvalue hpresent ⊢
    generalize r.resolve "ref" = v at hvalue hpresent ⊢
    simp only [List.mem_cons, List.not_mem_nil, or_false] at hvalue
    rcases hvalue with rfl | rfl | rfl | rfl | rfl
    · exact .number (by decide)
    · cases hpresent
    · exact .number (by decide)
    · cases hpresent
    · exact .number (by decide)
  exact ⟨huniform, apply_arranges _ _ _ huniform⟩

end SortOrder

end IssueQuery
