import IssueQuery.Proofs.Match.Selection
import IssueQuery.Proofs.Record.Grouping

/-!
# What a result set is made of

The steps behind the filters neither lose nor double anything: sorting keeps the records, grouping
splits them, and only the limit leaves entries out, from the end.
-/

namespace IssueQuery

open Outcome

/-- Sorting gives the same records in another order. -/
theorem SortOrder.apply_perm (order : SortOrder) (records : List Record) :
    (order.apply records).Perm records := by
  have hkeyed : (records.map fun r => (r.resolve order.field, r)).map (·.2) = records := by
    rw [List.map_map]
    exact List.map_id _
  unfold apply
  dsimp only
  rw [← List.map_append]
  conv => rhs; rw [← hkeyed]
  refine List.Perm.map _ ?_
  refine ((List.mergeSort_perm _ _).append_left _).trans ?_
  exact List.filter_append_perm _ _

namespace Entries

theorem length_toValues (entries : Entries) : entries.toValues.length = entries.size := by
  cases entries with
  | records items => exact List.length_map _
  | groups items => exact List.length_map _

/-- The records of all entries. -/
def content : Entries → List Record
  | records items => items
  | groups items => items.flatMap (·.items)

theorem mem_content_of_take {n : Nat} {entries : Entries} {r : Record}
    (h : r ∈ (entries.take n).content) : r ∈ entries.content := by
  cases entries with
  | records items => exact List.mem_of_mem_take h
  | groups items =>
      obtain ⟨g, hg, hr⟩ := List.mem_flatMap.mp h
      exact List.mem_flatMap.mpr ⟨g, List.mem_of_mem_take hg, hr⟩

end Entries

namespace ResultSet

variable {q : Query} {now : Moment} {records : List Record} {r : ResultSet}

theorem arrange_perm (q : Query) (records : List Record) : (arrange q records).Perm records := by
  unfold arrange
  split
  · exact SortOrder.apply_perm _ _
  · exact .refl _

/-- A result is made of the records that the query accepts. -/
theorem ofRecords_eq_ok_iff :
    ofRecords q now records = .ok r ↔
      (∃ kept, filter q now records = .ok kept) ∧
        r = {
          query := q
          entries := cut q (bundle q (arrange q (records.filter (q.accepts now))))
          total := (cut q (bundle q (arrange q (records.filter (q.accepts now))))).size
          executedAt := now
          fetched := records.length
          matched := (records.filter (q.accepts now)).length } := by
  unfold ofRecords
  rw [bind_eq_ok_iff]
  constructor
  · rintro ⟨kept, hkept, hr⟩
    rw [pure_eq_ok_iff] at hr
    exact ⟨⟨kept, hkept⟩, by rw [← hr, eq_filter_of_filter_eq_ok hkept]⟩
  · rintro ⟨⟨kept, hkept⟩, rfl⟩
    exact ⟨kept, hkept, by rw [eq_filter_of_filter_eq_ok hkept]; rfl⟩

/-- Every record of a result is one of those that it has been made of. -/
theorem mem_of_mem_content (h : ofRecords q now records = .ok r) {x : Record}
    (hx : x ∈ r.entries.content) : x ∈ records := by
  obtain ⟨-, rfl⟩ := ofRecords_eq_ok_iff.mp h
  have hbundle : x ∈ (bundle q (arrange q (records.filter (q.accepts now)))).content := by
    dsimp only at hx
    unfold cut at hx
    split at hx
    · exact Entries.mem_content_of_take hx
    · exact hx
  have harrange : x ∈ arrange q (records.filter (q.accepts now)) := by
    unfold bundle at hbundle
    split at hbundle
    · rename_i field _
      exact (Group.partition_ofRecords field _).perm.mem_iff.mp hbundle
    · exact hbundle
  exact (List.mem_filter.mp ((arrange_perm q _).mem_iff.mp harrange)).1

/-- The failure of a result is that of a filter. -/
theorem ofRecords_eq_error_iff {e : TimeError} :
    ofRecords q now records = .error e ↔ filter q now records = .error e := by
  rw [ofRecords, bind_eq_error_iff]
  constructor
  · rintro (h | ⟨kept, -, h⟩)
    · exact h
    · cases h
  · exact Or.inl

/-- Behind a query without a limit, the entries are all that the accepted records make. -/
theorem cut_eq_self (h : q.trailer.limit = none) (entries : Entries) : cut q entries = entries := by
  rw [cut, h]

end ResultSet

end IssueQuery
