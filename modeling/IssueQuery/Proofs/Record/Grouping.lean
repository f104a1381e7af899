import IssueQuery.Proofs.FirstUse
import IssueQuery.Record.Grouping
import Mathlib.Algebra.GroupWithZero.Nat

/-!
# Groups split the records

The labels of the groups are those that occur, each once, in the order in which they are first met.
Hence the groups split the records between them: every record is in the group of its label and in
no other, and none is lost or doubled.
-/

namespace IssueQuery

namespace Group

/-- The name of the group for a value: its label, unless there is no value or an empty one. -/
structure Names (v : Value) (name : String) : Prop where
  ofNothing : v = .null ∨ v = .string "" → name = undefinedLabel
  ofSomething : v ≠ .null → v ≠ .string "" → name = v.label

theorem names_labelOf (v : Value) : Names v (labelOf v) where
  ofNothing := by
    rintro (rfl | rfl)
    · rfl
    · rfl
  ofSomething := by
    intro hnull hempty
    cases v with
    | null => exact absurd rfl hnull
    | string s =>
        have hs : s.isEmpty = false := by
          rw [Bool.eq_false_iff]
          intro hs
          exact hempty (congrArg Value.string (String.isEmpty_iff.mp hs))
        rw [labelOf, hs]
        rfl
    | bool b => rfl
    | number n => rfl
    | list items => rfl
    | object fields => rfl
    | dateTime t => rfl
    | date d => rfl

/-- Groups that split a list of records by the labels of a field. -/
structure Partition (field : String) (records : List Record) (groups : List Group) : Prop where
  distinct : (groups.map (·.label)).Nodup
  /-- Groups stand in the order in which their labels are first met. -/
  firstSeen : groups.Pairwise fun g h =>
    (records.map (labelIn field)).idxOf g.label < (records.map (labelIn field)).idxOf h.label
  /-- The items of a group are all records with its label, in their order. -/
  items : ∀ g ∈ groups, g.items = records.filter (labelIn field · = g.label)
  nonempty : ∀ g ∈ groups, g.items ≠ []
  /-- Every record is in the group that is named by its value, and in no other. -/
  unique : ∀ r ∈ records, ∃ g ∈ groups, r ∈ g.items ∧ Names (r.resolve field) g.label ∧
    ∀ h ∈ groups, r ∈ h.items → h = g
  perm : (groups.flatMap (·.items)).Perm records
  counted : ∀ g ∈ groups, g.count = g.items.length
  total : (groups.map count).sum = records.length

/-- The loop that files records keeps, under each label met so far, the records with this label. -/
theorem ofRecords_eq (field : String) (records : List Record) :
    ofRecords field records = (firstUses (records.map (labelIn field))).map fun label =>
      { label
        items := records.filter (labelIn field · = label)
        count := (records.filter (labelIn field · = label)).length } := by
  have happend : ∀ rs : List Record, rs.foldl (fun items r => items ++ [r]) [] = rs := by
    intro rs
    rw [List.foldl_append_eq_append, ← List.flatMap_def, List.flatMap_singleton', List.nil_append]
  have hloop := Dictionary.foldl_alter (labelIn field) [] (fun r items => items ++ [r]) records
  simp only [happend] at hloop
  rw [ofRecords]
  unfold file
  rw [hloop, List.map_map]
  rfl

theorem map_label_ofRecords (field : String) (records : List Record) :
    (ofRecords field records).map (·.label) = firstUses (records.map (labelIn field)) := by
  rw [ofRecords_eq, List.map_map]
  exact List.map_id _

theorem partition_ofRecords (field : String) (records : List Record) :
    Partition field records (ofRecords field records) := by
  have hitems : ∀ g ∈ ofRecords field records,
      g.items = records.filter (labelIn field · = g.label) := by
    intro g hg
    rw [ofRecords_eq] at hg
    obtain ⟨label, -, rfl⟩ := List.mem_map.mp hg
    rfl
  have hcount : ∀ g ∈ ofRecords field records, g.count = g.items.length := by
    intro g hg
    obtain ⟨⟨label, items⟩, -, rfl⟩ := List.mem_map.mp hg
    rfl
  have hlabel : ∀ g ∈ ofRecords field records, ∀ r ∈ g.items, labelIn field r = g.label := by
    intro g hg r hr
    rw [hitems g hg] at hr
    exact of_decide_eq_true (List.mem_filter.mp hr).2
  have hnodup := nodup_firstUses (records.map (labelIn field))
  rw [← map_label_ofRecords] at hnodup
  have hperm : ((ofRecords field records).flatMap (·.items)).Perm records := by
    rw [ofRecords_eq, List.flatMap_map]
    refine flatMap_filter_perm (nodup_firstUses _) fun r hr => ?_
    exact mem_firstUses.mpr (List.mem_map_of_mem hr)
  exact {
    distinct := hnodup
    firstSeen := by
      have h := pairwise_idxOf_firstUses (records.map (labelIn field))
      rwa [← map_label_ofRecords, List.pairwise_map] at h
    items := hitems
    nonempty := by
      intro g hg hnil
      have hmem : g.label ∈ firstUses (records.map (labelIn field)) := by
        rw [← map_label_ofRecords]
        exact List.mem_map_of_mem hg
      obtain ⟨r, hr, hlabel⟩ := List.mem_map.mp (mem_firstUses.mp hmem)
      rw [hitems g hg, List.filter_eq_nil_iff] at hnil
      exact hnil r hr (decide_eq_true hlabel)
    unique := by
      intro r hr
      obtain ⟨g, hg, hrg⟩ := List.mem_flatMap.mp (hperm.mem_iff.mpr hr)
      refine ⟨g, hg, hrg, hlabel g hg r hrg ▸ names_labelOf _, ?_⟩
      intro h hh hrh
      exact List.inj_on_of_nodup_map hnodup hh hg
        ((hlabel h hh r hrh).symm.trans (hlabel g hg r hrg))
    perm := hperm
    counted := hcount
    total := by
      rw [← hperm.length_eq, List.length_flatMap]
      exact congrArg List.sum (List.map_congr_left hcount) }

end Group

end IssueQuery
