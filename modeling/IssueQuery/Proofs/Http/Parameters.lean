import IssueQuery.Http.Form

/-!
# Parameters that are set

Setting a parameter gives it the new value and leaves the texts of all others as they are sent.
-/

namespace IssueQuery

namespace Value

variable {name : String} {v : Value} {fields : List (String × Value)}

theorem mem_names_insertField {n : String} :
    n ∈ (insertField name v fields).map (·.1) ↔ n = name ∨ n ∈ fields.map (·.1) := by
  induction fields with
  | nil => simp [insertField]
  | cons field fields ih =>
      obtain ⟨m, w⟩ := field
      rw [insertField]
      split
      · rename_i hm
        simp [hm]
      · rw [List.map_cons, List.mem_cons, ih, List.map_cons, List.mem_cons]
        exact or_left_comm

theorem nodup_names_insertField (h : (fields.map (·.1)).Nodup) :
    ((insertField name v fields).map (·.1)).Nodup := by
  induction fields with
  | nil => simp [insertField]
  | cons field fields ih =>
      obtain ⟨m, w⟩ := field
      rw [insertField]
      split
      · exact h
      · rename_i hm
        rw [List.map_cons, List.nodup_cons] at h ⊢
        refine ⟨?_, ih h.2⟩
        rw [mem_names_insertField]
        rintro (hname | hmem)
        · exact hm hname
        · exact h.1 hmem

end Value

namespace Http.Form

open Value

variable {f : Form} {name : String} {v : Value} {parameters : List (String × Value)}

theorem sent_cons (f : Form) (name : String) (v : Value) (parameters : List (String × Value)) :
    f.sent ((name, v) :: parameters) = (f.texts v).map (name, ·) ++ f.sent parameters :=
  List.flatMap_cons

theorem filter_sent_eq_nil_of_not_mem (h : name ∉ parameters.map (·.1)) :
    (f.sent parameters).filter (·.1 = name) = [] := by
  rw [List.filter_eq_nil_iff]
  intro sent hsent
  obtain ⟨field, hfield, hin⟩ := List.mem_flatMap.mp hsent
  obtain ⟨text, -, rfl⟩ := List.mem_map.mp hin
  intro hname
  exact h (of_decide_eq_true hname ▸ List.mem_map_of_mem hfield)

/-- What is sent under a name that has been set is the new value alone. -/
theorem filter_sent_insertField (h : (parameters.map (·.1)).Nodup) :
    (f.sent (insertField name v parameters)).filter (·.1 = name) =
      (f.texts v).map (name, ·) := by
  have hown : ∀ w, ((f.texts w).map (name, ·)).filter (fun sent => decide (sent.1 = name)) =
      (f.texts w).map (name, ·) := by
    intro w
    rw [List.filter_eq_self]
    intro sent hsent
    obtain ⟨text, -, rfl⟩ := List.mem_map.mp hsent
    exact decide_eq_true rfl
  induction parameters with
  | nil =>
      rw [insertField, sent_cons, List.filter_append, hown]
      exact List.append_nil _
  | cons field parameters ih =>
      obtain ⟨n, w⟩ := field
      obtain ⟨hn, hrest⟩ := List.nodup_cons.mp h
      rw [insertField]
      split
      · rename_i hname
        subst hname
        rw [sent_cons, List.filter_append, hown, filter_sent_eq_nil_of_not_mem hn,
          List.append_nil]
      · rename_i hname
        have hother : ((f.texts w).map (n, ·)).filter
            (fun sent => decide (sent.1 = name)) = [] := by
          rw [List.filter_eq_nil_iff]
          intro sent hsent
          obtain ⟨text, -, rfl⟩ := List.mem_map.mp hsent
          simpa using hname
        rw [sent_cons, List.filter_append, hother, List.nil_append, ih hrest]

/-- What is sent under other names stays. -/
theorem filter_sent_insertField_of_not (f : Form) (p : String → Bool) (h : p name = false)
    (v : Value) (parameters : List (String × Value)) :
    (f.sent (insertField name v parameters)).filter (p ·.1) =
      (f.sent parameters).filter (p ·.1) := by
  have hown : ∀ w, ((f.texts w).map (name, ·)).filter (p ·.1) = [] := by
    intro w
    rw [List.filter_eq_nil_iff]
    intro sent hsent
    obtain ⟨text, -, rfl⟩ := List.mem_map.mp hsent
    simpa using h
  induction parameters with
  | nil =>
      rw [insertField, sent_cons, List.filter_append, hown, List.nil_append]
  | cons field parameters ih =>
      obtain ⟨n, w⟩ := field
      rw [insertField]
      split
      · rename_i hname
        subst hname
        rw [sent_cons, sent_cons, List.filter_append, List.filter_append,
          hown, hown]
      · rw [sent_cons, sent_cons, List.filter_append, List.filter_append, ih]

end Http.Form

end IssueQuery
