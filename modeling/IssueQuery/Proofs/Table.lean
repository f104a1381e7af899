/-!
# Looking things up in tables

What is found in a table stands in one of its rows.  Hence a property of all rows, which can be
tested, holds for whatever a name finds there.
-/

namespace IssueQuery.Table

variable {α β : Type} [BEq α] [LawfulBEq α] {rows : List (α × β)} {name : α} {v : β}

theorem mem_of_lookup (h : rows.lookup name = some v) : (name, v) ∈ rows := by
  obtain ⟨before, behind, hsplit, -⟩ := List.lookup_eq_some_iff.mp h
  rw [hsplit]
  exact List.mem_append_right before List.mem_cons_self

end IssueQuery.Table
