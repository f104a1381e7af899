import IssueQuery.Proofs.Table
import IssueQuery.Query.Filter

/-!
# Operators and their spellings

What operators are by their spellings, which tables list, and what they are as relations that are
asked for or denied.  Both say the same: the opposite of an operator by the table denies what it
asks for, and each list of operators has those of the relations that it is about.  So every list
has an operator together with its opposite.
-/

namespace IssueQuery

namespace Operator

/-! ## Spellings -/

theorem ofSpelling?_spelling (op : Operator) : ofSpelling? op.spelling = some op := by
  obtain ⟨r, negated⟩ := op
  cases r <;> cases negated <;> rfl

theorem spelling_injective {op op' : Operator} (h : op.spelling = op'.spelling) : op = op' := by
  have hread := ofSpelling?_spelling op
  rw [h, ofSpelling?_spelling] at hread
  exact (Option.some.inj hread).symm

/-! ## Opposites -/

/-- By the table, the opposite of an operator is its negation. -/
theorem lookup_opposites (op : Operator) :
    opposites.lookup op.spelling = some op.negate.spelling := by
  obtain ⟨r, negated⟩ := op
  cases r <;> cases negated <;> rfl

/-- The table has the spellings of operators only. -/
theorem exists_of_lookup_opposites {s s' : String} (h : opposites.lookup s = some s') :
    ∃ op : Operator, s = op.spelling ∧ s' = op.negate.spelling := by
  have hall : ∀ p ∈ opposites, ∃ op ∈ all, p.1 = op.spelling ∧ p.2 = op.negate.spelling := by
    decide +kernel
  obtain ⟨op, -, hs, hs'⟩ := hall _ (Table.mem_of_lookup h)
  exact ⟨op, hs, hs'⟩

theorem lookup_opposites_eq_some_iff {op op' : Operator} :
    opposites.lookup op.spelling = some op'.spelling ↔ op' = op.negate := by
  rw [lookup_opposites, Option.some.injEq]
  exact ⟨fun h => (spelling_injective h).symm, fun h => congrArg spelling h.symm⟩

/-! ## Lists of operators -/

theorem isValueless_eq (op : Operator) :
    op.relation.isValueless = valueless.contains op.spelling := by
  obtain ⟨r, negated⟩ := op
  cases r <;> cases negated <;> rfl

theorem takesList_eq (op : Operator) : op.relation.takesList = listed.contains op.spelling := by
  obtain ⟨r, negated⟩ := op
  cases r <;> cases negated <;> rfl

theorem isOrdering_eq (op : Operator) :
    op.relation.isOrdering = orderings.contains op.spelling := by
  obtain ⟨r, negated⟩ := op
  cases r <;> cases negated <;> rfl

/-- The operators of order are those of the relations of order. -/
theorem contains_orderings_iff {s : String} :
    orderings.contains s ↔ ∃ op : Operator, s = op.spelling ∧ op.relation.isOrdering := by
  constructor
  · intro h
    have hall : ∀ s ∈ orderings, ∃ op ∈ all, s = op.spelling ∧ op.relation.isOrdering := by
      decide +kernel
    obtain ⟨op, -, hop⟩ := hall s (List.contains_iff_mem.mp h)
    exact ⟨op, hop⟩
  · rintro ⟨op, rfl, h⟩
    rwa [← isOrdering_eq]

theorem isTextual_eq (op : Operator) : op.relation.isTextual = textual.contains op.spelling := by
  obtain ⟨r, negated⟩ := op
  cases r <;> cases negated <;> rfl

theorem isRanged_eq (op : Operator) :
    op.relation.isRanged =
      (orderings.contains op.spelling || ranges.contains op.spelling) := by
  obtain ⟨r, negated⟩ := op
  cases r <;> cases negated <;> rfl

theorem admits_eq (op : Operator) (t : FieldType) :
    op.relation.admits t = (fieldTypes op.spelling).contains t := by
  obtain ⟨r, negated⟩ := op
  cases r <;> cases negated <;> cases t <;> rfl

/-- An operator is in a list exactly if its opposite is. -/
def IsClosed (operators : List String) : Prop :=
  ∀ s s', opposites.lookup s = some s' → operators.contains s' = operators.contains s

theorem isClosed_of_rows {operators : List String}
    (h : ∀ p ∈ opposites, operators.contains p.2 = operators.contains p.1) : IsClosed operators :=
  fun _ _ hlookup => h _ (Table.mem_of_lookup hlookup)

theorem isClosed_valueless : IsClosed valueless := isClosed_of_rows (by decide)

theorem isClosed_listed : IsClosed listed := isClosed_of_rows (by decide)

theorem isClosed_ranges : IsClosed ranges := isClosed_of_rows (by decide)

theorem isClosed_orderings : IsClosed orderings := isClosed_of_rows (by decide)

theorem isClosed_textual : IsClosed textual := isClosed_of_rows (by decide)

/-- An operator and its opposite suit the same fields. -/
theorem fieldTypes_opposite {s s' : String} (h : opposites.lookup s = some s') :
    fieldTypes s' = fieldTypes s := by
  rw [fieldTypes, fieldTypes, isClosed_orderings s s' h, isClosed_textual s s' h,
    isClosed_ranges s s' h]

end Operator

/-! ## Opposite filters -/

namespace FilterClause

/-- A filter is the opposite of another one: its operator is the opposite by the table, and the rest
is the same. -/
structure Opposes (c' c : FilterClause) : Prop where
  operator : Operator.opposites.lookup c.operator.spelling = some c'.operator.spelling
  field : c'.field = c.field
  operand : c'.operand = c.operand

variable {c c' : FilterClause}

theorem opposes_negate (c : FilterClause) : c.negate.Opposes c :=
  ⟨Operator.lookup_opposites c.operator, rfl, rfl⟩

theorem Opposes.eq_negate (h : c'.Opposes c) : c' = c.negate := by
  obtain ⟨field, operator, operand⟩ := c'
  obtain rfl : operator = c.operator.negate := Operator.lookup_opposites_eq_some_iff.mp h.operator
  obtain rfl : field = c.field := h.field
  obtain rfl : operand = c.operand := h.operand
  rfl

theorem opposes_iff : c'.Opposes c ↔ c' = c.negate :=
  ⟨Opposes.eq_negate, fun h => h ▸ opposes_negate c⟩

end FilterClause

end IssueQuery
