import IssueQuery.Match.Clause
import IssueQuery.Proofs.Outcome
import IssueQuery.Proofs.Query.OperatorTable

/-!
# What each operator asks for

The verdict of a clause is found by its operator, spelling by spelling, and each operator has a
branch of its own.  All of them come in pairs: a branch that asks for a relation and one that denies
it.  So a verdict is that of a relation, turned around if the operator is the negation of one.
-/

namespace IssueQuery

open Outcome

namespace Match

/-- Whether a field of a record stands in a relation to an operand. -/
def holds (now : Moment) (record : Record) (field : String) (r : Relation) (operand : Value) :
    Except TimeError Bool :=
  let actual := record.resolve field
  match r with
  | .equal =>
    match specialWord? field operand with
    | some word => special now record field word
    | none => equalsAny now operand (record.candidates field)
  | .greater | .greaterEqual | .less | .lessEqual => ordered now r actual operand
  | .contains => .ok (contains actual operand)
  | .startsWith => .ok (startsWith actual operand)
  | .endsWith => .ok (endsWith actual operand)
  | .fuzzy => .ok (hasWords actual operand)
  | .oneOf => .ok (oneOf record field operand)
  | .between => between now actual operand
  | .exists => .ok !actual.isNull
  | .empty => .ok actual.isEmpty

variable {now : Moment} {record : Record} {field : String} {operand : Value}

theorem holds_of_isOrdering {r : Relation} (h : r.isOrdering) (record : Record) (field : String)
    (v : Value) : holds now record field r v = ordered now r (record.resolve field) v := by
  cases r with
  | greater | greaterEqual | less | lessEqual => rfl
  | _ => cases h

/-- The operators of order have the relations that they ask for or deny. -/
theorem compareOrdering_eq (now : Moment) (actual operand : Value) {r : Relation}
    (h : r.isOrdering) :
    compareOrdering now actual r.holds.spelling operand = ordered now r actual operand ∧
    compareOrdering now actual r.fails.spelling operand =
      (ordered now r actual operand).map (!·) := by
  have hturned : ∀ x : Except TimeError Bool, (do return !(← x)) = x.map (!·) := by
    intro x
    cases x <;> rfl
  cases r with
  | greater | greaterEqual | less | lessEqual => exact ⟨rfl, hturned _⟩
  | _ => cases h

/-- A branch that asks for a relation. -/
theorem evaluate_holds (now : Moment) (record : Record) (field : String) (r : Relation)
    (operand : Value) :
    evaluate now record field r.holds.spelling operand = holds now record field r operand := by
  cases r with
  | equal =>
      have hsymbol : Relation.equal.holds.spelling = "=" := rfl
      rw [hsymbol, evaluate, if_pos (Or.inl rfl), holds]
      cases specialWord? field operand with
      | some word =>
          dsimp only
          cases special now record field word <;> rfl
      | none => rfl
  | greater => exact (compareOrdering_eq now _ operand (r := .greater) rfl).1
  | greaterEqual => exact (compareOrdering_eq now _ operand (r := .greaterEqual) rfl).1
  | less => exact (compareOrdering_eq now _ operand (r := .less) rfl).1
  | lessEqual => exact (compareOrdering_eq now _ operand (r := .lessEqual) rfl).1
  | _ => rfl

/-- A branch that denies a relation. -/
theorem evaluate_fails (now : Moment) (record : Record) (field : String) (r : Relation)
    (operand : Value) :
    evaluate now record field r.fails.spelling operand =
      (holds now record field r operand).map (!·) := by
  cases r with
  | equal =>
      have hsymbol : Relation.equal.fails.spelling = "!=" := rfl
      rw [hsymbol, evaluate, if_pos (Or.inr rfl), holds]
      cases specialWord? field operand with
      | some word =>
          dsimp only
          cases special now record field word <;> rfl
      | none =>
          dsimp only
          cases equalsAny now operand (record.candidates field) <;> rfl
  | greater => exact (compareOrdering_eq now _ operand (r := .greater) rfl).2
  | greaterEqual => exact (compareOrdering_eq now _ operand (r := .greaterEqual) rfl).2
  | less => exact (compareOrdering_eq now _ operand (r := .less) rfl).2
  | lessEqual => exact (compareOrdering_eq now _ operand (r := .lessEqual) rfl).2
  | between =>
      show (do return !(← between now (record.resolve field) operand)) =
        (between now (record.resolve field) operand).map (!·)
      cases between now (record.resolve field) operand <;> rfl
  | «exists» =>
      show Except.ok (record.resolve field).isNull = Except.ok !!(record.resolve field).isNull
      rw [Bool.not_not]
  | _ => rfl

/-- What is no operator rules nothing out. -/
theorem evaluate_of_no_operator {s : String} (h : Operator.ofSpelling? s = none) :
    evaluate now record field s operand = .ok true := by
  have hother : ∀ op : Operator, s ≠ op.spelling := by
    rintro op rfl
    rw [Operator.ofSpelling?_spelling] at h
    cases h
  have hequal : ¬(s = "=" ∨ s = "!=") :=
    fun hs => hs.elim (hother Relation.equal.holds) (hother Relation.equal.fails)
  have hordering : ¬Operator.orderings.contains s := by
    rw [Operator.contains_orderings_iff]
    rintro ⟨op, rfl, -⟩
    exact hother op rfl
  unfold evaluate
  rw [if_neg hequal]
  dsimp only
  split
  case h_5 =>
    rw [if_neg hordering]
    split
    case h_15 => rfl
    all_goals cases h
  all_goals cases h

end Match

namespace FilterClause

variable {c : FilterClause} {now : Moment} {r : Record} {field : String} {relation : Relation}
  {operand : Value} {b : Bool}

/-- A verdict is that of the relation which the operator asks for, turned around if it denies it. -/
theorem verdict_eq (c : FilterClause) (now : Moment) (r : Record) :
    c.verdict now r = do
      let holds ← Match.holds now r c.field c.operator.relation c.operand
      return holds != c.operator.negated := by
  obtain ⟨field, ⟨relation, negated⟩, operand⟩ := c
  cases negated with
  | false =>
      refine (Match.evaluate_holds now r field relation operand).trans ?_
      cases Match.holds now r field relation operand with
      | error e => rfl
      | ok b => exact congrArg Except.ok (Bool.bne_false b).symm
  | true =>
      refine (Match.evaluate_fails now r field relation operand).trans ?_
      cases Match.holds now r field relation operand with
      | error e => rfl
      | ok b => exact congrArg Except.ok (Bool.bne_true b).symm

theorem verdict_eq_ok (h : Match.holds now r c.field c.operator.relation c.operand = .ok b) :
    c.verdict now r = .ok (b != c.operator.negated) := by
  rw [verdict_eq, h]
  rfl

/-- A clause that asks for a relation has the verdict of that relation. -/
theorem verdict_of_holds (h : Match.holds now r field relation operand = .ok b) :
    verdict ⟨field, relation.holds, operand⟩ now r = .ok b :=
  (verdict_eq_ok h).trans (congrArg Except.ok (Bool.bne_false b))

theorem verdict_of_fails (h : Match.holds now r field relation operand = .ok b) :
    verdict ⟨field, relation.fails, operand⟩ now r = .ok !b :=
  (verdict_eq_ok h).trans (congrArg Except.ok (Bool.bne_true b))

end FilterClause

end IssueQuery
