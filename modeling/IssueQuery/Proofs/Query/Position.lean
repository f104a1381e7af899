import IssueQuery.Proofs.Outcome
import IssueQuery.Query.Filter

/-!
# Positions only show in errors

Where a filter stands in a query matters for what is reported about it, never for what it means:
each step of reading a filter gives the same result at any other position, or fails there too.
-/

namespace IssueQuery

open Outcome

namespace Literal

theorem toOption_readScalar (raw : List Char) (p p' : Nat) :
    (readScalar raw p).toOption = (readScalar raw p').toOption := by
  unfold readScalar
  split
  · split
    · rfl
    · rfl
  · split
    · rfl
    · split
      · rfl
      · rfl

theorem toOption_readElements (raw : List Char) (start start' p p' : Nat)
    (elements : List (List Char)) :
    (readElements raw start p elements).toOption =
      (readElements raw start' p' elements).toOption := by
  induction elements generalizing p p' with
  | nil => rfl
  | cons element elements ih =>
      rw [readElements, readElements]
      split
      · rfl
      · split
        · rfl
        · rw [toOption_bind, toOption_bind, toOption_readScalar _ p p']
          congr 1
          funext value
          rw [toOption_bind, toOption_bind, ih]

theorem toOption_readList (operator : Operator) (raw : List Char) (p p' : Nat) :
    (readList operator raw p).toOption = (readList operator raw p').toOption := by
  unfold readList
  split
  · rfl
  · rw [toOption_bind, toOption_bind, toOption_readElements raw p p' (p + 1) (p' + 1)]
    congr 1
    funext values
    split
    · rfl
    · rfl

end Literal

namespace FilterClause

/-- A split that stands `p` characters further on. -/
def Split.shift (p : Nat) (s : Split) : Split :=
  { s with position := p + s.position }

theorem toOption_splitSymbol (symbol rest : List Char) (p : Nat) :
    (splitSymbol symbol rest p).toOption =
      (splitSymbol symbol rest 0).toOption.map (Split.shift p) := by
  unfold splitSymbol
  split
  · rfl
  · dsimp only
    split
    all_goals
      split
      · rfl
      · simp [Except.toOption, Split.shift]

theorem toOption_splitName (rest : List Char) (p : Nat) :
    (splitName rest p).toOption = (splitName rest 0).toOption.map (Split.shift p) := by
  unfold splitName
  dsimp only
  split
  · split
    · rfl
    · split
      · rfl
      · simp [Except.toOption, Split.shift, Nat.add_assoc]
  · split
    · rfl
    · rfl
  · split
    · rfl
    · rfl
  · rfl

theorem toOption_splitOperator (rest : List Char) (p : Nat) :
    (splitOperator rest p).toOption = (splitOperator rest 0).toOption.map (Split.shift p) := by
  unfold splitOperator
  dsimp only
  split
  · rfl
  · split
    · exact toOption_splitName rest p
    · exact toOption_splitSymbol _ _ p

theorem toOption_readRange (raw low high : List Char) (p p' : Nat) :
    (readRange raw low high p).toOption = (readRange raw low high p').toOption := by
  unfold readRange
  split
  · rfl
  · rw [toOption_bind, toOption_bind, Literal.toOption_readScalar low p p']
    congr 1
    funext a
    rw [toOption_bind, toOption_bind,
      Literal.toOption_readScalar high (p + low.length + 2) (p' + low.length + 2)]

theorem toOption_readWildcard (field : String) (raw : List Char) (p p' : Nat) :
    (readWildcard field raw p).toOption = (readWildcard field raw p').toOption := by
  unfold readWildcard
  split
  · rfl
  · dsimp only
    split
    · rfl
    · rw [toOption_bind, toOption_bind, Literal.toOption_readScalar _ p p']

theorem toOption_readOperand (field : String) (p : Nat) (s : Split) :
    (readOperand field (s.shift p)).toOption = (readOperand field s).toOption := by
  unfold readOperand Split.shift
  dsimp only
  split
  · rfl
  · rename_i raw hraw
    have hscalar : ∀ q q',
        (do return (s.operator, ← Literal.readScalar raw q) : Except SyntaxError _).toOption =
          (do return (s.operator, ← Literal.readScalar raw q')).toOption := by
      intro q q'
      rw [toOption_bind, toOption_bind, Literal.toOption_readScalar raw q q']
    split
    · rw [toOption_bind, toOption_bind,
        Literal.toOption_readList s.operator raw (p + s.position) s.position]
    · split
      · rfl
      · split
        · split
          · exact toOption_readRange _ _ _ _ _
          · split
            · exact toOption_readWildcard _ _ _ _
            · exact hscalar _ _
        · exact hscalar _ _

theorem toOption_checkOperand (field : String) (type : FieldType) (operator : Operator)
    (operand : Value) (t t' : Token) :
    (checkOperand field type operator operand t).toOption =
      (checkOperand field type operator operand t').toOption := by
  unfold checkOperand
  dsimp only
  split
  · rfl
  · split
    · rfl
    · split
      · split
        · split
          · rfl
          · rfl
        · rfl
      · rfl

/-- Tokens with the same text spell the same clause. -/
theorem toOption_ofToken {kind : EntityKind} {t t' : Token} (h : t.text = t'.text) :
    (ofToken kind t).toOption = (ofToken kind t').toOption := by
  unfold ofToken
  dsimp only
  rw [h, toOption_bind, toOption_bind, toOption_splitOperator,
    toOption_splitOperator _ (t'.position + _ + 1), Option.bind_map, Option.bind_map]
  refine congrArg (Option.bind _) (funext fun s => ?_)
  dsimp only [Function.comp]
  split
  · rfl
  · rename_i type htype
    rw [toOption_bind, toOption_bind, toOption_readOperand, toOption_readOperand]
    refine congrArg (Option.bind _) (funext fun p => ?_)
    split
    · rw [toOption_bind, toOption_bind, toOption_checkOperand _ _ _ _ t t']
    · rfl

theorem ofToken_congr {kind : EntityKind} {t t' : Token} {c : FilterClause}
    (h : t.text = t'.text) (ht : ofToken kind t = .ok c) : ofToken kind t' = .ok c := by
  rw [← toOption_eq_some_iff, ← toOption_ofToken h, toOption_eq_some_iff]
  exact ht

end FilterClause

end IssueQuery
