import IssueQuery.Proofs.Match.Bounds
import IssueQuery.Proofs.Match.Calendar
import IssueQuery.Proofs.Match.Equality

/-!
# The values under which a field may be looked for

A field that stands for another record may be looked for under several values.  Equality takes all
of them into account.  Membership does so only if the field has a value of its own, and this value
is no list; it never gets to the alternates of a field without a value.
-/

namespace IssueQuery

open Outcome

namespace Match

variable {now : Moment} {field : String} {r : Record} {v x : Value} {values : List Value}

theorem Resolves.not_failsAt {e : TimeError} (h : Resolves now v) : ¬FailsAt now v e := by
  rintro ⟨k, hk, herror⟩
  obtain ⟨m, hm⟩ := h k hk
  rw [hm] at herror
  cases herror

/-- One value that equals the operand is enough, since no value in front of it fails. -/
theorem equalsAny_of_mem (hresolves : Resolves now v) (hx : x ∈ values)
    (hequals : equals now v x = .ok true) : equalsAny now v values = .ok true := by
  induction values with
  | nil => cases hx
  | cons y ys ih =>
      rw [equalsAny]
      cases hy : equals now v y with
      | error e => exact absurd (failsAt_of_equals hy) hresolves.not_failsAt
      | ok b =>
          rw [ok_bind]
          cases b with
          | true => rfl
          | false =>
              rcases List.mem_cons.mp hx with rfl | hx
              · rw [hequals] at hy
                cases hy
              · exact ih hx

/-- Whether a test for membership finds a value that is among those of a field, by the value that
the field has of its own. -/
def findsBeside (own v : Value) : Bool :=
  match own with
  | .null => v.lowerLabel == "null"
  | .list items => items.any fun item => item.lowerLabel == v.lowerLabel
  | _ => true

theorem isAmong_singleton (v x : Value) :
    isAmong [v.lowerLabel] x = (x.lowerLabel == v.lowerLabel) := by
  rw [isAmong, List.contains_cons, List.contains_nil, Bool.or_false]

theorem oneOf_singleton (hx : x ∈ r.candidates field) (hlabel : x.lowerLabel = v.lowerLabel) :
    oneOf r field (.list [v]) = findsBeside (r.resolve field) v := by
  have hany : (r.candidates field).any (isAmong [v.lowerLabel]) = true := by
    apply List.any_eq_true.mpr
    exact ⟨x, hx, by rw [isAmong_singleton, hlabel, beq_self_eq_true]⟩
  rw [oneOf, List.map_singleton]
  cases r.resolve field with
  | null =>
      rw [findsBeside, List.contains_cons, List.contains_nil, Bool.or_false]
      exact Bool.beq_comm
  | list items =>
      rw [findsBeside]
      exact congrArg items.any (funext fun item => isAmong_singleton v item)
  | _ => exact hany

end Match

namespace FilterClause

/-- If one of the values under which a field may be looked for has the label of an operand, letter
case aside, the record equals the operand.  It is also found by membership unless the value of the
field itself is missing or a list: then only this value is looked at. -/
theorem verdicts_of_same_label (field : String) (v : Value) (hv : v.IsSingle)
    (hspecial : Match.specialWord? field v = none) (now : Moment)
    (hresolves : Match.Resolves now v) (r : Record) (x : Value) (hx : x ∈ r.candidates field)
    (hnull : x ≠ .null) (hlist : ∀ items, x ≠ .list items) (hlabel : x.lowerLabel = v.lowerLabel)
    (hfits : ∀ n, x = .number n ∨ v = .number n → n.FitsDouble)
    (hnan : x ≠ .number (.double .nan) ∨ v ≠ .number (.double .nan)) :
    verdict ⟨field, Relation.equal.holds, v⟩ now r = .ok true ∧
    verdict ⟨field, Relation.equal.fails, v⟩ now r = .ok false ∧
    verdict ⟨field, Relation.oneOf.holds, .list [v]⟩ now r =
      .ok (Match.findsBeside (r.resolve field) v) ∧
    verdict ⟨field, Relation.oneOf.fails, .list [v]⟩ now r =
      .ok !Match.findsBeside (r.resolve field) v := by
  have hequals := Match.equals_of_lowerLabel_eq hv hlabel hnull hlist hfits hnan now
  have hequal : Match.holds now r field .equal v = .ok true := by
    unfold Match.holds
    dsimp only
    rw [hspecial]
    exact Match.equalsAny_of_mem hresolves hx hequals
  have hmember : Match.holds now r field .oneOf (.list [v]) =
      .ok (Match.findsBeside (r.resolve field) v) := by
    unfold Match.holds
    dsimp only
    rw [Match.oneOf_singleton hx hlabel]
  exact ⟨verdict_of_holds hequal, verdict_of_fails hequal, verdict_of_holds hmember,
    verdict_of_fails hmember⟩

/-- A milestone is found under its number as under its name. -/
theorem verdicts_of_same_label_milestone :
    let now : Moment := ⟨.first, .midnight, .utc⟩
    let r : Record :=
      ⟨0, .object [("milestone_slug", .string "S47-S48"), ("milestone", .int 142)]⟩
    verdict ⟨"milestone", Relation.equal.holds, .string "142"⟩ now r = .ok true ∧
    verdict ⟨"milestone", Relation.oneOf.holds, .list [.string "142"]⟩ now r = .ok true := by
  intro now r
  have hspecial : Match.specialWord? "milestone" (.string "142") = none := by decide
  have hkeyword : Match.keyword? (.string "142") = none := by decide
  have hcandidates : r.candidates "milestone" = [.string "S47-S48", .int 142] := rfl
  have hround : (Double.round (142 : Int)).toRat?.isSome := by decide +kernel
  have hfits : Number.FitsDouble (.int 142) := hround
  obtain ⟨hequal, -, hmember, -⟩ := verdicts_of_same_label "milestone" (.string "142") (.string _)
    hspecial now (fun k hk => by rw [hkeyword] at hk; cases hk) r (.int 142)
    (by rw [hcandidates]; simp) (by simp [Value.int]) (by simp [Value.int]) (by decide)
    (by
      rintro n (hn | hn)
      · obtain rfl := Value.number.inj hn
        exact hfits
      · cases hn) (Or.inr (by simp))
  exact ⟨hequal, hmember⟩

/-- A milestone that is only known by its number equals this number, but is not found among several
numbers. -/
theorem not_verdicts_of_same_label_universal : ¬∀ (field : String),
    (Resolver.alternates.lookup field).isSome → ∀ v : Value, v.IsSingle →
      Match.specialWord? field v = none → ∀ (now : Moment) (r : Record) (x : Value),
        x ∈ r.candidates field → x ≠ .null → (∀ items, x ≠ .list items) →
          x.lowerLabel = v.lowerLabel →
            verdict ⟨field, Relation.equal.holds, v⟩ now r = .ok true ∧
            verdict ⟨field, Relation.oneOf.holds, .list [v]⟩ now r = .ok true ∧
            verdict ⟨field, Relation.equal.fails, v⟩ now r = .ok false ∧
            verdict ⟨field, Relation.oneOf.fails, .list [v]⟩ now r = .ok false := by
  intro h
  let r : Record := ⟨0, .object [("milestone_extra_info", .object [("id", .int 5)])]⟩
  have hresolve : r.resolve "milestone" = .null := rfl
  have hcandidates : r.candidates "milestone" = [.null, .int 5] := rfl
  obtain ⟨-, hclaimed, -⟩ := h "milestone" (by decide) (.int 5) (.number _) rfl
    ⟨.first, .midnight, .utc⟩ r (.int 5) (by rw [hcandidates]; simp) (by simp [Value.int])
    (by simp [Value.int]) rfl
  have hmember : Match.holds ⟨.first, .midnight, .utc⟩ r "milestone" .oneOf (.list [.int 5]) =
      .ok (Match.findsBeside (r.resolve "milestone") (.int 5)) := by
    unfold Match.holds
    dsimp only
    rw [Match.oneOf_singleton (x := .int 5) (by rw [hcandidates]; simp) rfl]
  rw [verdict_of_holds hmember, hresolve] at hclaimed
  exact absurd (Except.ok.inj hclaimed) (by decide)

end FilterClause

end IssueQuery
