import IssueQuery.Proofs.Calendar.Vocabulary
import IssueQuery.Proofs.Match.Branches
import IssueQuery.Proofs.Number.Line
import IssueQuery.Proofs.Query.Appending
import IssueQuery.Proofs.Query.Joining
import IssueQuery.Proofs.Query.WellFormed

/-!
# A range is both of its bounds

A range looks at a value and its two bounds together, while a bound by itself is only compared with
the value.  Both comparisons go down the same steps, numbers before moments, and which step they
stop at depends on the value: one that is a number stops at numbers with every bound that the
reader lets through, and one that is a moment is never a number.
-/

namespace IssueQuery

open Outcome

namespace Number

theorem round_ne_nan (q : Rat) : Double.round q ≠ .nan := by
  unfold Double.round
  dsimp only
  split_ifs <;> exact Double.noConfusion

theorem ofDecimal_ne_nan (negative : Bool) (mantissa : Nat) (exponent : Int) :
    Double.ofDecimal negative mantissa exponent ≠ .nan := by
  have hzero : (if negative then Double.negativeZero else .finite 0) ≠ .nan := by
    cases negative <;> exact Double.noConfusion
  unfold Double.ofDecimal
  dsimp only
  by_cases hmantissa : mantissa = 0
  · rwa [if_pos hmantissa]
  · rw [if_neg hmantissa]
    split
    · exact Double.noConfusion
    · split
      · exact hzero
      · exact round_ne_nan _

/-- A text never stands for what is no number. -/
theorem read?_ne_nan {s : String} {n : Number} (h : read? s = some n) : n ≠ .double .nan := by
  obtain ⟨x, -, rfl⟩ := Option.map_eq_some_iff.mp h
  unfold Numeral.toNumber
  split
  · simp
  · intro h
    exact ofDecimal_ne_nan _ _ _ (Number.double.inj h)

end Number

namespace Value

theorem toNumber?_ne_nan {v : Value} {n : Number} (h : v.toNumber? = some n) :
    n ≠ .double .nan := by
  unfold toNumber? at h
  split at h
  · cases h
  · rename_i m hm
    cases h
    simpa using hm
  · exact Number.read?_ne_nan h
  · cases h

/-- A text that stands for a moment is no numeral. -/
theorem toNumber?_of_readMoment? {s : String} (h : (readMoment? s).isSome) :
    toNumber? (.string s) = none := by
  unfold readMoment? at h
  dsimp only at h
  split at h
  · cases h
  · rename_i hnumeral
    rw [toNumber?, Number.read?, Option.not_isSome_iff_eq_none.mp hnumeral, Option.map_none]

end Value

namespace Match

variable {now : Moment} {actual low high v : Value}

/-- The time keyword that an operand spells, if it does, stands for a moment. -/
def Resolves (now : Moment) (v : Value) : Prop :=
  ∀ k, keyword? v = some k → ∃ m, k.resolve now = .ok m

theorem exists_moment?_eq_ok (h : Resolves now v) : ∃ m, moment? now v = .ok m := by
  unfold moment?
  split
  · rename_i k hk
    obtain ⟨m, hm⟩ := h k hk
    rw [hm]
    exact ⟨some m, rfl⟩
  · exact ⟨_, rfl⟩

/-- The operands that are recognised as keywords are those that are read as one. -/
theorem isSome_keyword? (v : Value) : (keyword? v).isSome = FilterClause.isTimeKeyword v := by
  cases v with
  | string s => exact (TimeKeyword.recognises_eq s).symm
  | _ => rfl

/-- An operand that the reader lets through on a field of dates stands for a moment. -/
theorem exists_moment?_eq_ok_some (h : Resolves now v)
    (hv : FilterClause.isTimeKeyword v ∨ v.toMoment?.isSome) :
    ∃ m, moment? now v = .ok (some m) := by
  unfold moment?
  split
  · rename_i k hk
    obtain ⟨m, hm⟩ := h k hk
    rw [hm]
    exact ⟨m, rfl⟩
  · rename_i hk
    have hmoment : v.toMoment?.isSome := by
      refine hv.resolve_left fun hkeyword => ?_
      rw [← isSome_keyword?, hk] at hkeyword
      cases hkeyword
    obtain ⟨m, hm⟩ := Option.isSome_iff_exists.mp hmoment
    exact ⟨m, by rw [hm]⟩

theorem exists_compareNumbers?_eq_some (ha : actual.toNumber?.isSome) (hv : v.toNumber?.isSome) :
    ∃ o, compareNumbers? actual v = some o := by
  obtain ⟨m, hm⟩ := Option.isSome_iff_exists.mp ha
  obtain ⟨n, hn⟩ := Option.isSome_iff_exists.mp hv
  obtain ⟨p, hp⟩ := Option.isSome_iff_exists.mp (Number.isSome_point? (Value.toNumber?_ne_nan hm))
  obtain ⟨q, hq⟩ := Option.isSome_iff_exists.mp (Number.isSome_point? (Value.toNumber?_ne_nan hn))
  exact ⟨p.compare q, by rw [compareNumbers?, hm, hn]; simp only [Number.compare?, hp, hq]⟩

theorem compareNumbers?_eq_none (ha : actual.toNumber? = none) (v : Value) :
    compareNumbers? actual v = none := by
  rw [compareNumbers?, ha]

theorem compareMoments_swap (a b : Moment) : (compareMoments a b).swap = compareMoments b a := by
  unfold compareMoments
  by_cases hab : a.instant < b.instant
  · rw [if_pos hab, if_neg (by omega), if_pos hab]
    rfl
  · rw [if_neg hab]
    by_cases hba : b.instant < a.instant
    · rw [if_pos hba, if_pos hba]
      rfl
    · rw [if_neg hba, if_neg hba, if_neg hab]
      rfl

/-- A bound that is not behind a moment is one that the moment does not lie before. -/
theorem decide_compareMoments_swap (a m : Moment) :
    decide (compareMoments a m ≠ .gt) = decide (compareMoments m a ≠ .lt) := by
  rw [← compareMoments_swap m a]
  cases compareMoments m a <;> rfl

/-! ## A bound by itself -/

theorem ordered_null (now : Moment) (r : Relation) (v : Value) :
    ordered now r .null v = .ok false := rfl

/-- What has a value is ordered as it compares. -/
theorem ordered_of_orderOf {o : Ordering} (r : Relation) (hactual : actual ≠ .null)
    (h : orderOf now actual v = .ok o) : ordered now r actual v = .ok (satisfies r o) := by
  have hnull : actual.isNull = false := by
    cases actual with
    | null => exact absurd rfl hactual
    | _ => rfl
  rw [ordered, hnull, h]
  rfl

theorem ordered_of_compareNumbers? {o : Ordering} (r : Relation) (hactual : actual ≠ .null)
    (h : compareNumbers? actual v = some o) : ordered now r actual v = .ok (satisfies r o) :=
  ordered_of_orderOf r hactual (by rw [orderOf, h])

theorem ordered_of_moments {m a : Moment} (r : Relation) (hnumber : actual.toNumber? = none)
    (hm : actual.toMoment? = some m) (ha : moment? now v = .ok (some a)) :
    ordered now r actual v = .ok (satisfies r (compareMoments m a)) := by
  have hactual : actual ≠ .null := by
    rintro rfl
    cases hm
  apply ordered_of_orderOf r hactual
  rw [orderOf, compareNumbers?_eq_none hnumber, ha, hm]
  rfl

/-! ## Both bounds -/

/-- A value lies in a range exactly if it is neither below the lower nor above the upper bound, and
all three comparisons have a verdict. -/
def IsBothBounds (now : Moment) (actual low high : Value) : Prop :=
  ∃ atLeast atMost, ordered now .greaterEqual actual low = .ok atLeast ∧
    ordered now .lessEqual actual high = .ok atMost ∧
    within now actual low high = .ok (atLeast && atMost)

/-- What has no value meets no bound and lies in no range. -/
theorem isBothBounds_null (hlow : Resolves now low) (hhigh : Resolves now high) :
    IsBothBounds now .null low high := by
  obtain ⟨a, ha⟩ := exists_moment?_eq_ok hlow
  obtain ⟨b, hb⟩ := exists_moment?_eq_ok hhigh
  refine ⟨false, false, ordered_null _ _ _, ordered_null _ _ _, ?_⟩
  rw [within, compareNumbers?_eq_none rfl, ha, hb]
  rfl

theorem isBothBounds_of_number (hactual : actual.toNumber?.isSome) (hlow : low.toNumber?.isSome)
    (hhigh : high.toNumber?.isSome) : IsBothBounds now actual low high := by
  obtain ⟨o, ho⟩ := exists_compareNumbers?_eq_some hactual hlow
  obtain ⟨p, hp⟩ := exists_compareNumbers?_eq_some hactual hhigh
  have hnull : actual ≠ .null := by
    rintro rfl
    cases hactual
  refine ⟨_, _, ordered_of_compareNumbers? _ hnull ho, ordered_of_compareNumbers? _ hnull hp, ?_⟩
  simp only [within, ho, hp, satisfies]

theorem isBothBounds_of_moment {m a b : Moment} (hnumber : actual.toNumber? = none)
    (hm : actual.toMoment? = some m) (ha : moment? now low = .ok (some a))
    (hb : moment? now high = .ok (some b)) : IsBothBounds now actual low high := by
  refine ⟨_, _, ordered_of_moments _ hnumber hm ha, ordered_of_moments _ hnumber hm hb, ?_⟩
  rw [within, compareNumbers?_eq_none hnumber, ha, hb, hm]
  simp only [ok_bind, decide_compareMoments_swap a m, satisfies]
  rfl

end Match

/-! ## Ranges in queries -/

namespace Query

open FilterClause

/-- A value that a range on a field of some type can say something about: none at all, a number on a
field of numbers, and a text that stands for a moment on a field of dates. -/
inductive IsComparable (type : FieldType) : Value → Prop where
  | nothing : IsComparable type .null
  | number {v : Value} : type = .number → v.toNumber?.isSome → IsComparable type v
  | date {s : String} : type = .date → (Value.readMoment? s).isSome →
      IsComparable type (.string s)

/-- A clause of a query holds of the records whose value lies between its two bounds exactly where
both bounds hold by themselves. -/
theorem between_is_both_bounds (kind : EntityKind) (text : String) (q : Query)
    (hread : read kind text = .ok q) (field : String) (low high : Value)
    (hclause : ⟨field, Relation.between.holds, .list [low, high]⟩ ∈ q.filters) (now : Moment)
    (hlow : Match.Resolves now low) (hhigh : Match.Resolves now high) (r : Record)
    (hvalue : ∀ type, Field.type? kind field = some type → IsComparable type (r.resolve field)) :
    ∃ atLeast atMost,
      verdict ⟨field, Relation.greaterEqual.holds, low⟩ now r = .ok atLeast ∧
      verdict ⟨field, Relation.lessEqual.holds, high⟩ now r = .ok atMost ∧
      verdict ⟨field, Relation.between.holds, .list [low, high]⟩ now r =
        .ok (atLeast && atMost) := by
  obtain ⟨-, tokens, -, htokens⟩ := read_eq_ok_iff.mp hread
  have hwell := (wellFormed_of_ofTokens htokens).filters _ hclause
  obtain ⟨type, htype, -, hsuits⟩ := hwell.typed
  have hranged : Relation.between.isRanged := by decide
  have hbounds : ∀ v ∈ [low, high], v ∈ parts (.list [low, high]) := fun v hv => hv
  have hboth : Match.IsBothBounds now (r.resolve field) low high := by
    have hcomparable := hvalue type htype
    generalize r.resolve field = actual at hcomparable
    cases hcomparable with
    | nothing => exact Match.isBothBounds_null hlow hhigh
    | number hnumber hactual =>
        exact Match.isBothBounds_of_number hactual
          (hsuits.number hnumber hranged low (hbounds low (by simp)))
          (hsuits.number hnumber hranged high (hbounds high (by simp)))
    | date hdate hactual =>
        obtain ⟨m, hm⟩ := Option.isSome_iff_exists.mp hactual
        obtain ⟨a, ha⟩ := Match.exists_moment?_eq_ok_some hlow
          (hsuits.date hdate hranged low (hbounds low (by simp)))
        obtain ⟨b, hb⟩ := Match.exists_moment?_eq_ok_some hhigh
          (hsuits.date hdate hranged high (hbounds high (by simp)))
        exact Match.isBothBounds_of_moment (Value.toNumber?_of_readMoment? hactual) hm ha hb
  obtain ⟨atLeast, atMost, hatLeast, hatMost, hwithin⟩ := hboth
  exact ⟨atLeast, atMost, verdict_of_holds hatLeast, verdict_of_holds hatMost,
    verdict_of_holds hwithin⟩

theorem read_since_new_year :
    read .issue "created:2024-01-01..today" = .ok ⟨.issue, [⟨"created", Relation.between.holds,
      .list [.string "2024-01-01", .string "today"]⟩], .all, {}, "created:2024-01-01..today"⟩ := by
  have htoken : Token.ofQuery "created:2024-01-01..today" =
      .ok [⟨.fieldExpr, "created:2024-01-01..today", 0⟩] := by
    rw [Token.ofQuery_of_isPlain (by decide) (by decide)]
    cbv
  have hname : "created:2024-01-01..today".toList.takeWhile (· ≠ ':') = "created".toList := by
    cbv
  have hsplit : splitOperator
      ("created:2024-01-01..today".toList.drop ("created".toList.length + 1))
      (0 + "created".toList.length + 1) =
        .ok ⟨Relation.equal.holds, some "2024-01-01..today".toList, 8⟩ := by
    cbv
  have hfield : Field.canonical (String.ofList "created".toList) = "created" := by cbv
  have htype : Field.type? .issue "created" = some .date := by cbv
  have hoperand : readOperand "created"
      ⟨Relation.equal.holds, some "2024-01-01..today".toList, 8⟩ =
        .ok (Relation.between.holds, .list [.string "2024-01-01", .string "today"]) := by
    cbv
  have hchecked : checkOperand "created" .date Relation.between.holds
      (.list [.string "2024-01-01", .string "today"])
      ⟨.fieldExpr, "created:2024-01-01..today", 0⟩ =
        .ok (.list [.string "2024-01-01", .string "today"]) := by
    have hkeyword : isTimeKeyword (.string "today") = true := by cbv
    have hmoment : (Value.toMoment? (.string "2024-01-01")).isNone = false := by decide +kernel
    simp [checkOperand, parts, hkeyword, hmoment]
  have hclause : ofToken .issue ⟨.fieldExpr, "created:2024-01-01..today", 0⟩ =
      .ok ⟨"created", Relation.between.holds, .list [.string "2024-01-01", .string "today"]⟩ := by
    rw [ofToken]
    dsimp only
    rw [hname, hsplit, ok_bind, hfield, htype]
    dsimp only
    rw [hoperand, ok_bind]
    dsimp only
    rw [if_pos (by decide), hchecked]
    rfl
  exact read_of_ofToken htoken rfl hclause

theorem resolves_since_new_year (now : Moment) :
    ∀ v ∈ parts (.list [.string "2024-01-01", .string "today"]), Match.Resolves now v := by
  have hdate : Match.keyword? (.string "2024-01-01") = none := by cbv
  have htoday : Match.keyword? (.string "today") = some .today := by cbv
  intro v hv k hk
  rcases List.mem_pair.mp hv with rfl | rfl
  · rw [hdate] at hk
    cases hk
  · rw [htoday] at hk
    cases hk
    exact ⟨_, rfl⟩

/-- At noon of the 12th of June 2024, an issue of the 1st of March is asked for. -/
theorem between_is_both_bounds_today :
    let now : Moment := ⟨⟨2024, 6, 12, by decide, by decide, by decide, by decide⟩,
      ⟨43200000000, by decide⟩, .utc⟩
    let r : Record := ⟨0, .object [("created_date", .string "2024-03-01T10:00:00Z")]⟩
    let range : FilterClause :=
      ⟨"created", Relation.between.holds, .list [.string "2024-01-01", .string "today"]⟩
    ∃ q, read .issue "created:2024-01-01..today" = .ok q ∧ range ∈ q.filters ∧
      ∃ atLeast atMost,
        verdict ⟨"created", Relation.greaterEqual.holds, .string "2024-01-01"⟩ now r =
          .ok atLeast ∧
        verdict ⟨"created", Relation.lessEqual.holds, .string "today"⟩ now r = .ok atMost ∧
        verdict range now r = .ok (atLeast && atMost) := by
  intro now r range
  have htype : Field.type? .issue "created" = some .date := by cbv
  have hvalue : r.resolve "created" = .string "2024-03-01T10:00:00Z" := by cbv
  have hresolves := resolves_since_new_year now
  refine ⟨_, read_since_new_year, List.mem_cons_self,
    between_is_both_bounds .issue "created:2024-01-01..today" _ read_since_new_year "created" _ _
      List.mem_cons_self _ (hresolves _ List.mem_cons_self)
      (hresolves _ (List.mem_cons_of_mem _ List.mem_cons_self)) _ ?_⟩
  intro type h
  rw [htype] at h
  cases h
  rw [hvalue]
  exact .date rfl (by decide +kernel)

end Query

end IssueQuery
