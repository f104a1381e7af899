import IssueQuery.Proofs.Match.Representation
import IssueQuery.Proofs.Number.LetterCase

/-!
# Letter case of operands

Relations that do not ask for an order take no notice of the case of ASCII letters: what they read
off an operand is the same for its normal form in small letters.  There is one exception.  Equality
takes only the small letters of `null` to ask for a missing value, so any other spelling of it
misses the values that are missing, and nothing else.
-/

namespace IssueQuery

open Outcome Text

namespace Value

mutual

/-- A text with its ASCII letters small, or a list with those of its elements. -/
def toLower : Value → Value
  | .null => .null
  | .bool b => .bool b
  | .number n => .number n
  | .string s => .string s.toLower
  | .list items => .list (toLowerItems items)
  | .object fields => .object fields
  | .dateTime t => .dateTime t
  | .date d => .date d

/-- The elements of a list with their ASCII letters small. -/
def toLowerItems : List Value → List Value
  | [] => []
  | v :: vs => toLower v :: toLowerItems vs

end

theorem toLowerItems_eq_map (vs : List Value) : toLowerItems vs = vs.map toLower := by
  induction vs with
  | nil => rfl
  | cons v vs ih => rw [toLowerItems, ih, List.map_cons]

/-- Texts differ in the case of ASCII letters only if their characters do. -/
theorem toLower_string {s t : String} (h : s.toList.map Char.toLower = t.toList.map Char.toLower) :
    toLower (.string s) = toLower (.string t) := by
  apply congrArg Value.string
  apply String.toList_injective
  rw [toList_toLower, toList_toLower, h]

end Value

namespace Match

variable {now : Moment} {field : String} {r : Record} {v w x : Value} {values : List Value}

/-! ## Labels -/

mutual

theorem toLower_label (v : Value) : v.toLower.label.toLower = v.label.toLower := by
  cases v with
  | string s =>
      rw [Value.toLower, Value.label, Value.label, toLower_toLower]
  | list items =>
      rw [Value.toLower, Value.label, Value.label, toLower_intercalate, toLower_intercalate,
        toLower_labelItems]
  | _ => rfl

theorem toLower_labelItems (vs : List Value) :
    (Value.labelItems (Value.toLowerItems vs)).map String.toLower =
      (Value.labelItems vs).map String.toLower := by
  cases vs with
  | nil => rfl
  | cons v vs =>
      have hv := toLower_label v
      have hvs := toLower_labelItems vs
      cases v <;> simp_all [Value.toLowerItems, Value.toLower, Value.labelItems]

end

theorem lowerLabel_toLower (v : Value) : v.toLower.lowerLabel = v.lowerLabel := by
  rw [Value.lowerLabel, ← lower_toLower, toLower_label, lower_toLower, Value.lowerLabel]

theorem plainLabel_toLower (v : Value) : plainLabel v.toLower = plainLabel v := by
  rw [plainLabel_eq_trim, lowerLabel_toLower, plainLabel_eq_trim]

/-! ## Operands -/

theorem toNumber?_toLower (v : Value) : v.toLower.toNumber? = v.toNumber? := by
  cases v with
  | string s => rw [Value.toLower, Value.toNumber?, Value.toNumber?, Number.read?_toLower]
  | _ => rfl

theorem keyword?_toLower (v : Value) : keyword? v.toLower = keyword? v := by
  cases v with
  | string s =>
      rw [Value.toLower, keyword?, keyword?, TimeKeyword.read?_eq_of_lower (lower_toLower s)]
  | _ => rfl

theorem specialWord?_toLower (field : String) (v : Value) :
    specialWord? field v.toLower = specialWord? field v := by
  cases v with
  | string s => rw [Value.toLower, specialWord?, specialWord?, lower_toLower]
  | _ => rfl

theorem isBlankOperand_toLower (v : Value) : isBlankOperand v.toLower = isBlankOperand v := by
  cases v with
  | string s => rw [Value.toLower, isBlankOperand, isBlankOperand, isEmpty_toLower]
  | _ => rfl

theorem testLabels_toLower (test : List Char → List Char → Bool) (actual v : Value) :
    testLabels test actual v.toLower = testLabels test actual v := by
  rw [testLabels, isBlankOperand_toLower, lowerLabel_toLower, testLabels]

theorem oneOf_toLower (r : Record) (field : String) (v : Value) :
    oneOf r field v.toLower = oneOf r field v := by
  cases v with
  | list items =>
      have hlabels : (items.map Value.toLower).map Value.lowerLabel =
          items.map Value.lowerLabel := by
        rw [List.map_map]
        exact List.map_congr_left fun v _ => lowerLabel_toLower v
      rw [Value.toLower, Value.toLowerItems_eq_map, oneOf, hlabels, oneOf]
  | _ => rfl

/-! ## Equality -/

mutual

/-- Whether a value is missing, or an element of it is. -/
def holdsNothing : Value → Bool
  | .list items => holdsNothingItems items
  | v => v.isNull

/-- Whether one of several values is missing, or an element of them is. -/
def holdsNothingItems : List Value → Bool
  | [] => false
  | v :: vs => holdsNothing v || holdsNothingItems vs

end

theorem same_list (items : List Value) (hx : ∀ items, x ≠ .list items) :
    x.same (.list items) = false := by
  cases x with
  | list items => exact absurd rfl (hx items)
  | _ => rfl

theorem sameValue_toLower (hx : ∀ items, x ≠ .list items) (v : Value) :
    sameValue x v.toLower = sameValue x v := by
  have hstring : isString v.toLower = isString v := by
    cases v <;> rfl
  have hsame : isString v = false → x.same v.toLower = x.same v := by
    intro htext
    cases v with
    | string s => cases htext
    | list items => rw [Value.toLower, same_list _ hx, same_list _ hx]
    | _ => rfl
  rw [sameValue, toNumber?_toLower, plainLabel_toLower, hstring, sameValue]
  cases htext : isString v with
  | true => rw [Bool.or_true]; rfl
  | false => rw [hsame htext]

theorem equalsOne_toLower (hx : ∀ items, x ≠ .list items) (v : Value) :
    equalsOne now v.toLower x = equalsOne now v x := by
  rw [equalsOne, keyword?_toLower, sameValue_toLower hx, equalsOne]

theorem equalsOne_of_letters (hx : ∀ items, x ≠ .list items) (h : v.toLower = w.toLower) :
    equalsOne now v x = equalsOne now w x := by
  rw [← equalsOne_toLower hx v, h, equalsOne_toLower hx]

mutual

/-- Only the question for a missing value depends on the case of letters. -/
theorem equals_of_letters (h : v.toLower = w.toLower) (hasks : asksForNothing v = asksForNothing w)
    (x : Value) : equals now v x = equals now w x := by
  cases x with
  | null => rw [equals, equals, hasks]
  | list items => rw [equals, equals, equalsAny_of_letters h hasks]
  | _ =>
      rw [equals, equals]
      exact equalsOne_of_letters (by simp) h

theorem equalsAny_of_letters (h : v.toLower = w.toLower)
    (hasks : asksForNothing v = asksForNothing w) (values : List Value) :
    equalsAny now v values = equalsAny now w values := by
  cases values with
  | nil => rfl
  | cons x xs =>
      rw [equalsAny, equalsAny, equals_of_letters h hasks, equalsAny_of_letters h hasks]

end

/-! ### Spellings of `null` -/

/-- What asks for a missing value is no time keyword in any letters. -/
theorem keyword?_of_asksForNothing (h : v.toLower = w.toLower) (hw : asksForNothing w) :
    keyword? v = none := by
  rw [← keyword?_toLower, h, keyword?_toLower]
  cases w with
  | string s =>
      obtain rfl : s = "null" := by simpa [asksForNothing] using hw
      decide
  | _ => rfl

mutual

/-- Asked for in small letters, missing values are found besides what other letters find. -/
theorem exists_equals_of_letters (h : v.toLower = w.toLower) (hv : asksForNothing v = false)
    (hw : asksForNothing w) (x : Value) :
    ∃ b, equals now v x = .ok b ∧ equals now w x = .ok (b || holdsNothing x) := by
  cases x with
  | null =>
      refine ⟨false, ?_, ?_⟩
      · rw [equals, hv]
      · rw [equals, hw]
        rfl
  | list items =>
      obtain ⟨b, hb, hb'⟩ := exists_equalsAny_of_letters h hv hw items
      refine ⟨b, ?_, ?_⟩
      · rw [equals, hb]
      · rw [equals, hb', holdsNothing]
  | _ =>
      rw [equals, equals, ← equalsOne_of_letters (by simp) h]
      refine ⟨_, equalsOne_eq_sameValue fun k hk => ?_, ?_⟩
      · rw [keyword?_of_asksForNothing h hw] at hk
        cases hk
      · rw [equalsOne_eq_sameValue fun k hk => ?_]
        · exact congrArg Except.ok (Bool.or_false _).symm
        · rw [keyword?_of_asksForNothing h hw] at hk
          cases hk

theorem exists_equalsAny_of_letters (h : v.toLower = w.toLower) (hv : asksForNothing v = false)
    (hw : asksForNothing w) (values : List Value) :
    ∃ b, equalsAny now v values = .ok b ∧
      equalsAny now w values = .ok (b || holdsNothingItems values) := by
  cases values with
  | nil => exact ⟨false, rfl, rfl⟩
  | cons x xs =>
      -- The search may stop at `x` for the one operand and go on for the other, which is why both
      -- have to be known not to fail behind it.
      obtain ⟨b, hb, hb'⟩ := exists_equals_of_letters h hv hw x
      obtain ⟨c, hc, hc'⟩ := exists_equalsAny_of_letters h hv hw xs
      refine ⟨b || c, ?_, ?_⟩
      · rw [equalsAny, hb, hc]
        cases b <;> rfl
      · rw [equalsAny, hb', hc', holdsNothingItems]
        cases b <;> cases holdsNothing x <;> cases c <;> rfl

end

/-! ## Relations -/

/-- Relations without order take no notice of letters, except that equality asks for a missing value
in small letters only. -/
theorem holds_of_letters {relation : Relation} (hrelation : relation.isRanged = false)
    (h : v.toLower = w.toLower)
    (hasks : relation = .equal → specialWord? field v = none →
      asksForNothing v = asksForNothing w) :
    holds now r field relation v = holds now r field relation w := by
  have hlabels : ∀ test actual, testLabels test actual v = testLabels test actual w := by
    intro test actual
    rw [← testLabels_toLower, h, testLabels_toLower]
  cases relation with
  | equal =>
      have hword : specialWord? field v = specialWord? field w := by
        rw [← specialWord?_toLower, h, specialWord?_toLower]
      unfold holds
      dsimp only
      rw [← hword]
      cases hspecial : specialWord? field v with
      | some word => rfl
      | none => exact equalsAny_of_letters h (hasks rfl hspecial) _
  | contains => exact congrArg Except.ok (hlabels _ _)
  | startsWith => exact congrArg Except.ok (hlabels _ _)
  | endsWith => exact congrArg Except.ok (hlabels _ _)
  | fuzzy => exact congrArg Except.ok (hlabels _ _)
  | oneOf =>
      refine congrArg Except.ok ?_
      rw [← oneOf_toLower, h, oneOf_toLower]
  | «exists» | empty => rfl
  | greater | greaterEqual | less | lessEqual | between => cases hrelation

end Match

namespace FilterClause

variable {field : String} {now : Moment} {r : Record} {v w : Value}

/-- Operands that differ in the case of ASCII letters have the same verdicts on every record, for
every operator that does not ask for an order.  Only the question for a missing value has to be
asked in small letters: any other spelling of `null` finds what it finds, and the small one finds
the missing values besides, unless the field gives the word a meaning of its own. -/
theorem verdict_of_letters (field : String) (op : Operator) (hop : op.relation.isRanged = false)
    (now : Moment) (r : Record) (v w : Value) (h : v.toLower = w.toLower) :
    ((op.relation = .equal → Match.specialWord? field v = none →
        Match.asksForNothing v = Match.asksForNothing w) →
      verdict ⟨field, op, v⟩ now r = verdict ⟨field, op, w⟩ now r) ∧
    (op.relation = .equal → Match.specialWord? field v = none →
      Match.asksForNothing v = false → Match.asksForNothing w = true →
      ∃ found, verdict ⟨field, op, v⟩ now r = .ok (found != op.negated) ∧
        verdict ⟨field, op, w⟩ now r =
          .ok ((found || Match.holdsNothingItems (r.candidates field)) != op.negated)) := by
  constructor
  · intro hasks
    rw [verdict_eq, verdict_eq, Match.holds_of_letters hop h hasks]
  · intro hequal hspecial hv hw
    have hspecial' : Match.specialWord? field w = none := by
      rw [← Match.specialWord?_toLower, ← h, Match.specialWord?_toLower, hspecial]
    obtain ⟨found, hfound, hfound'⟩ : ∃ b, Match.equalsAny now v (r.candidates field) = .ok b ∧
        Match.equalsAny now w (r.candidates field) =
          .ok (b || Match.holdsNothingItems (r.candidates field)) :=
      Match.exists_equalsAny_of_letters h hv hw _
    refine ⟨found, verdict_eq_ok ?_, verdict_eq_ok ?_⟩
    · rw [hequal]
      simp only [Match.holds, hspecial, hfound]
    · rw [hequal]
      simp only [Match.holds, hspecial', hfound']

/-- On an issue without a subject, a search for a word finds nothing in any letters, and the small
letters of `null` find the issue that its capitals miss. -/
theorem verdict_of_letters_subject :
    let now : Moment := ⟨.first, .midnight, .utc⟩
    let r : Record := ⟨0, .object []⟩
    verdict ⟨"subject", Relation.contains.fails, .string "LOGIN"⟩ now r =
      verdict ⟨"subject", Relation.contains.fails, .string "login"⟩ now r ∧
    verdict ⟨"subject", Relation.oneOf.holds, .list [.string "A", .int 7]⟩ now r =
      verdict ⟨"subject", Relation.oneOf.holds, .list [.string "a", .int 7]⟩ now r ∧
    ∃ found, verdict ⟨"subject", Relation.equal.holds, .string "NULL"⟩ now r = .ok found ∧
      verdict ⟨"subject", Relation.equal.holds, .string "null"⟩ now r = .ok true := by
  intro now r
  have hword : Value.toLower (.string "LOGIN") = Value.toLower (.string "login") :=
    Value.toLower_string (by decide)
  have hletter : Value.toLower (.string "A") = Value.toLower (.string "a") :=
    Value.toLower_string (by decide)
  have hnull : Value.toLower (.string "NULL") = Value.toLower (.string "null") :=
    Value.toLower_string (by decide)
  have hspecial : Match.specialWord? "subject" (.string "NULL") = none := by decide
  refine ⟨?_, ?_, ?_⟩
  · exact (verdict_of_letters "subject" Relation.contains.fails rfl now r _ _
      hword).1 fun h => by cases h
  · have hlist : Value.toLower (.list [.string "A", .int 7]) =
        Value.toLower (.list [.string "a", .int 7]) :=
      congrArg (fun v => Value.list [v, .int 7]) hletter
    exact (verdict_of_letters "subject" Relation.oneOf.holds rfl now r _ _ hlist).1 fun h => by
      cases h
  · obtain ⟨found, hcapital, hsmall⟩ := (verdict_of_letters "subject" Relation.equal.holds rfl now r
      _ _ hnull).2 rfl hspecial (by decide) (by decide)
    refine ⟨_, hcapital, ?_⟩
    rw [hsmall]
    cases found <;> rfl

/-- A missing subject is `null`, but not `NULL`. -/
theorem not_verdict_of_letters_universal : ¬∀ (field : String) (op : Operator),
    op.relation ∈ [Relation.equal, .oneOf, .contains, .startsWith, .endsWith, .fuzzy] →
      ∀ (now : Moment) (r : Record) (v w : Value), v.toLower = w.toLower →
        verdict ⟨field, op, v⟩ now r = verdict ⟨field, op, w⟩ now r := by
  intro h
  have hnull : Value.toLower (.string "NULL") = Value.toLower (.string "null") :=
    Value.toLower_string (by decide)
  have hverdicts := h "subject" Relation.equal.holds (by decide) ⟨.first, .midnight, .utc⟩
    ⟨0, .object []⟩ _ _ hnull
  have hcapital : verdict ⟨"subject", Relation.equal.holds, .string "NULL"⟩
      ⟨.first, .midnight, .utc⟩ ⟨0, .object []⟩ = .ok false := by
    decide
  have hsmall : verdict ⟨"subject", Relation.equal.holds, .string "null"⟩
      ⟨.first, .midnight, .utc⟩ ⟨0, .object []⟩ = .ok true := by
    decide
  rw [hcapital, hsmall] at hverdicts
  cases hverdicts

end FilterClause

end IssueQuery
