import IssueQuery.Proofs.Match.Bounds

/-!
# Recognising time keywords and resolving them

The reader recognises a time keyword by its spelling, and only a search resolves it.  Whatever
belongs to the vocabulary stands for a time, and only what lies before the calendar has no moment.
So no date that a filter is compared with turns out to be none.
-/

namespace IssueQuery

open Outcome

namespace Match

open Moment (beginning)
open TimeKeyword (InVocabulary IsRelative)

variable {now : Moment} {v : Value}

/-! ## Operands -/

/-- The moment that an operand stands for as a keyword; none if it is no keyword. -/
def resolveKeyword (now : Moment) (v : Value) : Except TimeError (Option Moment) :=
  match keyword? v with
  | some k => do return some (← k.resolve now)
  | none => .ok none

/-- An operand is resolved as a keyword if it is one, and else read as a date. -/
theorem moment?_eq (now : Moment) (v : Value) : moment? now v =
    if FilterClause.isTimeKeyword v then resolveKeyword now v else .ok v.toMoment? := by
  rw [← isSome_keyword?, moment?, resolveKeyword]
  cases keyword? v <;> rfl

/-- A keyword stands for the moment of its time, or its time is before the calendar. -/
theorem resolveKeyword_cases {k : TimeKeyword} (hk : keyword? v = some k) (now : Moment) :
    (beginning ≤ k.shown now ∧ ∃ m, resolveKeyword now v = .ok (some m) ∧
      m.offset = now.offset ∧ m.localMicros = k.shown now) ∨
    (k.shown now < beginning ∧ ∃ e, resolveKeyword now v = .error e) := by
  have hshows := TimeKeyword.shows_resolve now k
  have hresolve : resolveKeyword now v = (do return some (← k.resolve now)) := by
    rw [resolveKeyword, hk]
  rw [hresolve]
  by_cases hbegun : beginning ≤ k.shown now
  · obtain ⟨m, hm, hclock⟩ := hshows.exists_moment hbegun
    exact Or.inl ⟨hbegun, m, by rw [hm]; rfl, hclock⟩
  · obtain ⟨e, he⟩ := hshows.fails_iff.mpr (not_le.mp hbegun)
    exact Or.inr ⟨not_le.mp hbegun, e, by rw [he]; rfl⟩

theorem resolveKeyword_eq_none_iff :
    resolveKeyword now v = .ok none ↔ ¬FilterClause.isTimeKeyword v := by
  rw [← isSome_keyword?]
  cases hk : keyword? v with
  | none => simp [resolveKeyword, hk]
  | some k =>
      refine iff_of_false ?_ (by simp)
      rcases resolveKeyword_cases hk now with ⟨-, m, hm, -⟩ | ⟨-, e, he⟩
      · rw [hm]
        nofun
      · rw [he]
        nofun

/-- A text is resolved just if it is recognised, to the time of its keyword. -/
structure ResolvesAsRecognised (now : Moment) (s : String) : Prop where
  recognised : FilterClause.isTimeKeyword (.string s) ↔ InVocabulary s
  none_iff : resolveKeyword now (.string s) = .ok none ↔ ¬FilterClause.isTimeKeyword (.string s)
  /-- The letter of a relative time has a unit, and its digits are read by their place values. -/
  relative : ∀ amount letter, IsRelative (Text.lower (Text.trim s)).toList amount letter →
    ∃ unit, TimeUnit.ofChar? letter = some unit ∧
      keyword? (.string s) = some (.ago (Text.decimalValue amount) unit)
  resolved : ∀ k, keyword? (.string s) = some k →
    (beginning ≤ k.shown now ∧ ∃ m, resolveKeyword now (.string s) = .ok (some m) ∧
      m.offset = now.offset ∧ m.localMicros = k.shown now) ∨
    (k.shown now < beginning ∧ ∃ e, resolveKeyword now (.string s) = .error e)

theorem resolvesAsRecognised (now : Moment) (s : String) : ResolvesAsRecognised now s where
  recognised := TimeKeyword.recognises_iff s
  none_iff := resolveKeyword_eq_none_iff
  relative := fun _ _ => TimeKeyword.read?_of_isRelative
  resolved := fun _ hk => resolveKeyword_cases hk now

/-- What is a keyword or a date stands for a moment, unless it is a keyword of a time before the
calendar. -/
theorem moment?_cases (now : Moment)
    (h : FilterClause.isTimeKeyword v ∨ v.toMoment?.isSome) :
    (∃ m, moment? now v = .ok (some m)) ∨
      ∃ k e, keyword? v = some k ∧ k.shown now < beginning ∧ moment? now v = .error e := by
  rw [moment?_eq]
  by_cases hkeyword : FilterClause.isTimeKeyword v
  · rw [if_pos hkeyword]
    obtain ⟨k, hk⟩ := Option.isSome_iff_exists.mp ((isSome_keyword? v).trans hkeyword)
    rcases resolveKeyword_cases hk now with ⟨-, m, hm, -⟩ | ⟨hearly, e, he⟩
    · exact Or.inl ⟨m, hm⟩
    · exact Or.inr ⟨k, e, hk, hearly, he⟩
  · rw [if_neg hkeyword]
    obtain ⟨m, hm⟩ := Option.isSome_iff_exists.mp (h.resolve_left hkeyword)
    exact Or.inl ⟨m, congrArg Except.ok hm⟩

/-- Texts are resolved as they are recognised.  So each operand that a filter of a query compares
the values of a date with stands for a moment, unless it is a keyword of a time before the
calendar. -/
theorem keywords_resolve_as_recognised :
    (∀ now s, ResolvesAsRecognised now s) ∧
    ∀ kind text q, Query.read kind text = .ok q → ∀ c ∈ q.filters,
      Field.type? kind c.field = some .date → c.operator.relation.isRanged →
      ∀ v ∈ FilterClause.parts c.operand, ∀ now, (∃ m, moment? now v = .ok (some m)) ∨
        ∃ k e, keyword? v = some k ∧ k.shown now < beginning ∧ moment? now v = .error e := by
  refine ⟨resolvesAsRecognised, fun kind text q hread c hc hdate hranged v hv now => ?_⟩
  obtain ⟨-, tokens, -, htokens⟩ := Query.read_eq_ok_iff.mp hread
  obtain ⟨type, htype, -, hsuits⟩ := ((Query.wellFormed_of_ofTokens htokens).filters c hc).typed
  obtain rfl : type = .date := Option.some.inj (htype.symm.trans hdate)
  exact moment?_cases now (hsuits.date rfl hranged v hv)

/-- In June of 2024, the calendar had not begun 3000 years ago, but both bounds of a range of days
stand for moments. -/
theorem keywords_resolve_as_recognised_june :
    let now : Moment := ⟨⟨2024, 6, 12, by decide, by decide, by decide, by decide⟩,
      ⟨43200000000, by decide⟩, .utc⟩
    FilterClause.isTimeKeyword (.string "3000y") ∧
    (∃ e, resolveKeyword now (.string "3000y") = .error e) ∧
    ∃ q, Query.read .issue "created:2024-01-01..today" = .ok q ∧ ∀ c ∈ q.filters,
      ∀ v ∈ FilterClause.parts c.operand, ∃ m, moment? now v = .ok (some m) := by
  intro now
  obtain ⟨htexts, hqueries⟩ := keywords_resolve_as_recognised
  have hyears : keyword? (.string "3000y") = some (.ago 3000 .year) := by cbv
  have hearly : TimeKeyword.shown now (.ago 3000 .year) < beginning := by decide +kernel
  refine ⟨by rw [← isSome_keyword?, hyears]; rfl, ?_, _, Query.read_since_new_year, ?_⟩
  · rcases (htexts now "3000y").resolved _ hyears with ⟨hbegun, -⟩ | ⟨-, hfails⟩
    · exact absurd hbegun (not_le.mpr hearly)
    · exact hfails
  · intro c hc v hv
    obtain rfl := List.mem_singleton.mp hc
    obtain ⟨m, hm⟩ := exists_moment?_eq_ok (Query.resolves_since_new_year now v hv)
    rcases hqueries _ _ _ Query.read_since_new_year _ List.mem_cons_self (by cbv) (by decide) v hv
      now with hmoment | ⟨k, e, -, -, hfails⟩
    · exact hmoment
    · rw [hm] at hfails
      cases hfails

end Match

end IssueQuery
