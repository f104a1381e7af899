import IssueQuery.Proofs.Calendar.Keyword
import IssueQuery.Proofs.Match.Bounds

/-!
# Dates are compared by their instants

The order of a date and an operand goes down the same steps for all spellings: a text that stands
for a moment is no number, and an operand that the reader lets through on a field of dates always
stands for a moment.  So no comparison of dates falls through to one of texts, and all that counts
are the instants along universal time.
-/

namespace IssueQuery

/-- Whether an instant stands in a relation of order to the instants of the operands. -/
def Relation.compares (r : Relation) (x : Int) (operands : List Int) : Bool :=
  match r, operands with
  | .greater, [a] => a < x
  | .greaterEqual, [a] => a ≤ x
  | .less, [a] => x < a
  | .lessEqual, [a] => x ≤ a
  | .between, [low, high] => low ≤ x && x ≤ high
  | _, _ => false

/-- A comparison asks for an order with one operand, or for a range with a list of two. -/
theorem Relation.isRanged_cases {r : Relation} (h : r.isRanged) :
    (r.isOrdering ∧ ¬r.takesList ∧ ¬r.isValueless) ∨ (r = .between ∧ r.takesList) := by
  revert h
  cases r <;> decide

namespace Match

/-- An operand stands for an instant at the moment `now`: a time keyword for the one that it leads
to, another text for the one that it spells, and a number for the one that lies so many milliseconds
after the beginning of 1970. -/
inductive InstantOf (now : Moment) : Value → Int → Prop where
  | keyword {s : String} {k : TimeKeyword} {m : Moment} :
      TimeKeyword.read? s = some k → k.resolve now = .ok m → InstantOf now (.string s) m.instant
  | text {s : String} {m : Moment} :
      Value.readMoment? s = some m → InstantOf now (.string s) m.instant
  | millis {n : Number} {m : Moment} :
      n.toMoment? = some m → InstantOf now (.number n) m.instant

/-- The instants of a single operand, or of the two bounds of a range. -/
inductive InstantsOf (now : Moment) : Value → List Int → Prop where
  | one {v : Value} {a : Int} : InstantOf now v a → InstantsOf now v [a]
  | range {low high : Value} {a b : Int} :
      InstantOf now low a → InstantOf now high b → InstantsOf now (.list [low, high]) [a, b]

/-- Two operands are the same, but for texts that spell the same instant. -/
inductive Respells : Value → Value → Prop where
  | same (v : Value) : Respells v v
  | text {s t : String} {m n : Moment} :
      Value.readMoment? s = some m → Value.readMoment? t = some n → m.instant = n.instant →
      Respells (.string s) (.string t)
  | range {low low' high high' : Value} :
      Respells low low' → Respells high high' → Respells (.list [low, high]) (.list [low', high'])

variable {now m a : Moment} {v w : Value} {x y : Int} {r : Relation} {operands : List Int}

/-! ## Instants of operands -/

theorem InstantOf.exists_moment? (h : InstantOf now v x) :
    ∃ m, moment? now v = .ok (some m) ∧ m.instant = x := by
  cases h with
  | @keyword s k m hk hm =>
      refine ⟨m, ?_, rfl⟩
      rw [moment?, keyword?, hk]
      dsimp only
      rw [hm]
      rfl
  | @text s m hm =>
      refine ⟨m, ?_, rfl⟩
      have hkeyword : TimeKeyword.read? s = none := by
        by_contra hsome
        obtain ⟨k, hk⟩ := Option.ne_none_iff_exists'.mp hsome
        rw [Value.readMoment?_of_keyword hk] at hm
        cases hm
      rw [moment?, keyword?, hkeyword]
      exact congrArg Except.ok hm
  | @millis n m hm => exact ⟨m, congrArg Except.ok hm, rfl⟩

/-- No text is both a keyword and a date, so there is one instant at most. -/
theorem InstantOf.unique (h : InstantOf now v x) (h' : InstantOf now v y) : x = y := by
  obtain ⟨m, hm, rfl⟩ := h.exists_moment?
  obtain ⟨n, hn, rfl⟩ := h'.exists_moment?
  rw [hm] at hn
  cases hn
  rfl

theorem instantOf_of_moment? (hsingle : v.IsSingle) (h : moment? now v = .ok (some m)) :
    InstantOf now v m.instant := by
  unfold moment? at h
  cases hsingle with
  | string s =>
      cases hk : TimeKeyword.read? s with
      | none =>
          rw [keyword?, hk] at h
          exact .text (Except.ok.inj h)
      | some k =>
          rw [keyword?, hk] at h
          obtain ⟨n, hn, heq⟩ := Outcome.bind_eq_ok_iff.mp h
          cases heq
          exact .keyword hk hn
  | number n => exact .millis (Except.ok.inj h)

theorem InstantOf.respell (h : InstantOf now v x) (hw : Respells v w) : InstantOf now w x := by
  cases hw with
  | same => exact h
  | text hm hn heq =>
      rw [h.unique (.text hm), heq]
      exact .text hn
  | range => cases h

theorem InstantsOf.unique {others : List Int} (h : InstantsOf now v operands)
    (h' : InstantsOf now v others) : operands = others := by
  cases h with
  | one h =>
      cases h' with
      | one h' => rw [h.unique h']
      | range => cases h
  | range hlow hhigh =>
      cases h' with
      | one h' => cases h'
      | range hlow' hhigh' => rw [hlow.unique hlow', hhigh.unique hhigh']

theorem InstantsOf.respell (h : InstantsOf now v operands) (hw : Respells v w) :
    InstantsOf now w operands := by
  cases h with
  | one h => exact .one (h.respell hw)
  | range hlow hhigh =>
      cases hw with
      | same => exact .range hlow hhigh
      | range hlow' hhigh' => exact .range (hlow.respell hlow') (hhigh.respell hhigh')

/-- A list is respelled by a list. -/
theorem Respells.exists_list_iff (h : Respells v w) :
    (∃ items, v = .list items) ↔ ∃ items, w = .list items := by
  cases h with
  | same => exact Iff.rfl
  | text => simp
  | range => simp

/-! ## Verdicts -/

theorem satisfies_compareMoments (hr : r.isOrdering) (m a : Moment) :
    satisfies r (compareMoments m a) = r.compares m.instant [a.instant] := by
  unfold compareMoments
  rcases lt_trichotomy m.instant a.instant with hlt | heq | hgt
  · rw [if_pos hlt]
    cases r <;> simp_all [satisfies, Relation.compares, Relation.isOrdering, hlt.le, hlt.not_gt]
  · rw [if_neg heq.not_lt, if_neg heq.not_gt]
    cases r <;> simp_all [satisfies, Relation.compares, Relation.isOrdering]
  · rw [if_neg hgt.not_gt, if_pos hgt]
    cases r <;> simp_all [satisfies, Relation.compares, Relation.isOrdering, hgt.le, hgt.not_gt]

theorem holds_of_instantsOf {record : Record} {field s : String}
    (hvalue : record.resolve field = .string s) (hm : Value.readMoment? s = some m)
    (hr : r.isRanged) (hlist : (∃ items, v = .list items) ↔ r.takesList)
    (hoperands : InstantsOf now v operands) :
    holds now record field r v = .ok (r.compares m.instant operands) := by
  have hnumber := Value.toNumber?_of_readMoment? (Option.isSome_iff_exists.mpr ⟨m, hm⟩)
  cases hoperands with
  | one h =>
      have hone : ¬r.takesList := by
        rw [← hlist]
        rintro ⟨items, rfl⟩
        cases h
      have hordering : r.isOrdering :=
        ((Relation.isRanged_cases hr).resolve_right fun hbetween => hone hbetween.2).1
      obtain ⟨a, ha, rfl⟩ := h.exists_moment?
      rw [holds_of_isOrdering hordering, hvalue, ordered_of_moments r hnumber hm ha,
        satisfies_compareMoments hordering]
  | range hlow hhigh =>
      obtain ⟨rfl, -⟩ := (Relation.isRanged_cases hr).resolve_left fun hordering =>
        hordering.2.1 (hlist.mp ⟨_, rfl⟩)
      obtain ⟨a, ha, rfl⟩ := hlow.exists_moment?
      obtain ⟨b, hb, rfl⟩ := hhigh.exists_moment?
      obtain ⟨atLeast, atMost, hatLeast, hatMost, hwithin⟩ :=
        isBothBounds_of_moment hnumber hm ha hb
      rw [ordered_of_moments _ hnumber hm ha, satisfies_compareMoments (by decide)] at hatLeast
      rw [ordered_of_moments _ hnumber hm hb, satisfies_compareMoments (by decide)] at hatMost
      unfold holds
      dsimp only
      rw [hvalue, between, hwithin, ← Except.ok.inj hatLeast, ← Except.ok.inj hatMost]
      rfl

/-- An operand that the reader lets through stands for an instant. -/
theorem exists_instantOf (hsingle : v.IsSingle) (hresolves : Resolves now v)
    (hv : FilterClause.isTimeKeyword v ∨ v.toMoment?.isSome) : ∃ x, InstantOf now v x := by
  obtain ⟨m, hm⟩ := exists_moment?_eq_ok_some hresolves hv
  exact ⟨m.instant, instantOf_of_moment? hsingle hm⟩

end Match

namespace FilterClause

variable {kind : EntityKind} {c : FilterClause} {now : Moment}

theorem mem_parts_of_isSingle {v : Value} (h : v.IsSingle) : v ∈ parts v := by
  cases h <;> exact List.mem_singleton_self _

/-- The operands of a comparison of dates stand for instants, one by itself or the two bounds of a
range. -/
theorem WellFormed.exists_instantsOf (h : c.WellFormed kind)
    (hdate : Field.type? kind c.field = some .date) (hranged : c.operator.relation.isRanged)
    (hresolves : ∀ v ∈ parts c.operand, Match.Resolves now v) :
    ∃ instants, Match.InstantsOf now c.operand instants := by
  obtain ⟨type, htype, -, hsuits⟩ := h.typed
  obtain rfl : FieldType.date = type := Option.some.inj (hdate.symm.trans htype)
  have hinstant : ∀ v ∈ parts c.operand, v.IsSingle → ∃ x, Match.InstantOf now v x :=
    fun v hv hsingle => Match.exists_instantOf hsingle (hresolves v hv)
      (hsuits.date rfl hranged v hv)
  rcases Relation.isRanged_cases hranged with ⟨-, hsingular, hvalued⟩ | ⟨hbetween, hlist⟩
  · have hsingle := h.single hvalued hsingular
    obtain ⟨a, ha⟩ := hinstant _ (mem_parts_of_isSingle hsingle) hsingle
    exact ⟨[a], .one ha⟩
  · obtain ⟨items, hitems⟩ := h.list_iff.mpr hlist
    obtain ⟨-, hsingle, htwo⟩ := h.list_items items hitems
    obtain ⟨low, high, rfl⟩ := List.length_eq_two.mp (htwo hbetween)
    rw [hitems] at hinstant ⊢
    obtain ⟨a, ha⟩ := hinstant low (by simp [parts]) (hsingle low (by simp))
    obtain ⟨b, hb⟩ := hinstant high (by simp [parts]) (hsingle high (by simp))
    exact ⟨[a, b], .range ha hb⟩

end FilterClause

namespace Query

open FilterClause

/-- A comparison of dates that a query asks for is one of instants: each of its operands stands for
exactly one, and its verdict on a date is that of comparing them with the instant of the date.
Other spellings of the same instants, in the record or in the query, have the same verdict. -/
theorem date_verdict_eq_compares (kind : EntityKind) (text : String) (q : Query)
    (hread : read kind text = .ok q) (c : FilterClause) (hclause : c ∈ q.filters)
    (hdate : Field.type? kind c.field = some .date) (hranged : c.operator.relation.isRanged)
    (now : Moment) (hresolves : ∀ v ∈ parts c.operand, Match.Resolves now v) :
    ∃ instants, (∀ others, Match.InstantsOf now c.operand others ↔ others = instants) ∧
      ∀ r s m, r.resolve c.field = .string s → Value.readMoment? s = some m →
        c.verdict now r =
          .ok (c.operator.relation.compares m.instant instants != c.operator.negated) ∧
        ∀ r' s' m' operand, r'.resolve c.field = .string s' → Value.readMoment? s' = some m' →
          m'.instant = m.instant → Match.Respells c.operand operand →
          verdict { c with operand } now r' = c.verdict now r := by
  obtain ⟨-, tokens, -, htokens⟩ := read_eq_ok_iff.mp hread
  have hwell := (wellFormed_of_ofTokens htokens).filters c hclause
  obtain ⟨instants, hinstants⟩ := hwell.exists_instantsOf hdate hranged hresolves
  have hverdict : ∀ r s m operand, r.resolve c.field = .string s →
      Value.readMoment? s = some m → Match.Respells c.operand operand →
      verdict { c with operand } now r =
        .ok (c.operator.relation.compares m.instant instants != c.operator.negated) := by
    intro r s m operand hs hm hrespells
    have hlist : (∃ items, operand = .list items) ↔ c.operator.relation.takesList :=
      hrespells.exists_list_iff.symm.trans hwell.list_iff
    rw [verdict_eq, Match.holds_of_instantsOf hs hm hranged hlist (hinstants.respell hrespells)]
    rfl
  refine ⟨instants, fun others => ⟨fun h => h.unique hinstants, ?_⟩, ?_⟩
  · rintro rfl
    exact hinstants
  · intro r s m hs hm
    have hown := hverdict r s m c.operand hs hm (.same _)
    refine ⟨hown, ?_⟩
    intro r' s' m' operand hs' hm' heq hrespells
    rw [hverdict r' s' m' operand hs' hm' hrespells, heq]
    exact hown.symm

/-- At noon of the 12th of June 2024, a date an hour before the new year is told from one in the new
year, on whatever clock it is written. -/
theorem date_verdict_eq_compares_new_year :
    let now : Moment := ⟨⟨2024, 6, 12, by decide, by decide, by decide, by decide⟩,
      ⟨43200000000, by decide⟩, .utc⟩
    let range : FilterClause :=
      ⟨"created", Relation.between.holds, .list [.string "2024-01-01", .string "today"]⟩
    let early : Record := ⟨0, .object [("created_date", .string "2023-12-31T23:00:00Z")]⟩
    let late : Record := ⟨1, .object [("created_date", .string "2023-12-31T23:00:00-01:00")]⟩
    verdict range now early = .ok false ∧ verdict range now late = .ok true := by
  intro now range early late
  have htoday : TimeKeyword.read? "today" = some .today := by cbv
  have htype : Field.type? .issue "created" = some .date := by cbv
  have hearly : early.resolve "created" = .string "2023-12-31T23:00:00Z" := rfl
  have hlate : late.resolve "created" = .string "2023-12-31T23:00:00-01:00" := rfl
  have hearlyMoment : Value.readMoment? "2023-12-31T23:00:00Z" = some
      ⟨⟨2023, 12, 31, by decide, by decide, by decide, by decide⟩, ⟨82800000000, by decide⟩,
        .utc⟩ := by
    rfl
  have hlateMoment : Value.readMoment? "2023-12-31T23:00:00-01:00" = some
      ⟨⟨2023, 12, 31, by decide, by decide, by decide, by decide⟩, ⟨82800000000, by decide⟩,
        ⟨-3600000000, by decide, by decide⟩⟩ := by
    rfl
  have hnewYear : Value.readMoment? "2024-01-01" = some
      ⟨⟨2024, 1, 1, by decide, by decide, by decide, by decide⟩, .midnight, .utc⟩ := by
    rfl
  obtain ⟨instants, hinstants, hverdict⟩ := date_verdict_eq_compares .issue _ _
    read_since_new_year range List.mem_cons_self htype (by decide) now
    (resolves_since_new_year now)
  have hbounds : Match.InstantsOf now range.operand [_, now.midnight.instant] :=
    .range (.text hnewYear) (.keyword htoday rfl)
  rw [← (hinstants _).mp hbounds] at hverdict
  refine ⟨(hverdict early _ _ hearly hearlyMoment).1.trans (congrArg Except.ok ?_),
    (hverdict late _ _ hlate hlateMoment).1.trans (congrArg Except.ok ?_)⟩
  · decide +kernel
  · decide +kernel

end Query

end IssueQuery
