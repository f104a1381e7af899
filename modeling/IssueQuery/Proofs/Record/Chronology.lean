import IssueQuery.Proofs.Calendar.Spelling
import IssueQuery.Proofs.Match.Bounds
import IssueQuery.Proofs.Record.Sorting

/-!
# Sorting by dates

Records are sorted by the texts of their dates, while filters compare the moments that the texts
stand for.  Both agree on texts that are written alike.
-/

namespace IssueQuery

open Std (OrientedCmp)
open Text (CollationKey collationKey)

namespace Value

variable {s t : String} {m n : Moment}

/-- The characters of a text that are read as a moment. -/
def written (s : String) : List Char :=
  spellOutUtc (Text.trimChars s.toList)

/-- Two texts spell moments in ways that can be compared character by character. -/
structure WrittenAlike (s t : String) : Prop where
  /-- The days have one form: they are the same but for their digits. -/
  day : Text.layout (Iso.dayChars (written s)) = Text.layout (Iso.dayChars (written t))
  /-- Behind the days stands the same character, if anything does. -/
  separator : ∀ c ∈ (Iso.behindDay (written s)).head?, ∀ d ∈ (Iso.behindDay (written t)).head?,
    c = d
  /-- Where the texts first differ, there are two digits, or one of them ends and the other one goes
  on with digits, or the offset of one of them begins and the time of day of the other one goes on
  with a greater character. -/
  difference : s = t ∨ Iso.Precedes s.toList t.toList ∨ Iso.Precedes t.toList s.toList
  /-- The second text has nothing between the time of day and the offset. -/
  time_read : Iso.ReadsTime (Iso.behindDay (written t)).tail

theorem exists_readChars?_of_readMoment? (h : readMoment? s = some m) :
    ∃ t, Iso.readChars? (written s) = some t ∧ t.toMoment = m := by
  unfold readMoment? at h
  dsimp only at h
  split at h
  · cases h
  · exact Option.map_eq_some_iff.mp h

/-- Of two texts that are written alike and mean the same offset, the one that is sorted first
stands for the moment that is not later. -/
theorem instant_le_of_sortOrder (hm : readMoment? s = some m) (hn : readMoment? t = some n)
    (halike : WrittenAlike s t) (hoffset : m.offset = n.offset)
    (horder : sortOrder (.string s) (.string t) ≠ .gt) : m.instant ≤ n.instant := by
  rcases halike.difference with rfl | hprecedes | hprecedes
  · rw [hm] at hn
    exact (congrArg Moment.instant (Option.some.inj hn)).le
  · obtain ⟨a, ha, rfl⟩ := exists_readChars?_of_readMoment? hm
    obtain ⟨b, hb, rfl⟩ := exists_readChars?_of_readMoment? hn
    exact Iso.instant_le_of_precedes hprecedes.trimChars.spellOutUtc ha hb halike.day
      halike.separator halike.time_read hoffset
  · refine absurd ?_ horder
    have hswap : (collationKey s).compare (collationKey t) =
        ((collationKey t).compare (collationKey s)).swap := OrientedCmp.eq_swap
    rw [sortOrder, hswap, hprecedes.compare_collationKey]
    rfl

end Value

namespace Match

variable {now : Moment} {v : Value} {s : String} {m a : Moment}

/-- A text of a moment is not greater than an operand that does not stand for an earlier one. -/
theorem ordered_greater_of_instant_le (hm : Value.readMoment? s = some m)
    (ha : moment? now v = .ok (some a)) (h : m.instant ≤ a.instant) :
    ordered now .greater (.string s) v = .ok false := by
  have hnumber := Value.toNumber?_of_readMoment? (Option.isSome_iff_exists.mpr ⟨m, hm⟩)
  rw [ordered_of_moments .greater hnumber hm ha]
  have horder : compareMoments m a ≠ .gt := by
    unfold compareMoments
    split
    · decide
    · rw [if_neg (by omega)]
      decide
  simp [satisfies, horder]

end Match

namespace SortOrder

variable {field : String} {records : List Record}

/-- All records have a text of a moment in a field. -/
def IsDated (field : String) (records : List Record) : Prop :=
  ∀ r ∈ records, ∃ s, r.resolve field = .string s ∧ (Value.readMoment? s).isSome

/-- Where all records have texts, they are all in order. -/
theorem pairwise_inOrder_of_isDated (h : IsDated field records) (direction : Direction) :
    (apply ⟨field, direction⟩ records).Pairwise fun r s =>
      InOrder direction (r.resolve field) (s.resolve field) := by
  have huniform : IsUniform ⟨field, direction⟩ .text records := by
    intro r hr _
    obtain ⟨s, hs, -⟩ := h r hr
    exact hs ▸ .text s
  have hpresent : (apply ⟨field, direction⟩ records).filter
      (!(⟨field, direction⟩ : SortOrder).isMissing ·) = apply ⟨field, direction⟩ records := by
    rw [List.filter_eq_self]
    intro r hr
    obtain ⟨s, hs, -⟩ := h r ((apply_perm _ records).mem_iff.mp hr)
    rw [isMissing, hs]
    rfl
  have hsorted := pairwise_inOrder_apply huniform
  rwa [hpresent] at hsorted

/-- Two records stay in the order of their texts. -/
theorem apply_pair {r s : Record} {x y : String} (hx : r.resolve field = .string x)
    (hy : s.resolve field = .string y) (h : Iso.Precedes x.toList y.toList) :
    apply ⟨field, .ascending⟩ [r, s] = [r, s] := by
  refine apply_eq_self ?_ ?_
  · intro q hq
    rcases List.mem_pair.mp hq with rfl | rfl
    · rw [isMissing, hx]
      rfl
    · rw [isMissing, hy]
      rfl
  · rw [List.pairwise_pair, InOrder, hx, hy, Value.sortOrder, h.compare_collationKey]
    decide

/-- Sorted by dates that are written alike and mean the same offset, no record stands before one
with an earlier moment, as the filters on the field judge it. -/
theorem apply_agrees_with_filters (field : String) (records : List Record)
    (h : IsDated field records) :
    (apply ⟨field, .ascending⟩ records).Pairwise fun r s =>
      ∀ x y m n, r.resolve field = .string x → s.resolve field = .string y →
        Value.readMoment? x = some m → Value.readMoment? y = some n →
        Value.WrittenAlike x y → m.offset = n.offset →
        m.instant ≤ n.instant ∧
          ∀ now v a, Match.moment? now v = .ok (some a) → a.instant = n.instant →
            FilterClause.verdict ⟨field, Relation.greater.holds, v⟩ now r = .ok false := by
  refine (pairwise_inOrder_of_isDated h .ascending).imp ?_
  intro r s horder x y m n hx hy hm hn halike hoffset
  rw [hx, hy] at horder
  have hle := Value.instant_le_of_sortOrder hm hn halike hoffset horder
  refine ⟨hle, fun now v a ha hinstant => FilterClause.verdict_of_holds ?_⟩
  unfold Match.holds
  dsimp only
  rw [hx]
  exact Match.ordered_greater_of_instant_le hm ha (hle.trans_eq hinstant.symm)

/-- A record whose date has a fraction of a second stays behind one without. -/
theorem apply_agrees_with_filters_fraction :
    let early := "2024-03-09T08:30:00+01:00"
    let late := "2024-03-09T08:30:00.25+01:00"
    let records : List Record := [⟨0, .object [("created_date", .string early)]⟩,
      ⟨1, .object [("created_date", .string late)]⟩]
    IsDated "created" records ∧ Value.WrittenAlike early late ∧
      ∀ now, FilterClause.verdict ⟨"created", Relation.greater.holds, .string late⟩ now
        ⟨0, .object [("created_date", .string early)]⟩ = .ok false := by
  intro early late records
  have hfirst : Record.resolve ⟨0, .object [("created_date", .string early)]⟩ "created" =
      .string early := by
    cbv
  have hsecond : Record.resolve ⟨1, .object [("created_date", .string late)]⟩ "created" =
      .string late := by
    cbv
  have hearly : Value.readMoment? early = some
      ⟨⟨2024, 3, 9, by decide, by decide, by decide, by decide⟩, ⟨30600000000, by decide⟩,
        ⟨3600000000, by decide, by decide⟩⟩ := by
    decide +kernel
  have hlate : Value.readMoment? late = some
      ⟨⟨2024, 3, 9, by decide, by decide, by decide, by decide⟩, ⟨30600250000, by decide⟩,
        ⟨3600000000, by decide, by decide⟩⟩ := by
    decide +kernel
  have hdated : IsDated "created" records := by
    intro r hr
    rcases List.mem_pair.mp hr with rfl | rfl
    · exact ⟨_, hfirst, by rw [hearly]; rfl⟩
    · exact ⟨_, hsecond, by rw [hlate]; rfl⟩
  have hsign : Iso.Before '+' '.' :=
    ⟨Or.inr ⟨Or.inl rfl, Or.inr (Or.inr (Or.inl rfl))⟩, by decide⟩
  have hprecedes : Iso.Precedes early.toList late.toList := by
    rw [show early.toList = "2024-03-09T08:30:00".toList ++ '+' :: "01:00".toList by cbv,
      show late.toList = "2024-03-09T08:30:00".toList ++ '.' :: "25+01:00".toList by cbv]
    exact (Iso.Precedes.differ hsign).append_left _
  have halike : Value.WrittenAlike early late := {
    day := by decide +kernel
    separator := by
      intro c hc d hd
      rw [show (Iso.behindDay (Value.written early)).head? = some 'T' by cbv] at hc
      rw [show (Iso.behindDay (Value.written late)).head? = some 'T' by cbv] at hd
      exact (Option.some.inj hc).symm.trans (Option.some.inj hd)
    difference := Or.inr (Or.inl hprecedes)
    time_read := by
      intro p hp
      have hleftover :
          (Iso.readParts? (Iso.timeChars (Iso.behindDay (Value.written late)).tail)).map
            (·.leftover) = some false := by
        decide +kernel
      rw [hp] at hleftover
      exact Option.some.inj hleftover }
  have hpair := apply_agrees_with_filters "created" records hdated
  rw [apply_pair hfirst hsecond hprecedes, List.pairwise_pair] at hpair
  refine ⟨hdated, halike, fun now => ?_⟩
  have hmoment : Match.moment? now (.string late) = .ok (some
      ⟨⟨2024, 3, 9, by decide, by decide, by decide, by decide⟩, ⟨30600250000, by decide⟩,
        ⟨3600000000, by decide, by decide⟩⟩) := by
    have hkeyword : Match.keyword? (.string late) = none := by cbv
    rw [Match.moment?, hkeyword]
    exact congrArg Except.ok hlate
  exact (hpair _ _ _ _ hfirst hsecond hearly hlate halike rfl).2 now _ _ hmoment rfl

/-- Two hours before universal time, it is already the next year. -/
theorem not_apply_chronological : ¬∀ (kind : EntityKind) (field : String),
    Field.type? kind field = some .date → ∀ records, IsDated field records →
      (apply ⟨field, .ascending⟩ records).Pairwise fun r s => ∀ x y m n,
        r.resolve field = .string x → s.resolve field = .string y →
        Value.readMoment? x = some m → Value.readMoment? y = some n →
        m.instant ≤ n.instant := by
  intro h
  let old : Record := ⟨0, .object [("created_date", .string "2023-12-31T23:00:00Z")]⟩
  let new : Record := ⟨1, .object [("created_date", .string "2024-01-01T00:00:00+02:00")]⟩
  have hold : old.resolve "created" = .string "2023-12-31T23:00:00Z" := by cbv
  have hnew : new.resolve "created" = .string "2024-01-01T00:00:00+02:00" := by cbv
  have htype : Field.type? .issue "created" = some .date := by cbv
  have holdMoment : Value.readMoment? "2023-12-31T23:00:00Z" = some
      ⟨⟨2023, 12, 31, by decide, by decide, by decide, by decide⟩, ⟨82800000000, by decide⟩,
        .utc⟩ := by
    decide +kernel
  have hnewMoment : Value.readMoment? "2024-01-01T00:00:00+02:00" = some
      ⟨⟨2024, 1, 1, by decide, by decide, by decide, by decide⟩, ⟨0, by decide⟩,
        ⟨7200000000, by decide, by decide⟩⟩ := by
    decide +kernel
  have hdated : IsDated "created" [old, new] := by
    intro r hr
    rcases List.mem_pair.mp hr with rfl | rfl
    · exact ⟨_, hold, by rw [holdMoment]; rfl⟩
    · exact ⟨_, hnew, by rw [hnewMoment]; rfl⟩
  have hdigit : Iso.Before '3' '4' := ⟨Or.inl ⟨rfl, rfl⟩, by decide⟩
  have hprecedes :
      Iso.Precedes "2023-12-31T23:00:00Z".toList "2024-01-01T00:00:00+02:00".toList := by
    rw [show "2023-12-31T23:00:00Z".toList =
        "202".toList ++ '3' :: "-12-31T23:00:00Z".toList by cbv,
      show "2024-01-01T00:00:00+02:00".toList =
        "202".toList ++ '4' :: "-01-01T00:00:00+02:00".toList by cbv]
    exact (Iso.Precedes.differ hdigit).append_left _
  have hsorted := apply_pair hold hnew hprecedes
  have hpair := h .issue "created" htype [old, new] hdated
  rw [hsorted, List.pairwise_pair] at hpair
  exact absurd (hpair _ _ _ _ hold hnew holdMoment hnewMoment) (by decide)

end SortOrder

end IssueQuery
