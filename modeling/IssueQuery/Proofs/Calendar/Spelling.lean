import IssueQuery.Proofs.Calendar.Clock
import IssueQuery.Proofs.Text.Ascii
import IssueQuery.Proofs.Text.Collation
import IssueQuery.Value.Coercion

/-!
# Spellings of moments

A text precedes another one if it has the smaller digit where the two first differ, or if its time
of day ends there and that of the other one goes on.  If the texts also write their days in one
form, put the same character behind them and mean the same offset, the moment of the first one is
not later.
-/

namespace IssueQuery.Iso

open Text (Leads isBlank layout)

variable {c d : Char} {cs ds : List Char}

/-! ## Where two texts differ -/

/-- A character with which a time of day goes on. -/
def GoesOn (c : Char) : Prop :=
  c.isDigit ∨ c = ':' ∨ c = '.' ∨ c = ','

/-- The lesser one of two different characters at the same place: of two digits, or of the sign of
an offset and a character with which a time of day goes on. -/
structure Before (c d : Char) : Prop where
  kinds : (c.isDigit ∧ d.isDigit) ∨ ((c = '+' ∨ c = '-') ∧ GoesOn d)
  lt : c.toNat < d.toNat

/-- What the first text has where the two first differ: the lesser character; or nothing, while the
second one goes on with a digit somewhere. -/
inductive Precedes : List Char → List Char → Prop where
  | same (c : Char) {cs ds : List Char} : Precedes cs ds → Precedes (c :: cs) (c :: ds)
  | differ {c d : Char} {cs ds : List Char} : Before c d → Precedes (c :: cs) (d :: ds)
  | ends {d : Char} {ds : List Char} : d ∈ ds → d.isDigit → Precedes [] ds

/-- The characters of which times and offsets are made are blanks neither nor letters. -/
structure IsPlain (c : Char) : Prop where
  isAscii : Text.Case.isAscii c
  toLower : c.toLower = c
  not_isBlank : isBlank c = false
  ne_utc : c ≠ 'Z'

theorem isAscii_of_isDigit (h : c.isDigit) : Text.Case.isAscii c :=
  Text.Case.isAscii_of_isAlphanum (by rw [Char.isAlphanum, h, Bool.or_true])

theorem IsPlain.of_isDigit (h : c.isDigit) : IsPlain c where
  isAscii := isAscii_of_isDigit h
  toLower := Text.Case.forall_isAscii (p := fun c => c.isDigit → c.toLower = c)
    (by decide +kernel) (isAscii_of_isDigit h) h
  not_isBlank := by
    have hc := Text.toNat_of_isDigit h
    simp only [isBlank, Bool.or_eq_false_iff, Bool.and_eq_false_iff, decide_eq_false_iff_not,
      beq_eq_false_iff_ne]
    omega
  ne_utc := by
    rintro rfl
    exact absurd h (by decide)

theorem beginsOffset_of_isDigit (h : c.isDigit) : beginsOffset c = false := by
  simp only [beginsOffset, Bool.or_eq_false_iff, decide_eq_false_iff_not]
  refine ⟨⟨?_, ?_⟩, (IsPlain.of_isDigit h).ne_utc⟩
  · rintro rfl
    exact absurd h (by decide)
  · rintro rfl
    exact absurd h (by decide)

theorem IsPlain.of_goesOn (h : GoesOn c) : IsPlain c := by
  rcases h with h | rfl | rfl | rfl
  · exact .of_isDigit h
  · exact ⟨rfl, rfl, rfl, by decide⟩
  · exact ⟨rfl, rfl, rfl, by decide⟩
  · exact ⟨rfl, rfl, rfl, by decide⟩

theorem IsPlain.of_sign (h : c = '+' ∨ c = '-') : IsPlain c := by
  rcases h with rfl | rfl
  · exact ⟨rfl, rfl, rfl, by decide⟩
  · exact ⟨rfl, rfl, rfl, by decide⟩

theorem Before.isPlain (h : Before c d) : IsPlain c ∧ IsPlain d := by
  rcases h.kinds with ⟨hc, hd⟩ | ⟨hc, hd⟩
  · exact ⟨.of_isDigit hc, .of_isDigit hd⟩
  · exact ⟨.of_sign hc, .of_goesOn hd⟩

/-! ## Blanks at the ends -/

theorem mem_dropWhile {p : Char → Bool} (hc : c ∈ cs) (h : p c = false) : c ∈ cs.dropWhile p := by
  rw [← List.takeWhile_append_dropWhile (p := p) (l := cs), List.mem_append] at hc
  refine hc.resolve_left fun hmem => ?_
  rw [List.mem_takeWhile_imp hmem] at h
  cases h

/-- A text without the blanks at its end. -/
def trimEnd (cs : List Char) : List Char :=
  (cs.reverse.dropWhile isBlank).reverse

theorem trimEnd_cons (c : Char) (cs : List Char) :
    trimEnd (c :: cs) = if isBlank c ∧ trimEnd cs = [] then [] else c :: trimEnd cs := by
  simp only [trimEnd, List.reverse_cons, List.dropWhile_append, List.reverse_eq_nil_iff]
  by_cases hnil : cs.reverse.dropWhile isBlank = []
  · by_cases hblank : isBlank c
    · simp [hnil, hblank]
    · simp [hnil, hblank]
  · simp [hnil]

theorem mem_trimEnd (hc : c ∈ cs) (h : isBlank c = false) : c ∈ trimEnd cs :=
  List.mem_reverse.mpr (mem_dropWhile (List.mem_reverse.mpr hc) h)

theorem trimEnd_trimEnd (cs : List Char) : trimEnd (trimEnd cs) = trimEnd cs :=
  List.rdropWhile_idempotent isBlank cs

/-- Nothing is left to trim of a trimmed text. -/
theorem trimChars_trimChars (cs : List Char) :
    Text.trimChars (Text.trimChars cs) = Text.trimChars cs := by
  change trimEnd ((trimEnd (cs.dropWhile isBlank)).dropWhile isBlank) =
    trimEnd (cs.dropWhile isBlank)
  cases hds : cs.dropWhile isBlank with
  | nil => rfl
  | cons c ds =>
      have hc : isBlank c = false := by
        have hhead := List.head?_dropWhile_not isBlank cs
        rw [hds] at hhead
        simpa using hhead
      have hend : ∀ es : List Char, trimEnd (c :: es) = c :: trimEnd es := fun es => by
        rw [trimEnd_cons, if_neg (by simp [hc])]
      rw [hend, List.dropWhile_cons_of_neg (by simp [hc]), hend, trimEnd_trimEnd]

namespace Precedes

theorem not_nil (h : Precedes cs []) : False := by
  cases h with
  | ends hd _ => cases hd

theorem exists_digit (h : Precedes [] ds) : ∃ d ∈ ds, d.isDigit := by
  cases h with
  | ends hd hdigit => exact ⟨_, hd, hdigit⟩

theorem of_cons (h : Precedes (c :: cs) (c :: ds)) : Precedes cs ds := by
  cases h with
  | same _ h => exact h
  | differ h => exact absurd h.lt (Nat.lt_irrefl _)

theorem dropWhile_isBlank (h : Precedes cs ds) :
    Precedes (cs.dropWhile isBlank) (ds.dropWhile isBlank) := by
  induction h with
  | same c h ih =>
      rw [List.dropWhile_cons, List.dropWhile_cons]
      split
      · exact ih
      · exact .same c h
  | differ h =>
      rw [List.dropWhile_cons_of_neg (by simp [h.isPlain.1.not_isBlank]),
        List.dropWhile_cons_of_neg (by simp [h.isPlain.2.not_isBlank])]
      exact .differ h
  | ends hd hdigit => exact .ends (mem_dropWhile hd (IsPlain.of_isDigit hdigit).not_isBlank) hdigit

theorem trimEnd (h : Precedes cs ds) : Precedes (trimEnd cs) (trimEnd ds) := by
  induction h with
  | @same c cs ds _ ih =>
      rw [trimEnd_cons, trimEnd_cons]
      by_cases hblank : isBlank c ∧ Iso.trimEnd cs = []
      · rw [if_pos hblank]
        rw [hblank.2] at ih
        obtain ⟨d, hd, hdigit⟩ := ih.exists_digit
        rw [if_neg fun h => List.ne_nil_of_mem hd h.2]
        exact .ends (List.mem_cons_of_mem c hd) hdigit
      · rw [if_neg hblank]
        split
        · rename_i hnil
          rw [hnil.2] at ih
          exact ih.not_nil.elim
        · exact .same c ih
  | differ h =>
      rw [trimEnd_cons, trimEnd_cons, if_neg (by simp [h.isPlain.1.not_isBlank]),
        if_neg (by simp [h.isPlain.2.not_isBlank])]
      exact .differ h
  | ends hd hdigit => exact .ends (mem_trimEnd hd (IsPlain.of_isDigit hdigit).not_isBlank) hdigit

/-- Blanks at the ends do not matter. -/
theorem trimChars (h : Precedes cs ds) : Precedes (Text.trimChars cs) (Text.trimChars ds) :=
  h.dropWhile_isBlank.trimEnd

/-! ## The mark of universal time -/

theorem append_left (es : List Char) (h : Precedes cs ds) : Precedes (es ++ cs) (es ++ ds) := by
  induction es with
  | nil => exact h
  | cons e es ih => exact .same e ih

/-- It does not matter how universal time is spelled. -/
theorem spellOutUtc (h : Precedes cs ds) :
    Precedes (Value.spellOutUtc cs) (Value.spellOutUtc ds) := by
  unfold Value.spellOutUtc
  induction h with
  | same c _ ih =>
      rw [List.flatMap_cons, List.flatMap_cons]
      exact ih.append_left _
  | differ h =>
      rw [List.flatMap_cons, List.flatMap_cons, if_neg h.isPlain.1.ne_utc,
        if_neg h.isPlain.2.ne_utc]
      exact .differ h
  | @ends d ds hd hdigit =>
      refine .ends (List.mem_flatMap.mpr ⟨d, hd, ?_⟩) hdigit
      rw [if_neg (IsPlain.of_isDigit hdigit).ne_utc]
      exact List.mem_singleton_self d

/-! ## Days and times -/

/-- Behind days of one layout, texts are in order if the days are the same. -/
theorem append_cases {as bs : List Char} (hlayout : layout as = layout bs)
    (h : Precedes (as ++ cs) (bs ++ ds)) : Leads as bs ∧ (as = bs → Precedes cs ds) := by
  induction as generalizing bs with
  | nil =>
      rw [List.eq_nil_of_length_eq_zero (Text.length_eq_of_layout_eq hlayout).symm] at h ⊢
      exact ⟨.ends [], fun _ => h⟩
  | cons a as ih =>
      cases bs with
      | nil => cases hlayout
      | cons b bs =>
          rw [Text.layout_cons, Text.layout_cons, List.cons.injEq] at hlayout
          rw [List.cons_append, List.cons_append] at h
          cases h with
          | same _ h =>
              obtain ⟨hleads, hrest⟩ := ih hlayout.2 h
              exact ⟨.same a hleads, fun heq => hrest (List.cons.inj heq).2⟩
          | differ h =>
              have hne : a ≠ b := fun heq => absurd h.lt (heq ▸ Nat.lt_irrefl _)
              refine ⟨?_, fun heq => absurd (List.cons.inj heq).1 hne⟩
              rcases h.kinds with ⟨ha, hb⟩ | ⟨ha, -⟩
              · exact .digit ha hb h.lt
              · refine absurd (Text.eq_of_blankDigit_eq hlayout.1 ?_) hne
                rcases ha with rfl | rfl <;> rfl

/-- In front of the offsets, the times of day are in order. -/
theorem timeChars (h : Precedes cs ds) : Leads (timeChars cs) (timeChars ds) := by
  unfold Iso.timeChars
  induction h with
  | same c _ ih =>
      rw [List.takeWhile_cons, List.takeWhile_cons]
      split
      · exact .same c ih
      · exact .ends []
  | differ h =>
      rcases h.kinds with ⟨hc, hd⟩ | ⟨hc, -⟩
      · rw [List.takeWhile_cons_of_pos (by simp [beginsOffset_of_isDigit hc]),
          List.takeWhile_cons_of_pos (by simp [beginsOffset_of_isDigit hd])]
        exact .digit hc hd h.lt
      · rw [List.takeWhile_cons_of_neg (by rcases hc with rfl | rfl <;> decide)]
        exact .ends _
  | ends _ _ => exact .ends _

/-! ## Collation -/

theorem compareChars_letters (h : Precedes cs ds) :
    Text.compareChars (cs.flatMap Text.lettersOf) (ds.flatMap Text.lettersOf) = .lt := by
  induction h with
  | same c _ ih =>
      rw [List.flatMap_cons, List.flatMap_cons, Text.compareChars_append_left]
      exact ih
  | differ h =>
      obtain ⟨hc, hd⟩ := h.isPlain
      rw [List.flatMap_cons, List.flatMap_cons, Text.lettersOf_of_isAscii hc.isAscii hc.toLower,
        Text.lettersOf_of_isAscii hd.isAscii hd.toLower, List.singleton_append,
        List.singleton_append, Text.compareChars, Nat.compare_eq_lt.mpr h.lt]
      rfl
  | @ends d ds hd hdigit =>
      have hplain := IsPlain.of_isDigit hdigit
      have hmem : d ∈ ds.flatMap Text.lettersOf := by
        refine List.mem_flatMap.mpr ⟨d, hd, ?_⟩
        rw [Text.lettersOf_of_isAscii hplain.isAscii hplain.toLower]
        exact List.mem_singleton_self d
      rw [List.flatMap_nil]
      cases hletters : ds.flatMap Text.lettersOf with
      | nil => exact (List.ne_nil_of_mem hmem hletters).elim
      | cons e es => rfl

/-- Texts are collated in this order. -/
theorem compare_collationKey {s t : String} (h : Precedes s.toList t.toList) :
    (Text.collationKey s).compare (Text.collationKey t) = .lt :=
  Text.CollationKey.compare_eq_lt h.compareChars_letters

end Precedes

/-! ## Moments -/

/-- The characters behind the day with which a text begins. -/
def behindDay (cs : List Char) : List Char :=
  cs.drop (dayLength cs)

theorem dayChars_append_behindDay (cs : List Char) : dayChars cs ++ behindDay cs = cs :=
  List.take_append_drop _ _

/-- A date and time is read from a day and, if anything stands behind it, a time of day behind one
more character. -/
theorem readChars?_cases {t : DateTime} (h : readChars? cs = some t) :
    readDay? (dayChars cs) = some t.date ∧
      ((behindDay cs = [] ∧ t.clock = .midnight) ∨
        ∃ c rest, behindDay cs = c :: rest ∧ readClock? rest = some (t.clock, t.offset)) := by
  unfold readChars? at h
  dsimp only at h
  split at h
  · cases h
  · split at h
    · cases h
    · rename_i date hdate
      split at h
      · rename_i hempty
        cases h
        exact ⟨hdate, Or.inl ⟨List.isEmpty_iff.mp hempty, rfl⟩⟩
      · rename_i hne
        obtain ⟨⟨clock, offset⟩, hclock, h⟩ := Option.map_eq_some_iff.mp h
        cases h
        refine ⟨hdate, Or.inr ?_⟩
        cases hrest : behindDay cs with
        | nil =>
            rw [behindDay] at hrest
            rw [hrest] at hne
            exact absurd rfl hne
        | cons c rest =>
            refine ⟨c, rest, rfl, ?_⟩
            rw [behindDay] at hrest
            rwa [hrest] at hclock

/-- A moment on an earlier day, or not later on the same day, is not later on the same clock. -/
theorem instant_le_instant {s t : DateTime} (hoffset : s.toMoment.offset = t.toMoment.offset)
    (h : s.date.ordinal < t.date.ordinal ∨ (s.date = t.date ∧ s.clock.micros ≤ t.clock.micros)) :
    s.toMoment.instant ≤ t.toMoment.instant := by
  have hclock := s.clock.lt_day
  have hday : s.date.ordinal * 86400000000 + s.clock.micros ≤
      t.date.ordinal * 86400000000 + t.clock.micros := by
    rcases h with hlt | ⟨heq, hle⟩
    · omega
    · rw [heq]
      omega
  rw [Moment.instant, Moment.instant, hoffset]
  exact Int.sub_le_sub_right (Int.ofNat_le.mpr hday) _

/-- Of two texts that write their days in one form, put the same character behind them and mean the
same offset, the one that precedes the other stands for the moment that is not later. -/
theorem instant_le_of_precedes {s t : DateTime} (h : Precedes cs ds)
    (hcs : readChars? cs = some s) (hds : readChars? ds = some t)
    (hday : layout (dayChars cs) = layout (dayChars ds))
    (hseparator : ∀ c ∈ (behindDay cs).head?, ∀ d ∈ (behindDay ds).head?, c = d)
    (hread : ReadsTime (behindDay ds).tail)
    (hoffset : s.toMoment.offset = t.toMoment.offset) :
    s.toMoment.instant ≤ t.toMoment.instant := by
  obtain ⟨hdate, hclock⟩ := readChars?_cases hcs
  obtain ⟨hdate', hclock'⟩ := readChars?_cases hds
  rw [← dayChars_append_behindDay cs, ← dayChars_append_behindDay ds] at h
  obtain ⟨hdays, hbehind⟩ := h.append_cases hday
  refine instant_le_instant hoffset ?_
  rcases ordinal_lt_or_eq_of_leads hdays hday hdate hdate' (length_dayChars_le cs)
    (length_dayChars_le ds) with hlt | hsame
  · exact Or.inl hlt
  · rw [hsame, hdate'] at hdate
    refine Or.inr ⟨(Option.some.inj hdate).symm, ?_⟩
    replace hbehind := hbehind hsame
    rcases hclock with ⟨-, hmidnight⟩ | ⟨c, rest, hrest, hclock⟩
    · rw [hmidnight]
      exact Nat.zero_le _
    · rcases hclock' with ⟨hnil, -⟩ | ⟨d, rest', hrest', hclock'⟩
      · rw [hnil] at hbehind
        exact hbehind.not_nil.elim
      · rw [hrest, hrest'] at hbehind hseparator
        obtain rfl : c = d := hseparator c rfl d rfl
        rw [hrest'] at hread
        exact micros_le_of_leads hbehind.of_cons.timeChars hclock hclock' hread

end IssueQuery.Iso
