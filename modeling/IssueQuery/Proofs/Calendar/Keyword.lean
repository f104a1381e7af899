import IssueQuery.Calendar.Keyword
import IssueQuery.Proofs.Calendar.Spelling
import IssueQuery.Proofs.Table

/-!
# Keywords are no dates

A text that is read as a date begins with a digit, and ends with one if it shows no offset.  A time
keyword is a word of letters, or it ends with the letter of a unit behind its digits, and it shows
no offset either.  So no text is both, and an operand that spells a date is never taken for a
keyword.
-/

namespace IssueQuery

open Text (isDecimal)

namespace Iso

variable {n m : Nat} {cs rest as : List Char} {fields numbers : List Nat} {t : Tail}
  {form : List Slot}

/-! ## The ends of written dates -/

/-- The last character of a text is a digit. -/
def EndsInDigit (cs : List Char) : Prop :=
  ∃ c, cs.getLast? = some c ∧ c.isDigit

theorem EndsInDigit.append_left (h : EndsInDigit cs) (as : List Char) :
    EndsInDigit (as ++ cs) := by
  obtain ⟨c, hc, hdigit⟩ := h
  exact ⟨c, by rw [List.getLast?_append, hc]; rfl, hdigit⟩

theorem endsInDigit_of_forall (hne : cs ≠ []) (h : ∀ c ∈ cs, c.isDigit) : EndsInDigit cs :=
  ⟨_, List.getLast?_eq_some_getLast hne, h _ (List.getLast_mem hne)⟩

/-- A fraction is a run of digits in front of what is left. -/
theorem exists_digits_of_readFraction? (h : readFraction? cs = some (m, rest)) :
    ∃ as, cs = as ++ rest ∧ ∀ c ∈ as, c.isDigit := by
  unfold readFraction? at h
  obtain ⟨⟨value, more⟩, hdigits, h⟩ := Option.map_eq_some_iff.mp h
  cases h
  obtain ⟨as, hsplit, -, has, -⟩ := digits?_eq_some_iff.mp hdigits
  refine ⟨as ++ more.takeWhile Char.isDigit, ?_, ?_⟩
  · rw [hsplit, List.append_assoc, List.takeWhile_append_dropWhile]
  · intro c hc
    rcases List.mem_append.mp hc with hc | hc
    · exact has c hc
    · exact List.mem_takeWhile_imp hc

/-- What is left behind the fields of a time is its end, and if nothing is left, the time ends in a
digit. -/
theorem endsInDigit_of_fields (h : Fields n cs fields t) (ht : t.micro? = some (m, rest))
    (hne : cs ≠ []) : rest <:+ cs ∧ (rest = [] → EndsInDigit cs) := by
  have hfraction : ∀ {cs : List Char}, cs ≠ [] → readFraction? cs = some (m, rest) →
      rest <:+ cs ∧ (rest = [] → EndsInDigit cs) := by
    intro cs hne hread
    obtain ⟨as, rfl, has⟩ := exists_digits_of_readFraction? hread
    refine ⟨List.suffix_append as rest, ?_⟩
    rintro rfl
    rw [List.append_nil] at hne ⊢
    exact endsInDigit_of_forall hne has
  induction n generalizing cs fields with
  | zero =>
      obtain ⟨-, rfl⟩ := h
      exact hfraction hne ht
  | succ n ih =>
      obtain ⟨v, cs', fields', hdigits, -, hbehind⟩ := h
      obtain ⟨as, rfl, hlength, has, -⟩ := digits?_eq_some_iff.mp hdigits
      have hmore : ∀ {more : List Char}, more <:+ cs' →
          rest <:+ more ∧ (rest = [] → EndsInDigit more) →
          rest <:+ as ++ cs' ∧ (rest = [] → EndsInDigit (as ++ cs')) := by
        rintro more ⟨front, rfl⟩ ⟨hsuffix, hdigit⟩
        refine ⟨hsuffix.trans ⟨as ++ front, List.append_assoc _ _ _⟩, fun hnil => ?_⟩
        exact ((hdigit hnil).append_left front).append_left as
      cases hbehind with
      | last _ =>
          cases ht
          refine ⟨List.suffix_append as _, ?_⟩
          rintro rfl
          rw [List.append_nil]
          refine endsInDigit_of_forall ?_ has
          rintro rfl
          cases hlength
      | colon hnext hfields => exact hmore (List.suffix_cons _ _) (ih hfields hnext)
      | point hnext _ => exact hmore (List.suffix_cons _ _) (hfraction hnext ht)
      | run _ _ hfields => exact hmore List.suffix_rfl (ih hfields (List.cons_ne_nil _ _))

/-- A time of day without an offset ends in a digit, unless a zero byte ends it. -/
theorem endsInDigit_of_readClock? {clock : ClockTime} {offset : Option Offset}
    (h : readClock? cs = some (clock, offset)) (hsign : ∀ c ∈ cs, beginsOffset c = false)
    (hzero : '\x00' ∉ cs) : EndsInDigit cs := by
  have hpass : ∀ c ∈ cs, (!beginsOffset c) = true := by
    intro c hc
    rw [hsign c hc]
    rfl
  have hparts : ∃ p, readParts? cs = some p ∧ p.leftover = false := by
    unfold readClock? at h
    rw [List.takeWhile_eq_self_iff.mpr hpass, List.dropWhile_eq_nil_iff.mpr hpass] at h
    dsimp only at h
    split at h
    · cases h
    · rename_i p hp
      split at h
      · cases h
      · rw [List.isEmpty_nil, if_pos rfl] at h
        split at h
        · cases h
        · rename_i hread
          exact ⟨p, hp, by simpa using hread⟩
  obtain ⟨p, hp, hread⟩ := hparts
  obtain ⟨fields, t, rest, hfields, ht, hleftover, -⟩ := exists_fields_of_readParts? hp
  have hne : cs ≠ [] := by
    rintro rfl
    obtain ⟨v, cs', fields', hdigits, -, -⟩ := hfields
    obtain ⟨as, hsplit, hlength, -, -⟩ := digits?_eq_some_iff.mp hdigits
    rw [(List.append_eq_nil_iff.mp hsplit.symm).1] at hlength
    cases hlength
  obtain ⟨hsuffix, hdigit⟩ := endsInDigit_of_fields hfields ht hne
  have hover : isOver rest = true := by simpa [hread] using hleftover
  cases rest with
  | nil => exact hdigit rfl
  | cons c rest =>
      rw [isOver, decide_eq_true_eq] at hover
      subst hover
      exact absurd (hsuffix.subset List.mem_cons_self) hzero

theorem Fills.endsInDigit (h : Fills form cs numbers rest) (hrest : rest = [])
    (hlast : form.getLast? = some (.digits (n + 1))) : EndsInDigit cs := by
  induction h with
  | done cs => cases hlast
  | @mark c form cs rest numbers _ ih =>
      have hform : form ≠ [] := by
        rintro rfl
        cases hlast
      rw [List.getLast?_cons_of_ne_nil hform] at hlast
      exact (ih hrest hlast).append_left [c]
  | @digits k v form cs cs' rest numbers hdigits hfills ih =>
      obtain ⟨as, rfl, hlength, has, -⟩ := digits?_eq_some_iff.mp hdigits
      by_cases hform : form = []
      · subst hform
        cases hfills
        subst hrest
        obtain rfl : k = n + 1 := by simpa using hlast
        rw [List.append_nil]
        refine endsInDigit_of_forall ?_ has
        rintro rfl
        cases hlength
      · rw [List.getLast?_cons_of_ne_nil hform] at hlast
        exact (ih hrest hlast).append_left as

/-- A written date begins with a digit.  It ends in one if it shows no offset and no zero byte. -/
theorem digits_at_ends_of_readChars? {t : DateTime} (h : readChars? cs = some t) :
    (∃ c rest, cs = c :: rest ∧ c.isDigit) ∧
      ((∀ c ∈ cs, beginsOffset c = false) → '\x00' ∉ cs → EndsInDigit cs) := by
  obtain ⟨hdate, hclock⟩ := readChars?_cases h
  obtain ⟨k, numbers, hfills, -⟩ := exists_fills_of_readDay? hdate (length_dayChars_le cs)
  have hcs := dayChars_append_behindDay cs
  constructor
  · have hyear : ∃ form, k.slots = .digits 4 :: form := by
      cases k <;> exact ⟨_, rfl⟩
    obtain ⟨form, hform⟩ := hyear
    rw [hform] at hfills
    cases hfills with
    | digits hdigits _ =>
        obtain ⟨as, hday, hlength, has, -⟩ := digits?_eq_some_iff.mp hdigits
        obtain ⟨c, as, rfl⟩ := List.exists_cons_of_ne_nil (List.ne_nil_of_length_eq_add_one hlength)
        rw [hday] at hcs
        exact ⟨c, _, hcs.symm, has c List.mem_cons_self⟩
  · intro hsign hzero
    rcases hclock with ⟨hnil, -⟩ | ⟨c, rest, hrest, hclock⟩
    · have hlast : ∃ n, k.slots.getLast? = some (.digits (n + 1)) := by
        rcases k with hyphens | hyphens | hyphens <;> cases hyphens <;> exact ⟨_, rfl⟩
      obtain ⟨n, hlast⟩ := hlast
      rw [hnil, List.append_nil] at hcs
      rw [← hcs]
      exact hfills.endsInDigit rfl hlast
    · have hmem : ∀ d ∈ rest, d ∈ cs := by
        intro d hd
        rw [← hcs, hrest]
        exact List.mem_append_right _ (List.mem_cons_of_mem c hd)
      have hdigit := endsInDigit_of_readClock? hclock (fun d hd => hsign d (hmem d hd))
        fun hd => hzero (hmem _ hd)
      rw [← hcs, hrest]
      exact (hdigit.append_left [c]).append_left _

end Iso

/-! ## Lower case at the ends of a text -/

namespace Text.Case

/-- The lower case of a text ends with that of its last characters. -/
theorem exists_lowerFrom_append (casedBefore : Bool) (xs ys : List Char) :
    ∃ as casedBefore', lowerFrom casedBefore (xs ++ ys) = as ++ lowerFrom casedBefore' ys := by
  induction xs generalizing casedBefore with
  | nil => exact ⟨[], casedBefore, rfl⟩
  | cons x xs ih =>
      obtain ⟨as, casedBefore', h⟩ := ih (casedAfter casedBefore x)
      refine ⟨lowerIn casedBefore x (xs ++ ys) ++ as, casedBefore', ?_⟩
      rw [List.cons_append, lowerFrom, h, List.append_assoc]

theorem exists_lower_cons {c : Char} (h : c.isDigit) (cs : List Char) :
    ∃ behind, lower (c :: cs) = c :: behind := by
  have hplain := Iso.IsPlain.of_isDigit h
  exact ⟨lowerFrom (casedAfter false c) cs, by
    rw [lower, lowerFrom, lowerIn_of_isAscii hplain.isAscii, hplain.toLower,
      List.singleton_append]⟩

theorem endsInDigit_lower {cs : List Char} (h : Iso.EndsInDigit cs) :
    Iso.EndsInDigit (lower cs) := by
  obtain ⟨c, hlast, hc⟩ := h
  obtain ⟨front, rfl⟩ := List.getLast?_eq_some_iff.mp hlast
  obtain ⟨as, casedBefore, hback⟩ := exists_lowerFrom_append false front [c]
  have hplain := Iso.IsPlain.of_isDigit hc
  refine ⟨c, ?_, hc⟩
  rw [lower, hback, lowerFrom, lowerIn_of_isAscii hplain.isAscii, hplain.toLower]
  simp [lowerFrom]

end Text.Case

/-! ## The characters of keywords -/

namespace TimeKeyword

open Text.Case (isAscii forall_isAscii)

variable {s : String} {k : TimeKeyword} {c : Char} {cs : List Char}

/-- The letters of the units. -/
def isUnitChar (c : Char) : Bool :=
  (TimeUnit.ofChar? c).isSome

theorem mem_unitChars (h : isUnitChar c) : c ∈ ['h', 'd', 'w', 'm', 'y'] := by
  unfold isUnitChar TimeUnit.ofChar? at h
  split at h
  all_goals simp_all

/-- A relative time is a run of digits and the letter of a unit. -/
theorem exists_amount_of_readAgo? (h : readAgo? cs = some k) :
    ∃ amount c, cs = amount ++ [c] ∧ amount ≠ [] ∧ (∀ d ∈ amount, isDecimal d) ∧
      isUnitChar c := by
  unfold readAgo? at h
  dsimp only at h
  split at h
  · rename_i c hamount hbehind
    obtain ⟨unit, hunit, -⟩ := Option.map_eq_some_iff.mp h
    refine ⟨cs.takeWhile isDecimal, c, ?_, List.isEmpty_eq_false_iff.mp hamount,
      fun d hd => List.mem_takeWhile_imp hd, ?_⟩
    · rw [← hbehind, List.takeWhile_append_dropWhile]
    · rw [isUnitChar, hunit]
      rfl
  · cases h

/-- A relative time shows no offset and no zero byte. -/
theorem not_offset_of_readAgo? (h : readAgo? (Text.Case.lower cs) = some k) (hc : c ∈ cs) :
    Iso.beginsOffset c = false ∧ c ≠ '\x00' := by
  obtain ⟨amount, u, hlower, -, hamount, hunit⟩ := exists_amount_of_readAgo? h
  by_cases hascii : isAscii c
  · have hchar : isDecimal c.toLower ∨ isUnitChar c.toLower := by
      have hmem := Text.Case.mem_lowerFrom false hc hascii
      rw [← Text.Case.lower, hlower, List.mem_append, List.mem_singleton] at hmem
      rcases hmem with hmem | rfl
      · exact Or.inl (hamount _ hmem)
      · exact Or.inr hunit
    exact forall_isAscii (p := fun c => isDecimal c.toLower ∨ isUnitChar c.toLower →
      Iso.beginsOffset c = false ∧ c ≠ '\x00') (by decide +kernel) hascii hchar
  · have hne : ∀ d : Char, isAscii d → c ≠ d := by
      rintro d hd rfl
      exact hascii hd
    simp [Iso.beginsOffset, hne '+' (by decide), hne '-' (by decide), hne 'Z' (by decide),
      hne '\x00' (by decide)]

/-- A relative time ends with the letter of its unit. -/
theorem not_endsInDigit_of_readAgo? (h : readAgo? cs = some k) : ¬Iso.EndsInDigit cs := by
  obtain ⟨amount, u, rfl, -, -, hunit⟩ := exists_amount_of_readAgo? h
  rintro ⟨c, hlast, hc⟩
  obtain rfl : u = c := by simpa using hlast
  have hletter := mem_unitChars hunit
  simp only [List.mem_cons, List.not_mem_nil, or_false] at hletter
  rcases hletter with rfl | rfl | rfl | rfl | rfl
  all_goals exact absurd hc (by decide)

/-- A keyword is one of the named words or a relative time. -/
theorem mem_named_or_readAgo? (h : read? s = some k) :
    (Text.lower (Text.trim s), k) ∈ named ∨
      readAgo? (Text.Case.lower (Text.trimChars s.toList)) = some k := by
  unfold read? at h
  dsimp only at h
  rcases Option.or_eq_some_iff.mp h with hnamed | ⟨-, hago⟩
  · exact Or.inl (Table.mem_of_lookup hnamed)
  · rw [Text.toList_lower, Text.toList_trim] at hago
    exact Or.inr hago

/-- A keyword that begins with a digit is a relative time. -/
theorem readAgo?_of_read? (h : read? s = some k) (hs : Text.trimChars s.toList = c :: cs)
    (hc : c.isDigit) : readAgo? (Text.Case.lower (c :: cs)) = some k := by
  rcases mem_named_or_readAgo? h with hnamed | hago
  · have hletters : named.all fun p => p.1.toList.head?.all fun d => !d.isDigit := by decide
    have hletter := List.all_eq_true.mp hletters _ hnamed
    obtain ⟨rest, hrest⟩ := Text.Case.exists_lower_cons hc cs
    rw [Text.toList_lower, Text.toList_trim, hs, hrest] at hletter
    simp [hc] at hletter
  · rwa [hs] at hago

/-- No keyword has a hyphen. -/
theorem hyphen_not_mem_of_read? (h : read? s = some k) : '-' ∉ s.toList := by
  intro hmem
  have htrim : '-' ∈ Text.trimChars s.toList :=
    Iso.mem_trimEnd (Iso.mem_dropWhile hmem (by decide)) (by decide)
  rcases mem_named_or_readAgo? h with hnamed | hago
  · have hnames : named.all fun p => !p.1.toList.contains '-' := by decide
    have hword : '-' ∈ (Text.lower (Text.trim s)).toList := by
      rw [Text.toList_lower, Text.toList_trim]
      exact Text.Case.mem_lowerFrom false htrim (by decide)
    have hname := List.all_eq_true.mp hnames _ hnamed
    rw [List.contains_iff_mem.mpr hword] at hname
    cases hname
  · exact absurd (not_offset_of_readAgo? hago htrim).1 (by decide)

end TimeKeyword

/-! ## Keywords and dates -/

namespace Value

variable {s : String} {k : TimeKeyword} {c : Char} {cs rest : List Char}

theorem spellOutUtc_of_not_mem (h : 'Z' ∉ cs) : spellOutUtc cs = cs := by
  induction cs with
  | nil => rfl
  | cons c cs ih =>
      have hc : c ≠ 'Z' := fun hc => h (hc ▸ List.mem_cons_self)
      rw [spellOutUtc, List.flatMap_cons, if_neg hc, List.singleton_append]
      exact congrArg _ (ih fun hmem => h (List.mem_cons_of_mem c hmem))

/-- The mark of universal time is not spelled out with a digit in front. -/
theorem exists_cons_of_spellOutUtc (h : spellOutUtc cs = c :: rest) (hc : c.isDigit) :
    ∃ cs', cs = c :: cs' := by
  cases cs with
  | nil => cases h
  | cons d cs =>
      rw [spellOutUtc, List.flatMap_cons] at h
      by_cases hd : d = 'Z'
      · rw [if_pos hd] at h
        obtain rfl : '+' = c := (List.cons.inj h).1
        exact absurd hc (by decide)
      · rw [if_neg hd] at h
        exact ⟨cs, by rw [(List.cons.inj h).1]⟩

/-- A text that spells a keyword stands for no moment of its own. -/
theorem readMoment?_of_keyword (h : TimeKeyword.read? s = some k) : readMoment? s = none := by
  unfold readMoment?
  dsimp only
  split
  · rfl
  · rw [Option.map_eq_none_iff]
    by_contra hdate
    obtain ⟨t, ht⟩ := Option.ne_none_iff_exists'.mp hdate
    obtain ⟨⟨c, rest, hspelled, hc⟩, hend⟩ := Iso.digits_at_ends_of_readChars? ht
    obtain ⟨cs, hcs⟩ := exists_cons_of_spellOutUtc hspelled hc
    have hago := TimeKeyword.readAgo?_of_read? h hcs hc
    have hsign : ∀ d ∈ c :: cs, Iso.beginsOffset d = false ∧ d ≠ '\x00' := fun d hd =>
      TimeKeyword.not_offset_of_readAgo? hago hd
    have hutc : 'Z' ∉ c :: cs := fun hmem => absurd (hsign 'Z' hmem).1 (by decide)
    rw [hcs, spellOutUtc_of_not_mem hutc] at hend
    have hdigit := hend (fun d hd => (hsign d hd).1) fun hmem => (hsign _ hmem).2 rfl
    exact TimeKeyword.not_endsInDigit_of_readAgo? hago (Text.Case.endsInDigit_lower hdigit)

end Value

end IssueQuery
