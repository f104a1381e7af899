import IssueQuery.Proofs.Calendar.Keyword
import IssueQuery.Proofs.Number.Numeral
import IssueQuery.Value.Text

/-!
# Dates and times read back

The written form of a date and time is read back as what it was written from.  Each number is padded
to a fixed width, so it is read in front of any rest; what is only written if it is not zero is read
as zero where it is missing; and a time of day shows no sign, so the offset begins with the first
one.
-/

namespace IssueQuery

open Text

/-! ## Padded numbers -/

namespace Date

variable {width n : Nat}

theorem padded_spec (width n : Nat) : padded width n ≠ [] ∧ ∀ c ∈ padded width n, c.isDigit := by
  constructor
  · simp [padded, Nat.toDigits_ne_nil]
  · intro c hc
    rcases List.mem_append.mp hc with hc | hc
    · exact isDigit_of_mem_zeros hc
    · exact Nat.isDigit_of_mem_toDigits (by decide) (by decide) hc

theorem length_padded (hwidth : 0 < width) (h : n < 10 ^ width) :
    (padded width n).length = width := by
  have hle := (Nat.length_toDigits_le_iff (b := 10) (by decide) hwidth).mpr h
  rw [padded, List.length_append, List.length_replicate]
  omega

end Date

namespace Iso

open Date (padded padded_spec length_padded)

variable {n width : Nat} {cs rest : List Char} {colons : Bool} {read : List Nat}

theorem digitsValue_eq_decimalValue (h : ∀ c ∈ cs, c.isDigit) :
    digitsValue cs = decimalValue cs := by
  rw [digitsValue, decimalValue]
  apply List.foldl_ext
  intro v c hc
  rw [digitValue?_of_isDigit (h c hc), Option.getD_some]

/-- A padded number is read in front of anything. -/
theorem digits?_padded (hwidth : 0 < width) (h : n < 10 ^ width) (rest : List Char) :
    digits? width (padded width n ++ rest) = some (n, rest) := by
  have hdigits := (padded_spec width n).2
  refine digits?_eq_some_iff.mpr ⟨_, rfl, length_padded hwidth h, hdigits, ?_⟩
  rw [digitsValue_eq_decimalValue hdigits, padded, decimalValue_zeros_append, decimalValue_toDigits]

theorem digits?_padded_nil (hwidth : 0 < width) (h : n < 10 ^ width) :
    digits? width (padded width n) = some (n, []) := by
  have hread := digits?_padded hwidth h []
  rwa [List.append_nil] at hread

/-! ## Days -/

theorem isoChars_eq (d : Date) : d.isoChars =
    padded 4 d.year ++ '-' :: (padded 2 d.month ++ '-' :: padded 2 d.day) := by
  simp [Date.isoChars]

theorem date_lt (d : Date) : d.year < 10 ^ 4 ∧ d.month < 10 ^ 2 ∧ d.day < 10 ^ 2 := by
  have hyear := d.year_le
  have hmonth := d.month_mem
  have hday : d.day ≤ 31 := by
    refine d.day_le.trans ?_
    unfold Calendar.daysInMonth
    split
    all_goals try split
    all_goals omega
  omega

theorem readDay?_isoChars (d : Date) : readDay? d.isoChars = some d := by
  obtain ⟨hyear, hmonth, hday⟩ := date_lt d
  unfold readDay?
  rw [isoChars_eq]
  simp only [digits?_padded (by decide) hyear, Option.bind_eq_bind, Option.bind_some,
    List.head?_cons, beq_self_eq_true, if_true, List.drop_succ_cons, List.drop_zero]
  split
  · rename_i rest hweek
    have hmem : 'W' ∈ (padded 2 d.month ++ '-' :: padded 2 d.day).head? := by
      rw [hweek]
      rfl
    rw [List.head?_append_of_ne_nil _ (padded_spec 2 d.month).1] at hmem
    exact absurd ((padded_spec 2 d.month).2 _ (List.mem_of_mem_head? hmem)) (by decide)
  · simp only [digits?_padded (by decide) hmonth, digits?_padded_nil (by decide) hday, skip?,
      Option.bind_some, if_true, List.isEmpty_nil]
    exact Date.ofCivil?_eq_some_iff.mpr ⟨rfl, rfl, rfl⟩

/-- The written form of a day is read back. -/
theorem readDate?_isoText (d : Date) : readDate? d.isoText = some d := by
  rw [readDate?, Date.isoText, String.toList_ofList, readDay?_isoChars]

theorem length_isoChars (d : Date) : d.isoChars.length = 10 := by
  obtain ⟨hyear, hmonth, hday⟩ := date_lt d
  rw [isoChars_eq]
  simp [length_padded (by decide) hyear, length_padded (by decide) hmonth,
    length_padded (by decide) hday]

/-- A text that begins with a date has it for its day. -/
theorem dayLength_isoChars (d : Date) (rest : List Char) : dayLength (d.isoChars ++ rest) = 10 := by
  have hyear := length_padded (by decide : 0 < 4) (date_lt d).1
  have hlength : (d.isoChars ++ rest).length ≠ 7 := by
    rw [List.length_append, length_isoChars]
    omega
  have hhyphen : (d.isoChars ++ rest)[4]? = some '-' := by
    rw [isoChars_eq, List.append_assoc, List.getElem?_append_right hyear.le, hyear]
    rfl
  have hweek : (d.isoChars ++ rest)[5]? ≠ some 'W' := by
    rw [isoChars_eq, List.append_assoc, List.getElem?_append_right (by omega), hyear,
      List.cons_append, List.getElem?_cons_succ, List.append_assoc, ← List.head?_eq_getElem?,
      List.head?_append_of_ne_nil _ (padded_spec 2 d.month).1]
    intro hmem
    exact absurd ((padded_spec 2 d.month).2 _ (List.mem_of_mem_head? hmem)) (by decide)
  unfold dayLength
  dsimp only
  rw [if_neg hlength, if_pos hhyphen, if_neg hweek]

/-! ## Times of day -/

theorem readFields?_colon (n : Nat) (read : List Nat) {v : Nat} (hv : v < 10 ^ 2)
    (hrest : rest ≠ []) :
    readFields? true (n + 1) read (padded 2 v ++ ':' :: rest) =
      readFields? true n (v :: read) rest := by
  obtain ⟨c, cs, rfl⟩ := List.exists_cons_of_ne_nil hrest
  rw [readFields?, digits?_padded (by decide) hv]
  simp

theorem readFields?_point (n : Nat) (read : List Nat) {v : Nat} (hv : v < 10 ^ 2)
    (hrest : rest ≠ []) :
    readFields? true (n + 1) read (padded 2 v ++ '.' :: rest) =
      some (v :: read, .fraction rest) := by
  obtain ⟨c, cs, rfl⟩ := List.exists_cons_of_ne_nil hrest
  rw [readFields?, digits?_padded (by decide) hv]
  simp

theorem readFields?_end (colons : Bool) (n : Nat) (read : List Nat) {v : Nat} (hv : v < 10 ^ 2) :
    readFields? colons (n + 1) read (padded 2 v) = some (v :: read, .plain []) := by
  rw [readFields?, digits?_padded_nil (by decide) hv]

theorem readFraction?_padded {micro : Nat} (h : micro < 10 ^ 6) :
    readFraction? (padded 6 micro) = some (micro, []) := by
  have hlength := length_padded (by decide) h
  rw [readFraction?, hlength]
  simp only [Nat.min_self, digits?_padded_nil (by decide) h]
  simp

/-- A length of time that has two digits of hours is read back, however finely it is written. -/
theorem readParts?_clockChars {micros : Nat} (h : micros < 360000000000) (withSecond : Bool) :
    readParts? (clockChars micros withSecond) =
      some ⟨micros / 3600000000, micros / 60000000 % 60, micros / 1000000 % 60, micros % 1000000,
        false⟩ := by
  have hhour : micros / 3600000000 < 10 ^ 2 := by omega
  have hminute : micros / 60000000 % 60 < 10 ^ 2 := by omega
  have hsecond : micros / 1000000 % 60 < 10 ^ 2 := by omega
  have hmicro : micros % 1000000 < 10 ^ 6 := by omega
  have hcolons : (clockChars micros withSecond)[2]? = some ':' := by
    have hlength := length_padded (by decide) hhour
    simp only [clockChars, List.append_assoc]
    rw [List.getElem?_append_right hlength.le, hlength]
    rfl
  unfold readParts?
  rw [hcolons, beq_self_eq_true]
  dsimp only
  by_cases hfine : micros % 1000000 = 0
  · cases hcoarse : withSecond || decide (micros / 1000000 % 60 ≠ 0) with
    | true =>
        have hchars : clockChars micros withSecond = padded 2 (micros / 3600000000) ++
            ':' :: (padded 2 (micros / 60000000 % 60) ++
              ':' :: padded 2 (micros / 1000000 % 60)) := by
          rw [clockChars, hcoarse, Bool.true_or, if_pos rfl, if_neg (not_not.mpr hfine)]
          simp
        rw [hchars, readFields?_colon 2 _ hhour (by simp),
          readFields?_colon 1 _ hminute (padded_spec _ _).1, readFields?_end _ _ _ hsecond]
        simp [hfine, isOver]
    | false =>
        have hchars : clockChars micros withSecond = padded 2 (micros / 3600000000) ++
            ':' :: padded 2 (micros / 60000000 % 60) := by
          rw [clockChars, hcoarse, Bool.false_or, if_neg (by simp [hfine]),
            if_neg (not_not.mpr hfine)]
          simp
        have hzero : micros / 1000000 % 60 = 0 := by
          simpa using (Bool.or_eq_false_iff.mp hcoarse).2
        rw [hchars, readFields?_colon 2 _ hhour (padded_spec _ _).1,
          readFields?_end _ _ _ hminute]
        simp [hfine, hzero, isOver]
  · have hchars : clockChars micros withSecond = padded 2 (micros / 3600000000) ++
        ':' :: (padded 2 (micros / 60000000 % 60) ++
          ':' :: (padded 2 (micros / 1000000 % 60) ++ '.' :: padded 6 (micros % 1000000))) := by
      simp [clockChars, hfine]
    rw [hchars, readFields?_colon 2 _ hhour (by simp), readFields?_colon 1 _ hminute (by simp),
      readFields?_point _ _ hsecond (padded_spec _ _).1]
    dsimp only
    rw [readFraction?_padded hmicro]
    simp [isOver]

theorem mem_clockChars {micros : Nat} {withSecond : Bool} {c : Char}
    (h : c ∈ clockChars micros withSecond) : c.isDigit ∨ c = ':' ∨ c = '.' := by
  have hdigits : ∀ {width n : Nat}, c ∈ padded width n → c.isDigit ∨ c = ':' ∨ c = '.' :=
    fun hmem => Or.inl ((padded_spec _ _).2 c hmem)
  simp only [clockChars, List.mem_append, List.mem_cons] at h
  rcases h with ((h | rfl | h) | h) | h
  · exact hdigits h
  · exact Or.inr (Or.inl rfl)
  · exact hdigits h
  · split at h
    · rcases List.mem_cons.mp h with rfl | h
      · exact Or.inr (Or.inl rfl)
      · exact hdigits h
    · cases h
  · split at h
    · rcases List.mem_cons.mp h with rfl | h
      · exact Or.inr (Or.inr rfl)
      · exact hdigits h
    · cases h

theorem ofParts?_clock (t : ClockTime) : ClockTime.ofParts? (t.micros / 3600000000)
    (t.micros / 60000000 % 60) (t.micros / 1000000 % 60) (t.micros % 1000000) = some t := by
  obtain ⟨micros, hmicros⟩ := t
  dsimp only
  unfold ClockTime.ofParts?
  rw [dif_pos (by omega), Option.some.injEq, ClockTime.mk.injEq]
  omega

/-! ## Offsets -/

/-- An offset is no fraction of a second. -/
def IsWholeEnough (o : Offset) : Prop :=
  o.micros.natAbs < 1000000 → o.micros = 0

theorem seconds_and_micros {n : Nat} (h : n < 1000000 → n = 0) :
    (if (n / 3600000000 * 60 + n / 60000000 % 60) * 60 + n / 1000000 % 60 = 0 then 0
      else (((n / 3600000000 * 60 + n / 60000000 % 60) * 60 + n / 1000000 % 60 : Nat) : Int) *
        1000000 + (n % 1000000 : Nat)) = (n : Int) := by
  split <;> omega

/-- Every offset is read back but those below a second, which are taken for none. -/
theorem readOffset?_chars {o : Offset} (h : IsWholeEnough o) : readOffset? o.chars = some o := by
  obtain ⟨micros, hlow, hhigh⟩ := o
  have hday : micros.natAbs < 360000000000 := by omega
  have hparts := readParts?_clockChars hday false
  have hvalue := seconds_and_micros (n := micros.natAbs) fun hsmall =>
    Int.natAbs_eq_zero.mpr (h hsmall)
  have hmicros : Offset.ofMicros? micros = some ⟨micros, hlow, hhigh⟩ := dif_pos ⟨hlow, hhigh⟩
  have hsign : (if micros < 0 then '-' else '+') ≠ 'Z' := by split <;> decide
  unfold readOffset? Offset.chars
  dsimp only
  split
  · rename_i heq
    exact absurd (List.cons.inj heq).1 hsign
  · rename_i sign rest _ heq
    obtain ⟨rfl, rfl⟩ := List.cons.inj heq
    rw [hparts]
    dsimp only
    rw [hvalue, if_neg Bool.false_ne_true, ← hmicros]
    by_cases hneg : micros < 0
    · rw [if_pos hneg, if_pos rfl]
      congr 1
      omega
    · rw [if_neg hneg, if_neg (by decide)]
      congr 1
      omega
  · rename_i heq
    cases heq

theorem exists_chars_cons (o : Offset) :
    ∃ sign rest, o.chars = sign :: rest ∧ beginsOffset sign := by
  refine ⟨_, _, rfl, ?_⟩
  split <;> decide

/-! ## Dates and times -/

/-- The characters of an offset, if there is one. -/
def offsetChars : Option Offset → List Char
  | some o => o.chars
  | none => []

theorem charsWith_eq (separator : Char) (t : DateTime) : t.charsWith separator =
    t.date.isoChars ++ separator :: (clockChars t.clock.micros true ++ offsetChars t.offset) := by
  obtain ⟨date, clock, offset⟩ := t
  cases offset with
  | none => simp [DateTime.charsWith, offsetChars]
  | some o => simp [DateTime.charsWith, offsetChars]

/-- The offset begins with the first sign behind the time of day. -/
theorem readClock?_chars (clock : ClockTime) {offset : Option Offset}
    (h : ∀ o ∈ offset, IsWholeEnough o) :
    readClock? (clockChars clock.micros true ++ offsetChars offset) = some (clock, offset) := by
  have hclock : ∀ c ∈ clockChars clock.micros true, (!beginsOffset c) = true := by
    intro c hc
    rcases mem_clockChars hc with hdigit | rfl | rfl
    · rw [beginsOffset_of_isDigit hdigit]
      rfl
    · decide
    · decide
  have hparts := readParts?_clockChars (clock.lt_day.trans (by decide)) true
  unfold readClock?
  dsimp only
  cases offset with
  | none =>
      rw [offsetChars, List.append_nil, List.takeWhile_eq_self_iff.mpr hclock,
        List.dropWhile_eq_nil_iff.mpr hclock, hparts]
      dsimp only
      rw [ofParts?_clock]
      rfl
  | some o =>
      obtain ⟨sign, rest, hchars, hsign⟩ := exists_chars_cons o
      have htake : (sign :: rest).takeWhile (!beginsOffset ·) = [] :=
        List.takeWhile_cons_of_neg (by simp [hsign])
      have hdrop : (sign :: rest).dropWhile (!beginsOffset ·) = sign :: rest :=
        List.dropWhile_cons_of_neg (by simp [hsign])
      rw [offsetChars, hchars, List.takeWhile_append_of_pos hclock,
        List.dropWhile_append_of_pos hclock, htake, hdrop, List.append_nil, hparts]
      dsimp only
      rw [ofParts?_clock, ← hchars, readOffset?_chars (h o rfl), hchars]
      rfl

/-- The written form of a date and time is read back, whatever separates the day from the time. -/
theorem readChars?_charsWith (separator : Char) {t : DateTime}
    (h : ∀ o ∈ t.offset, IsWholeEnough o) :
    readChars? (t.charsWith separator) = some t := by
  have hlength := length_isoChars t.date
  rw [charsWith_eq, readChars?, if_neg (by rw [List.length_append, hlength]; omega)]
  dsimp only
  rw [dayLength_isoChars, ← hlength, List.take_left, List.drop_left, readDay?_isoChars]
  dsimp only
  rw [if_neg (by simp), List.drop_one, List.tail_cons, readClock?_chars t.clock h]
  rfl

/-- A day by itself stands for its beginning. -/
theorem readChars?_isoChars (d : Date) : readChars? d.isoChars = some ⟨d, .midnight, none⟩ := by
  have hlength := length_isoChars d
  have hday := dayLength_isoChars d []
  rw [List.append_nil] at hday
  rw [readChars?, if_neg (by omega)]
  dsimp only
  rw [hday, ← hlength, List.take_length, List.drop_length, readDay?_isoChars]
  rfl

end Iso

/-! ## Characters of dates and times -/

section Characters

variable {t : DateTime} {separator c : Char}

namespace Date

theorem hyphen_mem_isoChars (d : Date) : '-' ∈ d.isoChars := by
  simp [isoChars]

theorem isDigit_or_hyphen_of_mem_isoChars {d : Date} {c : Char} (h : c ∈ d.isoChars) :
    c.isDigit ∨ c = '-' := by
  simp only [isoChars, List.mem_append, List.mem_cons] at h
  rcases h with (h | rfl | h) | rfl | h
  · exact Or.inl ((padded_spec _ _).2 c h)
  · exact Or.inr rfl
  · exact Or.inl ((padded_spec _ _).2 c h)
  · exact Or.inr rfl
  · exact Or.inl ((padded_spec _ _).2 c h)

/-- What begins with a date is no numeral: there is a hyphen behind its year. -/
theorem read?_isoChars_append (d : Date) (rest : List Char) :
    Number.Numeral.read? (d.isoChars ++ rest) = none := by
  obtain ⟨hne, hdigits⟩ := padded_spec 4 d.year
  rw [Iso.isoChars_eq, List.append_assoc, List.cons_append]
  exact Number.Numeral.read?_hyphen_behind hne hdigits _

theorem read?_isoChars (d : Date) : Number.Numeral.read? d.isoChars = none := by
  have hread := d.read?_isoChars_append []
  rwa [List.append_nil] at hread

end Date

theorem Offset.mem_chars {o : Offset} (h : c ∈ o.chars) :
    c.isDigit ∨ c ∈ [':', '.', '+', '-'] := by
  rcases List.mem_cons.mp h with rfl | h
  · right
    split <;> decide
  · rcases Iso.mem_clockChars h with hdigit | rfl | rfl
    · exact Or.inl hdigit
    · exact Or.inr (by decide)
    · exact Or.inr (by decide)

theorem DateTime.mem_charsWith (h : c ∈ t.charsWith separator) :
    c.isDigit ∨ c ∈ [':', '.', '+', '-'] ∨ c = separator := by
  rw [Iso.charsWith_eq, List.mem_append, List.mem_cons, List.mem_append] at h
  rcases h with h | rfl | h | h
  · rcases Date.isDigit_or_hyphen_of_mem_isoChars h with hdigit | rfl
    · exact Or.inl hdigit
    · exact Or.inr (Or.inl (by decide))
  · exact Or.inr (Or.inr rfl)
  · rcases Iso.mem_clockChars h with hdigit | rfl | rfl
    · exact Or.inl hdigit
    · exact Or.inr (Or.inl (by decide))
    · exact Or.inr (Or.inl (by decide))
  · cases hoffset : t.offset with
    | none =>
        rw [hoffset] at h
        cases h
    | some o =>
        rw [hoffset] at h
        exact (Offset.mem_chars h).imp_right Or.inl

end Characters

/-! ## Labels -/

namespace Value

variable {cs : List Char} {t : DateTime} {d : Date}

/-- A text without blanks that is no numeral and no mark of universal time is read as it stands. -/
theorem readMoment?_ofList (hchars : ∀ c ∈ cs, isBlank c = false ∧ c ≠ 'Z')
    (hnumeral : Number.Numeral.read? cs = none) :
    readMoment? (String.ofList cs) = (Iso.readChars? cs).map DateTime.toMoment := by
  have hutc : 'Z' ∉ cs := fun hmem => (hchars _ hmem).2 rfl
  rw [readMoment?, String.toList_ofList, trimChars_of_not_isBlank fun c hc => (hchars c hc).1,
    hnumeral, spellOutUtc_of_not_mem hutc]
  rfl

theorem spec_of_isDigit {c : Char} (h : c.isDigit) : isBlank c = false ∧ c ≠ 'Z' :=
  Case.forall_isAscii (p := fun c => c.isDigit → isBlank c = false ∧ c ≠ 'Z') (by decide +kernel)
    (Iso.isAscii_of_isDigit h) h

/-- The label of a date and time stands for its moment. -/
theorem readMoment?_isoText (h : ∀ o ∈ t.offset, Iso.IsWholeEnough o) :
    readMoment? t.isoText = some t.toMoment := by
  have hchars : ∀ c ∈ t.charsWith 'T', isBlank c = false ∧ c ≠ 'Z' := by
    intro c hc
    rcases DateTime.mem_charsWith hc with hdigit | hmark | rfl
    · exact spec_of_isDigit hdigit
    · simp only [List.mem_cons, List.not_mem_nil, or_false] at hmark
      rcases hmark with rfl | rfl | rfl | rfl <;> decide
    · decide
  have hnumeral : Number.Numeral.read? (t.charsWith 'T') = none := by
    rw [Iso.charsWith_eq]
    exact t.date.read?_isoChars_append _
  rw [DateTime.isoText, readMoment?_ofList hchars hnumeral, Iso.readChars?_charsWith _ h]
  rfl

/-- The label of a day stands for its beginning in universal time. -/
theorem readMoment?_date (d : Date) : readMoment? d.isoText = some ⟨d, .midnight, .utc⟩ := by
  have hchars : ∀ c ∈ d.isoChars, isBlank c = false ∧ c ≠ 'Z' := by
    intro c hc
    rcases Date.isDigit_or_hyphen_of_mem_isoChars hc with hdigit | rfl
    · exact spec_of_isDigit hdigit
    · decide
  rw [Date.isoText, readMoment?_ofList hchars d.read?_isoChars, Iso.readChars?_isoChars]
  rfl

/-- Labels of moments are read back.  A date and time with an offset of whole minutes has a label
that stands for the same day and time with the same offset, and the label of a day stands for
midnight in universal time. -/
theorem moment_is_read_back (t : DateTime) (o : Offset) (ho : t.offset = some o)
    (hminutes : 60000000 ∣ o.micros) (d : Date) :
    toMoment? (.string (label (.dateTime t))) = some ⟨t.date, t.clock, o⟩ ∧
    toMoment? (.string (label (.date d))) = some ⟨d, .midnight, .utc⟩ := by
  have hwhole : ∀ o' ∈ t.offset, Iso.IsWholeEnough o' := by
    intro o' ho'
    obtain rfl : o = o' := Option.some.inj (ho.symm.trans ho')
    intro hsmall
    omega
  constructor
  · rw [toMoment?, label, readMoment?_isoText hwhole, DateTime.toMoment, ho]
    rfl
  · rw [toMoment?, label, readMoment?_date]

/-- The last microsecond of year 33, half an hour west of universal time. -/
theorem moment_is_read_back_west :
    let d : Date := ⟨33, 12, 31, by decide, by decide, by decide, by decide⟩
    let t : DateTime :=
      ⟨d, ⟨86399999999, by decide⟩, some ⟨-1800000000, by decide, by decide⟩⟩
    label (.dateTime t) = "0033-12-31T23:59:59.999999-00:30" ∧
    toMoment? (.string (label (.dateTime t))) =
      some ⟨d, ⟨86399999999, by decide⟩, ⟨-1800000000, by decide, by decide⟩⟩ := by
  intro d t
  exact ⟨by decide +kernel, (moment_is_read_back t _ rfl ⟨-30, rfl⟩ d).1⟩

end Value

end IssueQuery
