import IssueQuery.Calendar.Iso
import IssueQuery.Proofs.Calendar.Ordinal
import IssueQuery.Proofs.Text.Layout

/-!
# Written days

Runs of digits of one length are in the order of their numbers, so two days that are written in the
same form are in the order of the first digits in which they differ.
-/

namespace IssueQuery.Iso

open Text (Leads layout)

variable {n v w : Nat} {cs ds cs' ds' : List Char}

/-! ## Runs of digits -/

/-- The number that a run of digits stands for. -/
def digitsValue (cs : List Char) : Nat :=
  cs.foldl (fun v c => 10 * v + (c.toNat - '0'.toNat)) 0

theorem digits?_eq_some_iff : digits? n cs = some (v, cs') ↔
    ∃ as, cs = as ++ cs' ∧ as.length = n ∧ (∀ c ∈ as, c.isDigit) ∧ digitsValue as = v := by
  unfold digits?
  dsimp only
  constructor
  · intro h
    split at h
    · rename_i hall
      cases h
      exact ⟨cs.take n, (List.take_append_drop n cs).symm, hall.1, List.all_eq_true.mp hall.2, rfl⟩
    · cases h
  · rintro ⟨as, rfl, rfl, hdigits, rfl⟩
    rw [List.take_left, List.drop_left, if_pos ⟨rfl, List.all_eq_true.mpr hdigits⟩]
    rfl

theorem getElem?_of_digits? (h : digits? n cs = some (v, cs')) : cs[n]? = cs'.head? := by
  obtain ⟨as, rfl, rfl, -, -⟩ := digits?_eq_some_iff.mp h
  rw [List.getElem?_append_right le_rfl, Nat.sub_self, List.head?_eq_getElem?]

theorem digit_lt_digit {c d : Char} (hc : c.isDigit) (h : c.toNat < d.toNat) :
    c.toNat - '0'.toNat + 1 ≤ d.toNat - '0'.toNat := by
  have hzero : '0'.toNat = 48 := rfl
  have hdigit := Text.toNat_of_isDigit hc
  omega

theorem foldl_digits (cs : List Char) (m : Nat) :
    cs.foldl (fun v c => 10 * v + (c.toNat - '0'.toNat)) m =
      m * 10 ^ cs.length + digitsValue cs := by
  induction cs generalizing m with
  | nil => simp [digitsValue]
  | cons c cs ih =>
      rw [digitsValue, List.foldl_cons, List.foldl_cons, ih, ih, List.length_cons]
      ring

theorem digitsValue_cons (c : Char) (cs : List Char) :
    digitsValue (c :: cs) = (c.toNat - '0'.toNat) * 10 ^ cs.length + digitsValue cs := by
  rw [digitsValue, List.foldl_cons, foldl_digits, Nat.mul_zero, Nat.zero_add]

theorem digitsValue_lt (h : ∀ c ∈ cs, c.isDigit) : digitsValue cs < 10 ^ cs.length := by
  induction cs with
  | nil => exact Nat.one_pos
  | cons c cs ih =>
      have hc := Text.toNat_of_isDigit (h c (by simp))
      have hrest := ih fun d hd => h d (List.mem_cons_of_mem c hd)
      have hdigit : c.toNat - '0'.toNat ≤ 9 := by
        have hzero : '0'.toNat = 48 := rfl
        omega
      rw [digitsValue_cons, List.length_cons, pow_succ]
      nlinarith

/-- Of two runs of digits of one length, the one that leads has the lesser number. -/
theorem digitsValue_lt_of_leads (h : Leads cs ds) (hcs : ∀ c ∈ cs, c.isDigit)
    (hlength : cs.length = ds.length) (hne : cs ≠ ds) : digitsValue cs < digitsValue ds := by
  induction h with
  | ends ds => exact absurd (List.eq_nil_of_length_eq_zero hlength.symm).symm hne
  | @same c cs ds _ ih =>
      have hrest := ih (fun d hd => hcs d (List.mem_cons_of_mem c hd))
        (Nat.add_right_cancel hlength) fun heq => hne (congrArg _ heq)
      rw [digitsValue_cons, digitsValue_cons, Nat.add_right_cancel hlength]
      omega
  | @digit c d cs ds hc hd hlt =>
      have hdigit := digit_lt_digit hc hlt
      have hrest := digitsValue_lt fun e he => hcs e (List.mem_cons_of_mem c he)
      rw [digitsValue_cons, digitsValue_cons, ← Nat.add_right_cancel hlength]
      nlinarith

/-- Runs of digits at the beginning of two texts are in order, and behind equal ones the rest is. -/
theorem digits?_of_leads (h : Leads cs ds) (hcs : digits? n cs = some (v, cs'))
    (hds : digits? n ds = some (w, ds')) :
    v < w ∨ (v = w ∧ Leads cs' ds' ∧ (cs' = ds' → cs = ds)) := by
  obtain ⟨as, rfl, hlength, hdigits, rfl⟩ := digits?_eq_some_iff.mp hcs
  obtain ⟨bs, rfl, rfl, -, rfl⟩ := digits?_eq_some_iff.mp hds
  obtain ⟨hleads, hrest⟩ := h.append_cases hlength
  by_cases heq : as = bs
  · exact Or.inr ⟨congrArg _ heq, hrest heq, fun heq' => by rw [heq, heq']⟩
  · exact Or.inl (digitsValue_lt_of_leads hleads hdigits hlength heq)

/-! ## Forms -/

/-- A part of a written form: a fixed character or a run of digits. -/
inductive Slot where
  | mark (c : Char)
  | digits (n : Nat)

/-- A text is written in a form with some numbers, and something follows it. -/
inductive Fills : List Slot → List Char → List Nat → List Char → Prop where
  | done (cs : List Char) : Fills [] cs [] cs
  | mark (c : Char) {form : List Slot} {cs rest : List Char} {numbers : List Nat} :
      Fills form cs numbers rest → Fills (.mark c :: form) (c :: cs) numbers rest
  | digits {n v : Nat} {form : List Slot} {cs cs' rest : List Char} {numbers : List Nat} :
      digits? n cs = some (v, cs') → Fills form cs' numbers rest →
      Fills (.digits n :: form) cs (v :: numbers) rest

variable {form : List Slot} {numbers numbers' : List Nat} {rest rest' : List Char} {d e : Date}

/-- The layout of all texts that are written in a form. -/
def formLayout (form : List Slot) : List Char :=
  form.flatMap fun
    | .mark c => [Text.blankDigit c]
    | .digits n => List.replicate n '0'

namespace Fills

theorem layout_eq (h : Fills form cs numbers rest) :
    layout cs = formLayout form ++ layout rest := by
  induction h with
  | done cs => rfl
  | mark c _ ih =>
      rw [Text.layout_cons, ih]
      rfl
  | digits hdigits _ ih =>
      obtain ⟨as, rfl, rfl, has, -⟩ := digits?_eq_some_iff.mp hdigits
      have hzeros : layout as = List.replicate as.length '0' := by
        rw [List.eq_replicate_iff]
        refine ⟨List.length_map _, fun c hc => ?_⟩
        obtain ⟨a, ha, rfl⟩ := List.mem_map.mp hc
        exact Text.blankDigit_of_isDigit (has a ha)
      rw [layout, List.map_append]
      exact (congrArg₂ _ hzeros ih).trans (List.append_assoc _ _ _).symm

/-- Texts written in one form are in the order of their numbers, the first ones being the
weightiest. -/
theorem lt_or_eq_of_leads (hcs : Fills form cs numbers rest) (hds : Fills form ds numbers' rest')
    (h : Leads cs ds) : numbers < numbers' ∨
      (numbers = numbers' ∧ Leads rest rest' ∧ (rest = rest' → cs = ds)) := by
  induction hcs generalizing ds numbers' with
  | done cs =>
      cases hds with
      | done ds => exact Or.inr ⟨rfl, h, id⟩
  | mark c _ ih =>
      cases hds with
      | mark _ hds =>
          refine (ih hds h.of_cons).imp_right fun ⟨heq, hleads, hsame⟩ => ?_
          exact ⟨heq, hleads, fun hrest => congrArg _ (hsame hrest)⟩
  | digits hdigits _ ih =>
      cases hds with
      | digits hdigits' hds =>
          rcases digits?_of_leads h hdigits hdigits' with hlt | ⟨rfl, hleads, hsame⟩
          · exact Or.inl (List.cons_lt_cons_iff.mpr (Or.inl hlt))
          · rcases ih hds hleads with hlt | ⟨rfl, hleads, hsame'⟩
            · exact Or.inl (List.cons_lt_cons_iff.mpr (Or.inr ⟨rfl, hlt⟩))
            · exact Or.inr ⟨rfl, hleads, fun hrest => hsame (hsame' hrest)⟩

end Fills

/-! ## Days -/

/-- The forms in which a day is written, with hyphens between its numbers or without. -/
inductive DayForm where
  /-- Year, month and day. -/
  | civil (hyphens : Bool)
  /-- Year and week. -/
  | week (hyphens : Bool)
  /-- Year, week and weekday. -/
  | weekday (hyphens : Bool)
  deriving DecidableEq

namespace DayForm

/-- What parts the numbers of a day. -/
def hyphen (hyphens : Bool) : List Slot :=
  if hyphens then [.mark '-'] else []

/-- The parts of a form. -/
def slots : DayForm → List Slot
  | civil hyphens =>
    .digits 4 :: (hyphen hyphens ++ .digits 2 :: (hyphen hyphens ++ [.digits 2]))
  | week hyphens => .digits 4 :: (hyphen hyphens ++ [.mark 'W', .digits 2])
  | weekday hyphens =>
    .digits 4 :: (hyphen hyphens ++ .mark 'W' :: .digits 2 :: (hyphen hyphens ++ [.digits 1]))

/-- The form of a day is seen from its layout. -/
theorem eq_of_formLayout_eq {k k' : DayForm} (h : formLayout k.slots = formLayout k'.slots) :
    k = k' := by
  revert h
  rcases k with hyphens | hyphens | hyphens <;> rcases k' with hyphens' | hyphens' | hyphens' <;>
    revert hyphens hyphens' <;> decide

/-- The day that the numbers in a form stand for. -/
inductive Names : DayForm → List Nat → Date → Prop where
  | civil {hyphens : Bool} {year month day : Nat} {d : Date} :
      Date.ofCivil? year month day = some d → Names (.civil hyphens) [year, month, day] d
  | week {hyphens : Bool} {year week : Nat} {d : Date} :
      Date.ofWeek? year week 1 = some d → Names (.week hyphens) [year, week] d
  | weekday {hyphens : Bool} {year week weekday : Nat} {d : Date} :
      Date.ofWeek? year week weekday = some d →
      Names (.weekday hyphens) [year, week, weekday] d

variable {k : DayForm}

/-- Days of one form are in the order of their numbers. -/
theorem Names.ordinal_lt (hd : Names k numbers d) (he : Names k numbers' e)
    (h : numbers < numbers') : d.ordinal < e.ordinal := by
  cases hd with
  | civil hd =>
      cases he with
      | civil he =>
          obtain ⟨rfl, rfl, rfl⟩ := Date.fields_of_ofCivil? hd
          obtain ⟨rfl, rfl, rfl⟩ := Date.fields_of_ofCivil? he
          exact Date.ordinal_lt_of_lt h
  | week hd =>
      cases he with
      | week he =>
          refine (Date.isOfWeek_of_ofWeek? hd).ordinal_lt_of_lt (Date.isOfWeek_of_ofWeek? he) ?_
          simpa [List.cons_lt_cons_iff] using h
  | weekday hd =>
      cases he with
      | weekday he =>
          exact (Date.isOfWeek_of_ofWeek? hd).ordinal_lt_of_lt (Date.isOfWeek_of_ofWeek? he) h

end DayForm

/-! ## Reading days -/

theorem skip?_eq_some_iff {c : Char} : skip? c cs = some cs' ↔ cs = c :: cs' := by
  cases cs with
  | nil => simp [skip?]
  | cons d cs =>
      rw [skip?]
      split
      · rename_i h
        simp [h]
      · rename_i h
        simp [h]

theorem fills_hyphen {hyphens : Bool}
    (h : (if hyphens then skip? '-' cs else some cs) = some cs')
    (hfills : Fills form cs' numbers rest) :
    Fills (DayForm.hyphen hyphens ++ form) cs numbers rest := by
  cases hyphens with
  | true =>
      rw [skip?_eq_some_iff.mp h]
      exact .mark '-' hfills
  | false =>
      cases h
      exact hfills

/-- A hyphen behind the year is taken off. -/
theorem skip_of_head? {hyphens : Bool} (h : (cs.head? == some '-') = hyphens) :
    (if hyphens then skip? '-' cs else some cs) =
      some (if hyphens then cs.drop 1 else cs) := by
  cases hyphens with
  | true =>
      cases cs with
      | nil => cases h
      | cons c cs => simpa [skip?] using h
  | false => rfl

/-- A day named by its weekday takes up ten characters, or eight without hyphens. -/
theorem eq_nil_of_fills_weekday {hyphens : Bool}
    (h : Fills (DayForm.weekday hyphens).slots cs numbers rest)
    (hlength : cs.length ≤ if hyphens then 10 else 8) : rest = [] := by
  have hsum := congrArg List.length h.layout_eq
  have hform : (formLayout (DayForm.weekday hyphens).slots).length = if hyphens then 10 else 8 := by
    cases hyphens <;> decide
  rw [layout, List.length_append, layout, List.length_map, List.length_map, hform] at hsum
  rw [← List.length_eq_zero_iff]
  omega

theorem exists_skip_of_bind {hyphens : Bool} {f : List Char → Option Date} {d : Date}
    (h : (if hyphens then skip? '-' cs >>= f else some cs >>= f) = some d) :
    ∃ cs', (if hyphens then skip? '-' cs else some cs) = some cs' ∧ f cs' = some d := by
  cases hyphens with
  | true => exact Option.bind_eq_some_iff.mp h
  | false => exact ⟨cs, rfl, h⟩

/-- A day is read from one of its forms. -/
theorem exists_fills_of_readDay? (h : readDay? cs = some d)
    (hlength : cs.length ≤ if cs[4]? = some '-' then 10 else 8) :
    ∃ (k : DayForm) (numbers : List Nat), Fills k.slots cs numbers [] ∧ k.Names numbers d := by
  unfold readDay? at h
  obtain ⟨⟨year, afterYear⟩, hyear, h⟩ := Option.bind_eq_some_iff.mp h
  dsimp only at h
  obtain ⟨hyphens, hhyphens⟩ : ∃ hyphens, (afterYear.head? == some '-') = hyphens := ⟨_, rfl⟩
  have hskip := skip_of_head? hhyphens
  rw [hhyphens] at h
  split at h
  · rename_i afterMark hmark
    rw [hmark] at hskip
    obtain ⟨⟨week, afterWeek⟩, hweek, h⟩ := Option.bind_eq_some_iff.mp h
    dsimp only at h
    split at h
    · rename_i hempty
      rw [List.isEmpty_iff] at hempty
      subst hempty
      refine ⟨.week hyphens, [year, week], ?_, .week h⟩
      exact .digits hyear (fills_hyphen hskip (.mark 'W' (.digits hweek (.done []))))
    · obtain ⟨beforeDay, hskip', h⟩ := exists_skip_of_bind h
      obtain ⟨⟨weekday, afterDay⟩, hday, h⟩ := Option.bind_eq_some_iff.mp h
      have hfills : Fills (DayForm.weekday hyphens).slots cs [year, week, weekday] afterDay :=
        .digits hyear (fills_hyphen hskip (.mark 'W' (.digits hweek
          (fills_hyphen hskip' (.digits hday (.done afterDay))))))
      obtain rfl : afterDay = [] := by
        rw [getElem?_of_digits? hyear] at hlength
        refine eq_nil_of_fills_weekday hfills ?_
        cases hyphens with
        | true => exact hlength.trans (by split <;> decide)
        | false => rwa [if_neg (by simpa using hhyphens)] at hlength
      exact ⟨.weekday hyphens, _, hfills, .weekday h⟩
  · obtain ⟨⟨month, afterMonth⟩, hmonth, h⟩ := Option.bind_eq_some_iff.mp h
    dsimp only at h
    obtain ⟨beforeDay, hskip', h⟩ := exists_skip_of_bind h
    obtain ⟨⟨day, afterDay⟩, hday, h⟩ := Option.bind_eq_some_iff.mp h
    dsimp only at h
    split at h
    · rename_i hempty
      rw [List.isEmpty_iff] at hempty
      subst hempty
      refine ⟨.civil hyphens, [year, month, day], ?_, .civil h⟩
      exact .digits hyear (fills_hyphen hskip
        (.digits hmonth (fills_hyphen hskip' (.digits hday (.done [])))))
    · cases h

/-- Days of one layout are in the order of the first digits in which they differ. -/
theorem ordinal_lt_or_eq_of_leads (h : Leads cs ds) (hlayout : layout cs = layout ds)
    (hcs : readDay? cs = some d) (hds : readDay? ds = some e)
    (hlength : cs.length ≤ if cs[4]? = some '-' then 10 else 8)
    (hlength' : ds.length ≤ if ds[4]? = some '-' then 10 else 8) :
    d.ordinal < e.ordinal ∨ cs = ds := by
  obtain ⟨k, numbers, hfills, hnames⟩ := exists_fills_of_readDay? hcs hlength
  obtain ⟨k', numbers', hfills', hnames'⟩ := exists_fills_of_readDay? hds hlength'
  obtain rfl : k = k' := by
    refine DayForm.eq_of_formLayout_eq ?_
    have hforms := hfills.layout_eq.symm.trans (hlayout.trans hfills'.layout_eq)
    rwa [List.append_cancel_right_eq] at hforms
  rcases hfills.lt_or_eq_of_leads hfills' h with hlt | ⟨-, -, hsame⟩
  · exact Or.inl (hnames.ordinal_lt hnames' hlt)
  · exact Or.inr (hsame rfl)

/-! ## The day at the beginning of a text -/

/-- The characters of the day with which a text begins. -/
def dayChars (cs : List Char) : List Char :=
  cs.take (dayLength cs)

theorem dayLength_mem (cs : List Char) :
    7 ≤ dayLength cs ∧ dayLength cs ≤ if cs[4]? = some '-' then 10 else 8 := by
  unfold dayLength
  dsimp only
  split_ifs <;> omega

theorem length_dayChars_le (cs : List Char) :
    (dayChars cs).length ≤ if (dayChars cs)[4]? = some '-' then 10 else 8 := by
  obtain ⟨hmin, hmax⟩ := dayLength_mem cs
  rw [dayChars, List.getElem?_take_of_lt (by omega), List.length_take]
  exact (Nat.min_le_left _ _).trans hmax

end IssueQuery.Iso
