import IssueQuery.Proofs.Calendar.Spelling
import IssueQuery.Proofs.Text.Capital

/-!
# Lower case keeps blanks and digits

No blank and no decimal digit has a lower case of its own, none is the lower case of another
character, and blanks end the words in which a capital sigma looks for its neighbours.  So it does
not matter whether a text is trimmed before or after it is brought to lower case.
-/

namespace IssueQuery.Text

namespace Packed

variable {keys : Array Nat} {rows : List String} {n lo hi i : Nat}

theorem getD_le_of_searchLast (h : searchLast keys n lo hi = some i) : keys.getD i 0 ≤ n := by
  induction lo, hi using searchLast.induct keys n with
  | case1 lo hi hlt mid hkey ih =>
      rw [searchLast, dif_pos hlt] at h
      dsimp only at h
      rw [if_pos hkey] at h
      rcases Option.or_eq_some_iff.mp h with hfound | ⟨-, hmid⟩
      · exact ih hfound
      · rwa [← Option.some.inj hmid]
  | case2 lo hi hlt mid hkey ih =>
      rw [searchLast, dif_pos hlt] at h
      dsimp only at h
      rw [if_neg hkey] at h
      exact ih h
  | case3 lo hi hlt =>
      rw [searchLast, dif_neg hlt] at h
      cases h

/-- What is found below a number is an entry that begins at this number or before. -/
theorem exists_entry_of_below {first : Nat} {rest : List Nat}
    (h : (Index.ofRows rows).below n = some (first, rest)) :
    ∃ entry ∈ entries rows, entry.headD 0 = first ∧ entry.tailD [] = rest ∧ first ≤ n := by
  obtain ⟨i, hi, hfound⟩ := Option.map_eq_some_iff.mp h
  have hlength : i < (entries rows).length := by
    have hkeys := lt_of_searchLast hi
    simpa [Index.ofRows] using hkeys
  have hle := getD_le_of_searchLast hi
  obtain ⟨hfirst, hrest⟩ := Prod.mk.inj hfound
  rw [hfirst] at hle
  refine ⟨_, List.getElem_mem hlength, ?_, ?_, hle⟩
  · rw [← hfirst]
    simp [Index.ofRows, hlength]
  · rw [← hrest]
    simp [Index.ofRows, hlength]

/-- A range of numbers is apart from that of an entry, which ends with the second number of the
entry or, if it has no other, with the first one. -/
def isApart (r : Nat × Nat) (entry : List Nat) : Bool :=
  Nat.blt r.2 (entry.headD 0) || Nat.blt ((entry.tailD []).headD (entry.headD 0)) r.1

/-- A number lies in a range. -/
def InRange (n : Nat) (r : Nat × Nat) : Prop :=
  r.1 ≤ n ∧ n ≤ r.2

variable {r : Nat × Nat}

theorem lt_of_isApart {first last : Nat} {rest entry : List Nat} (h : isApart r entry)
    (hn : InRange n r) (hfirst : entry.headD 0 = first) (hrest : entry.tailD [] = last :: rest)
    (hle : first ≤ n) : last < n := by
  rw [isApart, hfirst, hrest, List.headD_cons, Bool.or_eq_true, Nat.blt_eq, Nat.blt_eq] at h
  obtain ⟨hlo, hhi⟩ := hn
  omega

theorem covers_of_isApart (h : ∀ entry ∈ entries rows, isApart r entry) (hn : InRange n r) :
    (Index.ofRows rows).covers n = false := by
  unfold Index.covers
  split
  · rename_i first last rest hbelow
    obtain ⟨entry, hentry, hfirst, hrest, hle⟩ := exists_entry_of_below hbelow
    simpa using lt_of_isApart (h entry hentry) hn hfirst hrest hle
  · rfl

theorem imageOf?_of_isApart (h : ∀ entry ∈ entries rows, isApart r entry) (hn : InRange n r) :
    (Index.ofRows rows).imageOf? n = none := by
  unfold Index.imageOf?
  split
  · rename_i first last step image hbelow
    obtain ⟨entry, hentry, hfirst, hrest, hle⟩ := exists_entry_of_below hbelow
    have hlast := lt_of_isApart (h entry hentry) hn hfirst hrest hle
    rw [if_neg fun hrange => absurd hrange.1 (Nat.not_le.mpr hlast)]
  · rfl

theorem find?_of_isApart (h : ∀ entry ∈ entries rows, isApart r [entry.headD 0])
    (hn : InRange n r) : (Index.ofRows rows).find? n = none := by
  unfold Index.find?
  split
  · rename_i first rest hbelow
    obtain ⟨entry, hentry, hfirst, -, -⟩ := exists_entry_of_below hbelow
    have hapart := h entry hentry
    rw [isApart, hfirst] at hapart
    obtain ⟨hlo, hhi⟩ := hn
    rw [if_neg]
    rintro rfl
    simp at hapart
    omega
  · rfl

/-- The images of a run of characters. -/
def images : List Nat → Nat × Nat
  | [first, last, _, image] => (image, image + (last - first))
  | _ => (0, 0)

theorem exists_entry_of_imageOf? {m : Nat} (h : (Index.ofRows rows).imageOf? n = some m) :
    ∃ entry ∈ entries rows, InRange m (images entry) := by
  unfold Index.imageOf? at h
  split at h
  · rename_i first last step image hbelow
    obtain ⟨entry, hentry, hfirst, hrest, hle⟩ := exists_entry_of_below hbelow
    split at h
    · rename_i hrange
      cases h
      refine ⟨entry, hentry, ?_⟩
      cases entry with
      | nil => cases hrest
      | cons a entry =>
          obtain rfl : a = first := hfirst
          obtain rfl : entry = [last, step, image] := hrest
          exact ⟨Nat.le_add_right _ _, Nat.add_le_add_left (Nat.sub_le_sub_right hrange.1 _) _⟩
    · cases h
  · cases h

/-- No character of some ranges is the image of a run if the images of all runs are apart from these
ranges. -/
theorem not_ofNat_of_imageOf? {p : Char → Prop} {ranges : List (Nat × Nat)} {m : Nat}
    (hzero : ¬p '\x00') (hranges : ∀ c, p c → ∃ r ∈ ranges, InRange c.toNat r)
    (hapart : ∀ entry ∈ entries rows,
      ranges.all (isApart · [(images entry).1, (images entry).2]))
    (h : (Index.ofRows rows).imageOf? n = some m) : ¬p (Char.ofNat m) := by
  intro hp
  obtain ⟨entry, hentry, hm⟩ := exists_entry_of_imageOf? h
  have hvalid : m.isValidChar := by
    by_contra hinvalid
    rw [← Char.ofNat_toNat (Char.ofNat m), Char.toNat_ofNat, if_neg hinvalid] at hp
    exact hzero hp
  obtain ⟨r, hr, hrange⟩ := hranges _ hp
  rw [Char.toNat_ofNat, if_pos hvalid] at hrange
  have himages := List.all_eq_true.mp (hapart entry hentry) r hr
  have hlast := lt_of_isApart himages hrange rfl rfl hm.1
  exact absurd hm.2 (Nat.not_le.mpr hlast)

end Packed

/-- Ranges that hold all blanks. -/
def blankRanges : List (Nat × Nat) := [
  (0, 0x40), (0x80, 0xA7), (0x1680, 0x1680), (0x2000, 0x200A), (0x2028, 0x2029),
  (0x202F, 0x202F), (0x205F, 0x205F), (0x3000, 0x3000)]

/-- Ranges without letter case that hold all blanks and decimal digits beyond ASCII. -/
def caselessRanges : List (Nat × Nat) := [
  (0x80, 0xBF), (0x557, 0x109F), (0x13F6, 0x1C8F), (0x1FFD, 0x2125), (0x2CF3, 0xA63F),
  (0xA7F6, 0xFF20), (0x10428, 0x104AF), (0x10CB3, 0x1189F), (0x118C0, 0x16E3F),
  (0x16E60, 0x1E8FF), (0x1E922, 0x10FFFF)]

namespace Case

open Packed

variable {c d : Char} {cs rest : List Char} {casedBefore : Bool}

theorem exists_blankRange (h : isBlank c) : ∃ r ∈ blankRanges, InRange c.toNat r := by
  simp only [isBlank, Bool.or_eq_true, Bool.and_eq_true, decide_eq_true_eq, beq_iff_eq] at h
  simp only [blankRanges, InRange, List.mem_cons, List.not_mem_nil, or_false, exists_eq_or_imp,
    exists_eq_left]
  omega

theorem exists_caselessRange_of_isBlank (h : isBlank c) (hascii : ¬isAscii c) :
    ∃ r ∈ caselessRanges, InRange c.toNat r := by
  simp only [isAscii, decide_eq_true_eq] at hascii
  simp only [isBlank, Bool.or_eq_true, Bool.and_eq_true, decide_eq_true_eq, beq_iff_eq] at h
  simp only [caselessRanges, InRange, List.mem_cons, List.not_mem_nil, or_false, exists_eq_or_imp,
    exists_eq_left]
  omega

/-- The ten digits of a script lie in one range. -/
theorem exists_caselessRange_of_isDecimal (h : isDecimal c) :
    c.isDigit ∨ ∃ r ∈ caselessRanges, InRange c.toNat r := by
  have hzeros : zeros.all fun z => z == 0x30 ||
      caselessRanges.any fun r => Nat.ble r.1 z && Nat.ble (z + 9) r.2 := by
    decide +kernel
  obtain ⟨z, hz, hdigits⟩ := exists_zero_of_isDecimal h
  have hzero := List.all_eq_true.mp hzeros z hz
  rw [Bool.or_eq_true, beq_iff_eq, List.any_eq_true] at hzero
  rcases hzero with rfl | ⟨r, hr, hrange⟩
  · left
    rw [Char.isDigit, Bool.and_eq_true, decide_eq_true_eq, decide_eq_true_eq, ge_iff_le,
      UInt32.le_iff_toNat_le, UInt32.le_iff_toNat_le]
    exact ⟨hdigits.1, Nat.le_of_lt_succ hdigits.2⟩
  · rw [Bool.and_eq_true, Nat.ble_eq, Nat.ble_eq] at hrange
    exact Or.inr ⟨r, hr, by omega, by omega⟩

/-- The case tables leave the ranges without letter case alone, lead to no blank, and know no blank
that is cased or looked through. -/
theorem tables_apart :
    (∀ entry ∈ entries Table.lowerRuns, caselessRanges.all (isApart · entry) ∧
      blankRanges.all (isApart · [(images entry).1, (images entry).2])) ∧
    (∀ entry ∈ entries Table.lowerExpansions, caselessRanges.all (isApart · [entry.headD 0]) ∧
      entry.tailD [] ≠ [] ∧ (entry.tailD []).all fun n => !isBlank (Char.ofNat n)) ∧
    (∀ entry ∈ entries Table.cased, blankRanges.all (isApart · entry)) ∧
    ∀ entry ∈ entries Table.ignorable, blankRanges.all (isApart · entry) := by
  rw [Table.lowerRuns, Table.lowerExpansions, Table.cased, Table.ignorable]
  repeat rw [entries_cons]
  decide +kernel

/-- ASCII characters keep the promises of the tables. -/
theorem ascii_spec (h : isAscii c) : (isBlank c → c.toLower = c ∧ role c = .other) ∧
    (isBlank c = false → isBlank c.toLower = false) :=
  forall_isAscii
    (p := fun c => (isBlank c → c.toLower = c ∧ role c = .other) ∧
      (isBlank c = false → isBlank c.toLower = false))
    (by decide +kernel) h

/-- A character in a range without letter case is left alone. -/
theorem lowerChar_of_inRange {r : Nat × Nat} (hr : r ∈ caselessRanges) (hc : InRange c.toNat r) :
    lowerChar c = [c] := by
  have hascii : ¬isAscii c := by
    have hwide : ∀ r ∈ caselessRanges, 128 ≤ r.1 := by decide
    have hfirst := (hwide r hr).trans hc.1
    simpa [isAscii] using hfirst
  obtain ⟨hlower, hexpand, -, -⟩ := tables_apart
  have hruns : ∀ entry ∈ entries Table.lowerRuns, isApart r entry := fun entry hentry =>
    List.all_eq_true.mp (hlower entry hentry).1 r hr
  have hexpansions : ∀ entry ∈ entries Table.lowerExpansions, isApart r [entry.headD 0] :=
    fun entry hentry => List.all_eq_true.mp (hexpand entry hentry).1 r hr
  rw [lowerChar, if_neg hascii, image, lowerRuns, lowerExpansions,
    imageOf?_of_isApart hruns hc, find?_of_isApart hexpansions hc]

theorem lowerIn_of_isDecimal (h : isDecimal c) (casedBefore : Bool) (rest : List Char) :
    lowerIn casedBefore c rest = [c] := by
  have hsigma : c ≠ 'Σ' := by
    rintro rfl
    exact absurd h (by decide)
  rcases exists_caselessRange_of_isDecimal h with hdigit | ⟨r, hr, hc⟩
  · have hplain := Iso.IsPlain.of_isDigit hdigit
    rw [lowerIn_of_isAscii hplain.isAscii, hplain.toLower]
  · rw [lowerIn, if_neg hsigma, lowerChar_of_inRange hr hc]

/-! ## Blanks -/

theorem lowerIn_of_isBlank (h : isBlank c) (casedBefore : Bool) (rest : List Char) :
    lowerIn casedBefore c rest = [c] := by
  have hsigma : c ≠ 'Σ' := by
    rintro rfl
    exact absurd h (by decide)
  rw [lowerIn, if_neg hsigma]
  by_cases hascii : isAscii c
  · rw [lowerChar, if_pos hascii, ((ascii_spec hascii).1 h).1]
  · obtain ⟨r, hr, hc⟩ := exists_caselessRange_of_isBlank h hascii
    exact lowerChar_of_inRange hr hc

/-- A blank ends a word. -/
theorem role_of_isBlank (h : isBlank c) : role c = .other := by
  by_cases hascii : isAscii c
  · exact ((ascii_spec hascii).1 h).2
  · obtain ⟨r, hr, hc⟩ := exists_blankRange h
    obtain ⟨-, -, hknown, hseen⟩ := tables_apart
    have hcased : ∀ entry ∈ entries Table.cased, isApart r entry := fun entry hentry =>
      List.all_eq_true.mp (hknown entry hentry) r hr
    have hignorable : ∀ entry ∈ entries Table.ignorable, isApart r entry := fun entry hentry =>
      List.all_eq_true.mp (hseen entry hentry) r hr
    rw [role, if_neg hascii, casedRanges, ignorableRanges, covers_of_isApart hcased hc,
      covers_of_isApart hignorable hc]
    rfl

/-- No blank is the image of a run. -/
theorem isBlank_ofNat_of_imageOf? {n m : Nat} (h : lowerRuns.imageOf? n = some m) :
    isBlank (Char.ofNat m) = false :=
  Bool.eq_false_iff.mpr <| not_ofNat_of_imageOf? (p := fun c => isBlank c = true) (by decide)
    (fun _ => exists_blankRange) (fun entry hentry => (tables_apart.1 entry hentry).2) h

/-- The lower case of what is no blank is no blank, nor is it empty. -/
theorem not_isBlank_lowerIn (h : isBlank c = false) (casedBefore : Bool) (rest : List Char) :
    lowerIn casedBefore c rest ≠ [] ∧ ∀ d ∈ lowerIn casedBefore c rest, isBlank d = false := by
  have hone : ∀ d, isBlank d = false → [d] ≠ [] ∧ ∀ e ∈ [d], isBlank e = false := by
    intro d hd
    refine ⟨List.cons_ne_nil _ _, fun e he => ?_⟩
    rwa [List.mem_singleton.mp he]
  rw [lowerIn]
  split
  · split
    · exact hone _ (by decide)
    · exact hone _ (by decide)
  · rw [lowerChar]
    split
    · rename_i hascii
      exact hone _ ((ascii_spec hascii).2 h)
    · rw [image]
      split
      · rename_i m hm
        exact hone _ (isBlank_ofNat_of_imageOf? hm)
      · split
        · rename_i ns hns
          obtain ⟨entry, hentry, rfl⟩ := exists_entry_of_find? hns
          obtain ⟨-, hne, hblank⟩ := tables_apart.2.1 entry hentry
          refine ⟨?_, fun d hd => ?_⟩
          · rwa [Ne, List.map_eq_nil_iff]
          · obtain ⟨n, hn, rfl⟩ := List.mem_map.mp hd
            simpa using List.all_eq_true.mp hblank n hn
        · exact hone _ h

theorem lowerIn_ne_nil (casedBefore : Bool) (c : Char) (rest : List Char) :
    lowerIn casedBefore c rest ≠ [] := by
  by_cases hblank : isBlank c
  · rw [lowerIn_of_isBlank hblank]
    exact List.cons_ne_nil _ _
  · exact (not_isBlank_lowerIn (Bool.not_eq_true _ ▸ hblank) casedBefore rest).1

theorem lowerFrom_eq_nil_iff : lowerFrom casedBefore cs = [] ↔ cs = [] := by
  cases cs with
  | nil => simp [lowerFrom]
  | cons c cs => simp [lowerFrom, lowerIn_ne_nil]

theorem dropWhile_isBlank_lower (cs : List Char) :
    (lower cs).dropWhile isBlank = lower (cs.dropWhile isBlank) := by
  induction cs with
  | nil => rfl
  | cons c cs ih =>
      by_cases hblank : isBlank c
      · rw [lower, lowerFrom, lowerIn_of_isBlank hblank, casedAfter, role_of_isBlank hblank,
          List.singleton_append, List.dropWhile_cons_of_pos hblank,
          List.dropWhile_cons_of_pos hblank]
        exact ih
      · rw [List.dropWhile_cons_of_neg hblank, lower, lowerFrom]
        obtain ⟨hne, hfirst⟩ := not_isBlank_lowerIn (Bool.not_eq_true _ ▸ hblank) false cs
        obtain ⟨d, ds, hd⟩ := List.exists_cons_of_ne_nil hne
        rw [hd, List.cons_append, List.dropWhile_cons_of_neg]
        simp [hfirst d (hd ▸ List.mem_cons_self)]

theorem casedNext_trimEnd (cs : List Char) : casedNext (Iso.trimEnd cs) = casedNext cs := by
  induction cs with
  | nil => rfl
  | cons c cs ih =>
      rw [Iso.trimEnd_cons]
      split
      · rename_i h
        rw [casedNext, casedNext, role_of_isBlank h.1]
      · rw [casedNext, casedNext, ih]

theorem trimEnd_append {xs : List Char} (h : ∀ c ∈ xs, isBlank c = false) (ys : List Char) :
    Iso.trimEnd (xs ++ ys) = xs ++ Iso.trimEnd ys := by
  induction xs with
  | nil => rfl
  | cons x xs ih =>
      rw [List.cons_append, Iso.trimEnd_cons, if_neg (by simp [h x List.mem_cons_self]),
        ih fun c hc => h c (List.mem_cons_of_mem x hc), List.cons_append]

theorem trimEnd_lowerFrom (casedBefore : Bool) (cs : List Char) :
    Iso.trimEnd (lowerFrom casedBefore cs) = lowerFrom casedBefore (Iso.trimEnd cs) := by
  induction cs generalizing casedBefore with
  | nil => rfl
  | cons c cs ih =>
      have hcontext : lowerIn casedBefore c (Iso.trimEnd cs) = lowerIn casedBefore c cs := by
        rw [lowerIn, lowerIn, casedNext_trimEnd]
      by_cases hblank : isBlank c
      · rw [lowerFrom, lowerIn_of_isBlank hblank, List.singleton_append, Iso.trimEnd_cons,
          Iso.trimEnd_cons, ih]
        by_cases hnil : Iso.trimEnd cs = []
        · rw [if_pos ⟨hblank, lowerFrom_eq_nil_iff.mpr hnil⟩, if_pos ⟨hblank, hnil⟩, lowerFrom]
        · rw [if_neg fun h => hnil (lowerFrom_eq_nil_iff.mp h.2), if_neg fun h => hnil h.2,
            lowerFrom, lowerIn_of_isBlank hblank, List.singleton_append]
      · have hlower := (not_isBlank_lowerIn (Bool.not_eq_true _ ▸ hblank) casedBefore cs).2
        rw [lowerFrom, trimEnd_append hlower, ih, Iso.trimEnd_cons, if_neg (by simp [hblank]),
          lowerFrom, hcontext]

/-- A text of small ASCII characters is its own lower case. -/
theorem lowerFrom_eq_self (h : ∀ c ∈ cs, isAscii c ∧ c.toLower = c) (casedBefore : Bool) :
    lowerFrom casedBefore cs = cs := by
  induction cs generalizing casedBefore with
  | nil => rfl
  | cons c cs ih =>
      obtain ⟨hascii, hsmall⟩ := h c List.mem_cons_self
      rw [lowerFrom, lowerIn_of_isAscii hascii, hsmall,
        ih (fun d hd => h d (List.mem_cons_of_mem c hd)), List.singleton_append]

/-- The lower case of a text without blanks has none. -/
theorem not_isBlank_lowerFrom (h : ∀ c ∈ cs, isBlank c = false) (casedBefore : Bool) :
    ∀ d ∈ lowerFrom casedBefore cs, isBlank d = false := by
  induction cs generalizing casedBefore with
  | nil => simp [lowerFrom]
  | cons c cs ih =>
      intro d hd
      rw [lowerFrom, List.mem_append] at hd
      rcases hd with hd | hd
      · exact (not_isBlank_lowerIn (h c List.mem_cons_self) casedBefore cs).2 d hd
      · exact ih (fun e he => h e (List.mem_cons_of_mem c he)) _ d hd

/-! ## Capitals -/

/-- The case tables lead to no capital ASCII letter. -/
theorem tables_apart_capitals :
    (∀ entry ∈ entries Table.lowerRuns,
      [('A'.toNat, 'Z'.toNat)].all (isApart · [(images entry).1, (images entry).2])) ∧
    ∀ entry ∈ entries Table.lowerExpansions,
      (entry.tailD []).all fun n => !(Char.ofNat n).isUpper := by
  rw [Table.lowerRuns, Table.lowerExpansions]
  repeat rw [entries_cons]
  decide +kernel

theorem inRange_of_isUpper (h : c.isUpper) : InRange c.toNat ('A'.toNat, 'Z'.toNat) := by
  have hrange : 65 ≤ c.toNat ∧ c.toNat ≤ 90 := by
    simpa [Char.isUpper, UInt32.le_iff_toNat_le] using h
  exact hrange

theorem isAscii_of_isUpper (h : c.isUpper) : isAscii c :=
  isAscii_of_isAlphanum (by rw [Char.isAlphanum, Char.isAlpha, h]; rfl)

theorem isUpper_of_mem_lowerIn (h : d ∈ lowerIn casedBefore c rest) : d.isUpper = false := by
  obtain ⟨hruns, hexpansions⟩ := tables_apart_capitals
  rw [lowerIn] at h
  split at h
  · obtain rfl := List.mem_singleton.mp h
    split <;> decide
  · rw [lowerChar] at h
    split at h
    · rename_i hascii
      obtain rfl := List.mem_singleton.mp h
      exact forall_isAscii (p := fun c => c.toLower.isUpper = false) (by decide +kernel) hascii
    · rename_i hascii
      rw [image] at h
      split at h
      · rename_i m hm
        obtain rfl := List.mem_singleton.mp h
        exact Bool.eq_false_iff.mpr <| not_ofNat_of_imageOf? (p := fun c => c.isUpper = true)
          (by decide) (fun c hc => ⟨_, List.mem_singleton_self _, inRange_of_isUpper hc⟩) hruns hm
      · split at h
        · rename_i ns hns
          obtain ⟨entry, hentry, rfl⟩ := exists_entry_of_find? hns
          obtain ⟨n, hn, rfl⟩ := List.mem_map.mp h
          simpa using List.all_eq_true.mp (hexpansions entry hentry) n hn
        · obtain rfl := List.mem_singleton.mp h
          exact Bool.eq_false_iff.mpr fun hupper => hascii (isAscii_of_isUpper hupper)

/-- The lower case of a text has no capital ASCII letter. -/
theorem isUpper_of_mem_lowerFrom (h : d ∈ lowerFrom casedBefore cs) : d.isUpper = false := by
  induction cs generalizing casedBefore with
  | nil => cases h
  | cons c cs ih =>
      rw [lowerFrom, List.mem_append] at h
      exact h.elim isUpper_of_mem_lowerIn ih

end Case

/-- It does not matter whether a text is trimmed before or after it is lowered. -/
theorem lower_trim (s : String) : lower (trim s) = trim (lower s) := by
  apply String.toList_injective
  rw [toList_lower, toList_trim, toList_trim, toList_lower]
  change Case.lowerFrom false (Iso.trimEnd (s.toList.dropWhile isBlank)) =
    Iso.trimEnd ((Case.lower s.toList).dropWhile isBlank)
  rw [← Case.trimEnd_lowerFrom, Case.dropWhile_isBlank_lower]
  rfl

end IssueQuery.Text
