import IssueQuery.Number.Numeral
import IssueQuery.Proofs.Number.Rounding
import IssueQuery.Proofs.Text.Decimal
import IssueQuery.Proofs.Text.Lower

/-!
# Numerals

What is written as a numeral is read as the parts that it is written from, and its double is the
rounded value of these parts.  The reader takes no notice of letter case, which only the mark of an
exponent has.
-/

namespace IssueQuery

open Text

namespace Text

theorem trimChars_of_not_isBlank {cs : List Char} (h : ∀ c ∈ cs, isBlank c = false) :
    trimChars cs = cs := by
  have hdrop : ∀ ds : List Char, (∀ c ∈ ds, isBlank c = false) → ds.dropWhile isBlank = ds := by
    intro ds hds
    cases ds with
    | nil => rfl
    | cons c ds => exact List.dropWhile_cons_of_neg (by simp [hds c List.mem_cons_self])
  rw [trimChars, hdrop cs h, hdrop cs.reverse fun c hc => h c (List.mem_reverse.mp hc),
    List.reverse_reverse]

end Text

namespace Number

theorem signed_natAbs (z : Int) : signed (z < 0) z.natAbs = z := by
  unfold signed
  by_cases hz : z < 0
  · rw [if_pos (decide_eq_true hz)]
    omega
  · rw [if_neg (by simpa using hz)]
    omega

/-! ## Taking numerals apart -/

section Take

variable {cs ds rest : List Char} {c : Char}

theorem isDecimal_sign_eq_false : isDecimal '-' = false ∧ isDecimal '+' = false := by
  decide

theorem takeSign_cons_of_isDecimal (h : isDecimal c) (cs : List Char) :
    takeSign (c :: cs) = (false, c :: cs) := by
  obtain ⟨hminus, hplus⟩ := isDecimal_sign_eq_false
  unfold takeSign
  split
  · rename_i heq
    rw [(List.cons.inj heq).1, hminus] at h
    cases h
  · rename_i heq
    rw [(List.cons.inj heq).1, hplus] at h
    cases h
  · rfl

theorem takeDigits_append (hds : ∀ c ∈ ds, isDecimal c)
    (hrest : ∀ c ∈ rest.head?, isDecimal c = false) : takeDigits (ds ++ rest) = (ds, rest) := by
  rw [takeDigits, List.takeWhile_append_of_pos hds, List.dropWhile_append_of_pos hds]
  cases rest with
  | nil => simp
  | cons c rest =>
      have hc := hrest c rfl
      rw [List.takeWhile_cons_of_neg (by simp [hc]), List.dropWhile_cons_of_neg (by simp [hc]),
        List.append_nil]

end Take

namespace Numeral

/-! ## Written numerals -/

/-- The text of the digits behind a point, with the point. -/
def pointed : Option (List Char) → List Char
  | some ds => '.' :: ds
  | none => []

/-- The text of an exponent, with its mark. -/
def marked : Option (Bool × List Char) → List Char
  | some (negative, ds) => 'e' :: (if negative then '-' else '+') :: ds
  | none => []

/-- The text of a numeral. -/
def written (x : Numeral) : List Char :=
  (if x.negative then ['-'] else []) ++ (x.whole ++ (pointed x.fraction ++ marked x.exponent))

/-- The parts of a numeral are digits, and none is missing in front of the point or in the
exponent. -/
structure HasDigits (x : Numeral) : Prop where
  nonempty : x.whole ≠ []
  whole : ∀ c ∈ x.whole, c.isDigit
  fraction : ∀ ds, x.fraction = some ds → ∀ c ∈ ds, c.isDigit
  exponent : ∀ negative ds, x.exponent = some (negative, ds) → ds ≠ [] ∧ ∀ c ∈ ds, c.isDigit

variable {x : Numeral}

theorem readExponent?_marked {exponent : Option (Bool × List Char)}
    (h : ∀ negative ds, exponent = some (negative, ds) → ds ≠ [] ∧ ∀ c ∈ ds, c.isDigit) :
    readExponent? (marked exponent) = some exponent := by
  cases exponent with
  | none => rfl
  | some p =>
      obtain ⟨negative, ds⟩ := p
      obtain ⟨hne, hds⟩ := h negative ds rfl
      have hall : ds.all isDecimal :=
        List.all_eq_true.mpr fun c hc => isDecimal_of_isDigit (hds c hc)
      have hsign : takeSign ((if negative then '-' else '+') :: ds) = (negative, ds) := by
        cases negative <;> rfl
      rw [marked, readExponent?, hsign]
      simp [hne, hall]

theorem takeFraction_pointed {fraction : Option (List Char)}
    (h : ∀ ds, fraction = some ds → ∀ c ∈ ds, c.isDigit) (exponent : Option (Bool × List Char)) :
    takeFraction (pointed fraction ++ marked exponent) = (fraction, marked exponent) := by
  have hhead : ∀ c ∈ (marked exponent).head?, isDecimal c = false := by
    cases exponent with
    | none => simp [marked]
    | some p =>
        intro c hc
        obtain rfl : 'e' = c := Option.some.inj hc
        decide
  cases fraction with
  | none => cases exponent <;> rfl
  | some ds =>
      have hds : ∀ c ∈ ds, isDecimal c := fun c hc => isDecimal_of_isDigit (h ds rfl c hc)
      rw [pointed, List.cons_append, takeFraction, takeDigits_append hds hhead]

/-- A written numeral is read as its parts. -/
theorem read?_written (h : x.HasDigits) : read? x.written = some x := by
  obtain ⟨negative, whole, fraction, exponent⟩ := x
  obtain ⟨c, cs, rfl⟩ := List.exists_cons_of_ne_nil h.nonempty
  have hsign : takeSign (written ⟨negative, c :: cs, fraction, exponent⟩) =
      (negative, c :: cs ++ (pointed fraction ++ marked exponent)) := by
    cases negative with
    | true => rfl
    | false =>
        exact takeSign_cons_of_isDecimal (isDecimal_of_isDigit (h.whole c List.mem_cons_self)) _
  have hhead : ∀ d ∈ (pointed fraction ++ marked exponent).head?, isDecimal d = false := by
    intro d hd
    cases fraction with
    | some ds =>
        obtain rfl : '.' = d := Option.some.inj hd
        decide
    | none =>
        cases exponent with
        | none => cases hd
        | some p =>
            obtain rfl : 'e' = d := Option.some.inj hd
            decide
  have hdigits := takeDigits_append (fun d hd => isDecimal_of_isDigit (h.whole d hd)) hhead
  rw [read?, hsign]
  simp only [hdigits, takeFraction_pointed h.fraction, readExponent?_marked h.exponent,
    List.isEmpty_cons, Bool.false_and, Option.map_some]
  rfl

/-- A sign behind digits spoils a numeral. -/
theorem read?_hyphen_behind {ds : List Char} (hne : ds ≠ []) (hds : ∀ c ∈ ds, c.isDigit)
    (rest : List Char) : read? (ds ++ '-' :: rest) = none := by
  obtain ⟨c, cs, rfl⟩ := List.exists_cons_of_ne_nil hne
  have hdecimal : ∀ d ∈ c :: cs, isDecimal d := fun d hd => isDecimal_of_isDigit (hds d hd)
  have hsign : takeSign (c :: cs ++ '-' :: rest) = (false, c :: cs ++ '-' :: rest) :=
    takeSign_cons_of_isDecimal (hdecimal c List.mem_cons_self) _
  have hhead : ∀ d ∈ ('-' :: rest).head?, isDecimal d = false := by
    intro d hd
    obtain rfl : '-' = d := Option.some.inj hd
    decide
  rw [read?, hsign]
  simp only [takeDigits_append hdecimal hhead]
  rfl

/-! ## Values of numerals -/

/-- The exponent of ten that is written behind the mark. -/
def shift (x : Numeral) : Int :=
  match x.exponent with
  | some (negative, ds) => signed negative (decimalValue ds)
  | none => 0

/-- The magnitude of a numeral before it is rounded. -/
def value (x : Numeral) : Rat :=
  decimalValue (x.whole ++ x.fraction.getD []) *
    (10 : Rat) ^ (x.shift - (x.fraction.getD []).length)

theorem toDouble_eq_ofDecimal (x : Numeral) :
    x.toDouble = .ofDecimal x.negative (decimalValue (x.whole ++ x.fraction.getD []))
      (x.shift - (x.fraction.getD []).length) :=
  rfl

/-- The double of a numeral is its value rounded. -/
theorem toDouble_eq_round (h : 0 < x.value) :
    x.toDouble = .round (if x.negative then -x.value else x.value) := by
  have hpos : 0 < decimalValue (x.whole ++ x.fraction.getD []) := by
    apply Nat.pos_of_ne_zero
    intro hzero
    rw [value, hzero, Nat.cast_zero, zero_mul] at h
    exact lt_irrefl _ h
  rw [toDouble_eq_ofDecimal, Double.ofDecimal_eq_round hpos]
  rfl

/-- A point or an exponent makes a numeral a double. -/
theorem toNumber_of_marked (h : x.fraction.isSome ∨ x.exponent.isSome) :
    x.toNumber = .double x.toDouble := by
  unfold toNumber
  split
  · rename_i hfraction hexponent _
    rw [hfraction, hexponent] at h
    rcases h with hnone | hnone <;> cases hnone
  · rfl

/-! ## Integers -/

/-- The numeral of digits without a point and an exponent. -/
def integral (negative : Bool) (digits : List Char) : Numeral :=
  ⟨negative, digits, none, none⟩

variable {negative : Bool} {digits : List Char}

theorem value_integral (negative : Bool) (digits : List Char) :
    (integral negative digits).value = decimalValue digits := by
  rw [value, integral, Option.getD_none, List.append_nil, shift, List.length_nil, Nat.cast_zero,
    sub_zero, zpow_zero, mul_one]

theorem toDouble_integral (h : decimalValue digits ≠ 0) :
    (integral negative digits).toDouble = .round (signed negative (decimalValue digits)) := by
  have hpos : 0 < (integral negative digits).value := by
    rw [value_integral, Nat.cast_pos]
    exact Nat.pos_of_ne_zero h
  rw [toDouble_eq_round hpos, value_integral]
  cases negative with
  | true => simp [integral, signed]
  | false => simp [integral, signed]

/-- Digits without a point and an exponent stand for their integer in the range of doubles. -/
theorem toNumber_integral
    (h : (Double.round (signed negative (decimalValue digits))).toRat?.isSome) :
    (integral negative digits).toNumber = .int (signed negative (decimalValue digits)) := by
  have hint : (integral negative digits).toDouble.toInt?.isSome := by
    by_cases hzero : decimalValue digits = 0
    · rw [toDouble_eq_ofDecimal, integral, Option.getD_none, List.append_nil, hzero]
      cases negative <;> rfl
    · rw [toDouble_integral hzero]
      exact Double.isSome_toInt?_round h
  obtain ⟨k, hk⟩ := Option.isSome_iff_exists.mp hint
  unfold toNumber
  rw [hk]
  rfl

/-- The numeral of an integer. -/
def ofInt (z : Int) : Numeral :=
  integral (z < 0) (Nat.toDigits 10 z.natAbs)

variable {z : Int}

theorem hasDigits_ofInt (z : Int) : (ofInt z).HasDigits where
  nonempty := Nat.toDigits_ne_nil
  whole := fun _ hc => Nat.isDigit_of_mem_toDigits (by decide) (by decide) hc
  fraction := by simp [ofInt, integral]
  exponent := by simp [ofInt, integral]

/-- The numeral of an integer in the range of doubles stands for it. -/
theorem toNumber_ofInt (h : (Double.round z).toRat?.isSome) : (ofInt z).toNumber = .int z := by
  have hvalue : signed (z < 0) (decimalValue (Nat.toDigits 10 z.natAbs)) = z := by
    rw [decimalValue_toDigits, signed_natAbs]
  rw [ofInt, toNumber_integral (by rwa [hvalue]), hvalue]

end Numeral

/-! ## Letter case -/

/-- The mark of an exponent in lower case. -/
def lowerMark (c : Char) : Char :=
  if c = 'E' then 'e' else c

section LetterCase

variable {cs : List Char} {c : Char}

theorem lowerMark_of_ne (h : c ≠ 'E') : lowerMark c = c :=
  if_neg h

theorem lowerMark_of_isDecimal (h : isDecimal c) : lowerMark c = c := by
  apply lowerMark_of_ne
  rintro rfl
  exact absurd h (by decide)

theorem isDecimal_lowerMark (c : Char) : isDecimal (lowerMark c) = isDecimal c := by
  unfold lowerMark
  split
  · rename_i h
    rw [h]
    decide
  · rfl

theorem lowerMark_eq_iff {d : Char} (hd : d ≠ 'e' ∧ d ≠ 'E') : lowerMark c = d ↔ c = d := by
  unfold lowerMark
  split
  · rename_i h
    rw [h]
    exact ⟨fun he => absurd he.symm hd.1, fun he => absurd he.symm hd.2⟩
  · rfl

theorem takeSign_map (cs : List Char) :
    takeSign (cs.map lowerMark) = ((takeSign cs).1, (takeSign cs).2.map lowerMark) := by
  cases cs with
  | nil => rfl
  | cons c cs =>
      by_cases hminus : c = '-'
      · subst hminus
        rfl
      · by_cases hplus : c = '+'
        · subst hplus
          rfl
        · have hminus' : lowerMark c ≠ '-' := fun h =>
            hminus ((lowerMark_eq_iff (by decide)).mp h)
          have hplus' : lowerMark c ≠ '+' := fun h => hplus ((lowerMark_eq_iff (by decide)).mp h)
          simp [takeSign, hminus, hplus, hminus', hplus']

theorem map_lowerMark_of_isDecimal (h : ∀ c ∈ cs, isDecimal c) : cs.map lowerMark = cs := by
  rw [List.map_congr_left fun c hc => lowerMark_of_isDecimal (h c hc), List.map_id']

theorem takeDigits_map (cs : List Char) :
    takeDigits (cs.map lowerMark) = ((takeDigits cs).1, (takeDigits cs).2.map lowerMark) := by
  have hsame : isDecimal ∘ lowerMark = isDecimal := funext isDecimal_lowerMark
  rw [takeDigits, List.takeWhile_map, List.dropWhile_map, hsame,
    map_lowerMark_of_isDecimal fun c hc => List.mem_takeWhile_imp hc]
  rfl

theorem takeFraction_map (cs : List Char) :
    takeFraction (cs.map lowerMark) =
      ((takeFraction cs).1, (takeFraction cs).2.map lowerMark) := by
  cases cs with
  | nil => rfl
  | cons c cs =>
      by_cases hpoint : c = '.'
      · subst hpoint
        rw [List.map_cons, lowerMark_of_ne (by decide), takeFraction, takeFraction, takeDigits_map]
      · have hpoint' : lowerMark c ≠ '.' := fun h =>
          hpoint ((lowerMark_eq_iff (by decide)).mp h)
        simp [takeFraction, hpoint, hpoint']

theorem readExponent?_map (cs : List Char) :
    readExponent? (cs.map lowerMark) = readExponent? cs := by
  cases cs with
  | nil => rfl
  | cons c cs =>
      have hmark : (lowerMark c = 'e' ∨ lowerMark c = 'E') ↔ (c = 'e' ∨ c = 'E') := by
        unfold lowerMark
        split
        · rename_i h
          rw [h]
          decide
        · rfl
      have hall :
          ((takeSign cs).2.map lowerMark).all isDecimal = (takeSign cs).2.all isDecimal := by
        rw [List.all_map, show isDecimal ∘ lowerMark = isDecimal from funext isDecimal_lowerMark]
      rw [List.map_cons, readExponent?, readExponent?, takeSign_map]
      dsimp only
      simp only [hmark, hall, List.isEmpty_map]
      split
      · rename_i h
        rw [map_lowerMark_of_isDecimal (List.all_eq_true.mp h.2.2)]
      · rfl

/-- The characters of numerals. -/
def IsNumeralChar (c : Char) : Prop :=
  isDecimal c ∨ c ∈ ['-', '+', '.', 'e', 'E']

theorem mem_takeSign (hc : c ∈ cs) : IsNumeralChar c ∨ c ∈ (takeSign cs).2 := by
  unfold takeSign
  split
  · rcases List.mem_cons.mp hc with rfl | hc
    · exact Or.inl (Or.inr (by decide))
    · exact Or.inr hc
  · rcases List.mem_cons.mp hc with rfl | hc
    · exact Or.inl (Or.inr (by decide))
    · exact Or.inr hc
  · exact Or.inr hc

theorem mem_takeDigits (hc : c ∈ cs) : IsNumeralChar c ∨ c ∈ (takeDigits cs).2 := by
  rw [← List.takeWhile_append_dropWhile (p := isDecimal) (l := cs), List.mem_append] at hc
  exact hc.imp_left fun h => Or.inl (List.mem_takeWhile_imp h)

theorem mem_takeFraction (hc : c ∈ cs) : IsNumeralChar c ∨ c ∈ (takeFraction cs).2 := by
  unfold takeFraction
  split
  · rcases List.mem_cons.mp hc with rfl | hc
    · exact Or.inl (Or.inr (by decide))
    · exact mem_takeDigits hc
  · exact Or.inr hc

theorem isNumeralChar_of_readExponent? {exponent : Option (Bool × List Char)}
    (h : readExponent? cs = some exponent) (hc : c ∈ cs) : IsNumeralChar c := by
  unfold readExponent? at h
  split at h
  · cases hc
  · dsimp only at h
    split at h
    · rename_i hexponent
      rcases List.mem_cons.mp hc with rfl | hc
      · rcases hexponent.1 with rfl | rfl
        · exact Or.inr (by decide)
        · exact Or.inr (by decide)
      · rcases mem_takeSign hc with hc | hc
        · exact hc
        · exact Or.inl (List.all_eq_true.mp hexponent.2.2 c hc)
    · cases h

namespace Numeral

theorem read?_map (cs : List Char) : read? (cs.map lowerMark) = read? cs := by
  unfold read?
  simp only [takeSign_map, takeDigits_map, takeFraction_map, readExponent?_map]

theorem isNumeralChar_of_read? {x : Numeral} (h : read? cs = some x) (hc : c ∈ cs) :
    IsNumeralChar c := by
  unfold read? at h
  dsimp only at h
  split at h
  · cases h
  · obtain ⟨exponent, hexponent, -⟩ := Option.map_eq_some_iff.mp h
    rcases mem_takeSign hc with hc | hc
    · exact hc
    rcases mem_takeDigits hc with hc | hc
    · exact hc
    rcases mem_takeFraction hc with hc | hc
    · exact hc
    exact isNumeralChar_of_readExponent? hexponent hc

end Numeral

/-- Among the characters of numerals, letter case only concerns the mark of an exponent. -/
theorem lowerFrom_eq_map (h : ∀ c ∈ cs, IsNumeralChar c) (casedBefore : Bool) :
    Case.lowerFrom casedBefore cs = cs.map lowerMark := by
  induction cs generalizing casedBefore with
  | nil => rfl
  | cons c cs ih =>
      have hc : Case.lowerIn casedBefore c cs = [lowerMark c] := by
        rcases h c List.mem_cons_self with hdecimal | hmark
        · rw [Case.lowerIn_of_isDecimal hdecimal, lowerMark_of_isDecimal hdecimal]
        · have hmarks : ['-', '+', '.', 'e', 'E'].all fun d =>
              Case.isAscii d ∧ d.toLower = lowerMark d := by decide
          obtain ⟨hascii, hlower⟩ := of_decide_eq_true (List.all_eq_true.mp hmarks c hmark)
          rw [Case.lowerIn_of_isAscii hascii, hlower]
      rw [Case.lowerFrom, hc, ih (fun d hd => h d (List.mem_cons_of_mem c hd)), List.map_cons]
      rfl

/-- The lower case of a text that spells a number spells the same number. -/
theorem read?_lower {s : String} {n : Number} (h : read? s = some n) :
    read? (Text.lower s) = some n := by
  unfold read? at h ⊢
  obtain ⟨x, hx, rfl⟩ := Option.map_eq_some_iff.mp h
  have hlower : trimChars (Text.lower s).toList = (trimChars s.toList).map lowerMark := by
    rw [← toList_trim, ← lower_trim, toList_lower, toList_trim]
    exact lowerFrom_eq_map (fun c hc => Numeral.isNumeralChar_of_read? hx hc) false
  rw [hlower, Numeral.read?_map, hx]
  rfl

end LetterCase

end Number

end IssueQuery
