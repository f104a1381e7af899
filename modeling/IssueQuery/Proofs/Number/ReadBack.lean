import IssueQuery.Proofs.Number.Line
import IssueQuery.Proofs.Number.Numeral
import IssueQuery.Proofs.Number.Range
import IssueQuery.Proofs.Number.Shortest
import IssueQuery.Proofs.Number.Written

/-!
# Reading numbers back

However the digits of a double are laid out, with an exponent or zeros or neither, they spell a
numeral of the same value, and this value is rounded to the double.  So numbers of the same text are
the same, as long as integers stay in the range of doubles.
-/

namespace IssueQuery

open Number Text

namespace Double

variable {digits : List Char} {exponent : Int} {q : Rat}

/-! ## Layouts -/

/-- The digits of the exponent are laid out behind its mark. -/
theorem exists_marked_exponentText (exponent : Int) :
    ∃ ds, exponentText exponent = Numeral.marked (some (decide (exponent < 0), ds)) ∧ ds ≠ [] ∧
      (∀ c ∈ ds, c.isDigit) ∧ signed (exponent < 0) (decimalValue ds) = exponent := by
  let digits := Nat.toDigits 10 exponent.natAbs
  have hdigits : ∀ c ∈ digits, c.isDigit := fun c hc =>
    Nat.isDigit_of_mem_toDigits (by decide) (by decide) hc
  have hvalue : decimalValue digits = exponent.natAbs := decimalValue_toDigits _
  have hmark : ∀ ds, Numeral.marked (some (decide (exponent < 0), ds)) =
      'e' :: (if exponent < 0 then '-' else '+') :: ds := by
    intro ds
    rw [Numeral.marked]
    simp only [decide_eq_true_eq]
  by_cases hshort : digits.length < 2
  · refine ⟨'0' :: digits, ?_, List.cons_ne_nil _ _, ?_, ?_⟩
    · rw [hmark, exponentText]
      simp only [digits, if_pos hshort]
    · intro c hc
      rcases List.mem_cons.mp hc with rfl | hc
      · decide
      · exact hdigits c hc
    · have hzero := decimalValue_zeros_append 1 digits
      rw [show '0' :: digits = List.replicate 1 '0' ++ digits from rfl, hzero, hvalue,
        signed_natAbs]
  · refine ⟨digits, ?_, Nat.toDigits_ne_nil, hdigits, ?_⟩
    · rw [hmark, exponentText]
      simp only [digits, if_neg hshort]
    · rw [hvalue, signed_natAbs]

/-- A layout of digits spells a numeral of their value. -/
structure Spells (x : Numeral) (digits : List Char) (exponent : Int) : Prop where
  hasDigits : x.HasDigits
  negative : x.negative = false
  written : x.written = layout digits exponent
  value : x.value = decimalValue digits * 10 ^ (exponent - digits.length + 1)
  marked : x.fraction.isSome ∨ x.exponent.isSome

/-- Digits behind the point, with zeros in front of them. -/
theorem spells_below_one (hdigits : ∀ c ∈ digits, c.isDigit) (hpositional : isPositional exponent)
    (hneg : exponent < 0) :
    Spells ⟨false, ['0'], some (List.replicate (exponent.natAbs - 1) '0' ++ digits), none⟩ digits
      exponent := by
  refine ⟨?_, rfl, ?_, ?_, Or.inl rfl⟩
  · refine ⟨List.cons_ne_nil _ _, by simp, ?_, by simp⟩
    rintro _ ⟨⟩ c hc
    exact (List.mem_append.mp hc).elim isDigit_of_mem_zeros (hdigits c)
  · unfold layout
    dsimp only
    rw [if_pos hpositional, if_pos hneg]
    simp [Numeral.written, Numeral.pointed, Numeral.marked]
  · have hwhole : decimalValue (['0'] ++ (List.replicate (exponent.natAbs - 1) '0' ++ digits)) =
        decimalValue digits :=
      (decimalValue_zeros_append 1 _).trans (decimalValue_zeros_append _ digits)
    rw [Numeral.value, Option.getD_some, hwhole]
    congr 2
    simp only [Numeral.shift, List.length_append, List.length_replicate]
    omega

/-- A point among the digits. -/
theorem spells_point_inside (hdigits : ∀ c ∈ digits, c.isDigit)
    (hpositional : isPositional exponent) (hneg : ¬exponent < 0)
    (hlong : exponent.toNat + 1 < digits.length) :
    Spells ⟨false, digits.take (exponent.toNat + 1), some (digits.drop (exponent.toNat + 1)), none⟩
      digits exponent := by
  refine ⟨?_, rfl, ?_, ?_, Or.inl rfl⟩
  · refine ⟨?_, fun c hc => hdigits c (List.mem_of_mem_take hc), ?_, by simp⟩
    · apply List.ne_nil_of_length_pos
      rw [List.length_take]
      omega
    · rintro _ ⟨⟩ c hc
      exact hdigits c (List.mem_of_mem_drop hc)
  · have hrest : (digits.drop (exponent.toNat + 1)).isEmpty = false := by
      rw [List.isEmpty_eq_false_iff]
      apply List.ne_nil_of_length_pos
      rw [List.length_drop]
      omega
    unfold layout
    dsimp only
    rw [if_pos hpositional, if_neg hneg, hrest, Nat.sub_eq_zero_of_le hlong.le]
    simp [Numeral.written, Numeral.pointed, Numeral.marked]
  · rw [Numeral.value, Option.getD_some, List.take_append_drop]
    congr 2
    simp only [Numeral.shift, List.length_drop]
    omega

/-- A point behind the digits, with zeros between. -/
theorem spells_zeros_behind (hne : digits ≠ []) (hdigits : ∀ c ∈ digits, c.isDigit)
    (hpositional : isPositional exponent) (hneg : ¬exponent < 0)
    (hshort : ¬exponent.toNat + 1 < digits.length) :
    Spells ⟨false, digits ++ List.replicate (exponent.toNat + 1 - digits.length) '0', some ['0'],
      none⟩ digits exponent := by
  refine ⟨?_, rfl, ?_, ?_, Or.inl rfl⟩
  · refine ⟨by simp [hne], ?_, by simp, by simp⟩
    intro c hc
    exact (List.mem_append.mp hc).elim (hdigits c) isDigit_of_mem_zeros
  · have hle := not_lt.mp hshort
    unfold layout
    dsimp only
    rw [if_pos hpositional, if_neg hneg, List.take_of_length_le hle, List.drop_of_length_le hle]
    simp [Numeral.written, Numeral.pointed, Numeral.marked]
  · rw [Numeral.value, Option.getD_some, List.append_assoc, ← List.replicate_succ',
      decimalValue_append_zeros]
    congr 2
    simp only [Numeral.shift, List.length_singleton]
    omega

/-- One digit and an exponent, or a point behind the first of several. -/
theorem exists_spells_marked (hne : digits ≠ []) (hdigits : ∀ c ∈ digits, c.isDigit)
    (hmark : ¬isPositional exponent) : ∃ x, Spells x digits exponent := by
  obtain ⟨ds, htext, hds, hall, hvalue⟩ := exists_marked_exponentText exponent
  obtain ⟨c, rest, rfl⟩ := List.exists_cons_of_ne_nil hne
  cases rest with
  | nil =>
      refine ⟨⟨false, [c], none, some (exponent < 0, ds)⟩, ?_, rfl, ?_, ?_, Or.inr rfl⟩
      · refine ⟨List.cons_ne_nil _ _, hdigits, by simp, ?_⟩
        rintro _ _ ⟨⟩
        exact ⟨hds, hall⟩
      · unfold layout
        dsimp only
        rw [if_neg hmark, htext]
        rfl
      · rw [Numeral.value, Option.getD_none, List.append_nil]
        congr 2
        simp only [Numeral.shift, hvalue, List.length_singleton, List.length_nil]
        omega
  | cons d rest =>
      refine ⟨⟨false, [c], some (d :: rest), some (exponent < 0, ds)⟩, ?_, rfl, ?_, ?_, Or.inr rfl⟩
      · refine ⟨List.cons_ne_nil _ _, ?_, ?_, ?_⟩
        · intro e he
          exact hdigits e (List.mem_singleton.mp he ▸ List.mem_cons_self)
        · rintro _ ⟨⟩ e he
          exact hdigits e (List.mem_cons_of_mem c he)
        · rintro _ _ ⟨⟩
          exact ⟨hds, hall⟩
      · unfold layout
        dsimp only
        rw [if_neg hmark, htext]
        rfl
      · rw [Numeral.value, Option.getD_some, List.singleton_append]
        congr 2
        simp only [Numeral.shift, hvalue, List.length_cons]
        push_cast
        omega

/-- Every layout spells a numeral. -/
theorem exists_spells (hne : digits ≠ []) (hdigits : ∀ c ∈ digits, c.isDigit) (exponent : Int) :
    ∃ x, Spells x digits exponent := by
  by_cases hpositional : isPositional exponent
  · by_cases hneg : exponent < 0
    · exact ⟨_, spells_below_one hdigits hpositional hneg⟩
    · by_cases hlong : exponent.toNat + 1 < digits.length
      · exact ⟨_, spells_point_inside hdigits hpositional hneg hlong⟩
      · exact ⟨_, spells_zeros_behind hne hdigits hpositional hneg hlong⟩
  · exact exists_spells_marked hne hdigits hpositional

/-! ## Texts of doubles -/

theorem exists_zeros_behind (cs : List Char) :
    ∃ n, cs = (cs.reverse.dropWhile (· = '0')).reverse ++ List.replicate n '0' := by
  have hzeros : (cs.reverse.takeWhile (· = '0')).reverse =
      List.replicate (cs.reverse.takeWhile (· = '0')).length '0' := by
    rw [List.eq_replicate_iff, List.length_reverse]
    refine ⟨rfl, fun c hc => ?_⟩
    simpa using List.mem_takeWhile_imp (List.mem_reverse.mp hc)
  refine ⟨(cs.reverse.takeWhile (· = '0')).length, ?_⟩
  calc cs = cs.reverse.reverse := (List.reverse_reverse _).symm
    _ = (cs.reverse.takeWhile (· = '0') ++ cs.reverse.dropWhile (· = '0')).reverse := by
        rw [List.takeWhile_append_dropWhile]
    _ = _ := by rw [List.reverse_append, hzeros]

/-- The digits of a decimal without the zeros at the end, and the exponent of the first one. -/
theorem scientific_spec {d : Decimal} (hd : 0 < d.digits) :
    d.scientific.1 ≠ [] ∧
      (decimalValue d.scientific.1 : Rat) * 10 ^ (d.scientific.2 - d.scientific.1.length + 1) =
        d.toRat := by
  obtain ⟨n, hn⟩ := exists_zeros_behind (Nat.toDigits 10 d.digits)
  change _ = d.scientific.1 ++ List.replicate n '0' at hn
  have hvalue := decimalValue_toDigits d.digits
  constructor
  · intro hnil
    rw [hn, hnil, List.nil_append, decimalValue_zeros] at hvalue
    exact hd.ne hvalue
  · have hexponent : d.scientific.2 - d.scientific.1.length + 1 = d.exponent + n := by
      have hlength := congrArg List.length hn
      rw [List.length_append, List.length_replicate] at hlength
      have hpos : 0 < (Nat.toDigits 10 d.digits).length := Nat.length_toDigits_pos
      have hsecond : d.scientific.2 =
          d.exponent + ((Nat.toDigits 10 d.digits).length - 1 : Nat) := rfl
      omega
    rw [hexponent, ← decimalValue_append_zeros, ← hn, hvalue, Decimal.toRat]

/-- The text of a positive double is a numeral of a value that is rounded to it. -/
theorem exists_numeral_positiveText (hq : 0 < q) (h : round q = .finite q) :
    ∃ x : Numeral, x.HasDigits ∧ x.negative = false ∧ x.written = positiveText q ∧
      (x.fraction.isSome ∨ x.exponent.isSome) ∧ 0 < x.value ∧ round x.value = .finite q := by
  have hpos := digits_shortest_pos hq h
  obtain ⟨hne, hvalue⟩ := scientific_spec hpos
  obtain ⟨x, hx⟩ := exists_spells hne (fun _ hc => isDigit_of_mem_scientific hc)
    (shortest q).scientific.2
  have hrat : x.value = (shortest q).toRat := hx.value.trans hvalue
  refine ⟨x, hx.hasDigits, hx.negative, hx.written, hx.marked, ?_, ?_⟩
  · rw [hrat, Decimal.toRat]
    positivity
  · rw [hrat]
    exact round_shortest hq h

/-- The text of a double that is not zero is a numeral that stands for it. -/
theorem exists_numeral_text (hne : q ≠ 0) (h : round q = .finite q) :
    ∃ x : Numeral, x.HasDigits ∧ x.written = (text (.finite q)).toList ∧
      x.toNumber = .double (.finite q) := by
  rcases lt_or_gt_of_ne hne with hneg | hpos
  · obtain ⟨x, hdigits, hsign, hwritten, hmarked, hvalue, hx⟩ :=
      exists_numeral_positiveText (neg_pos.mpr hneg) (round_neg hne h)
    let y : Numeral := { x with negative := true }
    have hdouble : y.toDouble = .finite q := by
      have hback := round_neg (neg_ne_zero.mpr hne) hx
      rw [neg_neg] at hback
      exact (Numeral.toDouble_eq_round (x := y) hvalue).trans hback
    refine ⟨y, ⟨hdigits.1, hdigits.2, hdigits.3, hdigits.4⟩, ?_, ?_⟩
    · rw [text, if_neg hne, if_pos hneg, String.toList_ofList, ← hwritten, Numeral.written,
        Numeral.written, hsign]
      rfl
    · rw [Numeral.toNumber_of_marked (x := y) hmarked, hdouble]
  · obtain ⟨x, hdigits, hsign, hwritten, hmarked, hvalue, hx⟩ := exists_numeral_positiveText hpos h
    refine ⟨x, hdigits, ?_, ?_⟩
    · rw [text, if_neg hne, if_neg hpos.not_gt, String.toList_ofList, hwritten]
    · have hdouble : x.toDouble = .finite q := by
        rw [Numeral.toDouble_eq_round hvalue, hsign]
        exact hx
      rw [Numeral.toNumber_of_marked hmarked, hdouble]

end Double

namespace Number

/-! ## Texts of numbers -/

theorem written_ofInt (z : Int) : (Numeral.ofInt z).written = (toString z).toList := by
  rw [toList_toString_int]
  by_cases hz : z < 0
  · simp [Numeral.ofInt, Numeral.integral, Numeral.written, Numeral.pointed, Numeral.marked, hz]
  · simp [Numeral.ofInt, Numeral.integral, Numeral.written, Numeral.pointed, Numeral.marked, hz]

/-- Numbers that doubles come up to: integers in their range, and rationals that are doubles. -/
def FitsDouble : Number → Prop
  | .int z => (Double.round z).toRat?.isSome
  | .double (.finite q) => Double.round q = .finite q
  | .double _ => True

theorem fitsDouble_round (r : Rat) : FitsDouble (.double (.round r)) := by
  cases h : Double.round r with
  | finite q => exact Double.round_round h
  | _ => trivial

theorem fitsDouble_ofDecimal (negative : Bool) (m : Nat) (e : Int) :
    FitsDouble (.double (.ofDecimal negative m e)) := by
  by_cases hm : m = 0
  · subst hm
    cases negative with
    | true => trivial
    | false => exact Double.round_zero
  · rw [Double.ofDecimal_eq_round (Nat.pos_of_ne_zero hm)]
    exact fitsDouble_round _

variable {m n : Number}

/-- Doubles come up to the numbers that texts spell. -/
theorem fitsDouble_of_read? {s : String} (h : read? s = some n) : n.FitsDouble := by
  obtain ⟨⟨negative, whole, fraction, exponent⟩, -, rfl⟩ := Option.map_eq_some_iff.mp h
  unfold Numeral.toNumber
  split
  · rename_i z hfraction hexponent hint
    dsimp only at hfraction hexponent
    subst hfraction hexponent
    change (Double.round (signed negative (decimalValue whole))).toRat?.isSome
    by_cases hzero : decimalValue whole = 0
    · rw [hzero]
      cases negative <;> simp [signed, Double.round_zero, Double.toRat?]
    · change (Numeral.integral negative whole).toDouble.toInt? = some z at hint
      rw [Numeral.toDouble_integral hzero] at hint
      unfold Double.toInt? at hint
      split at hint
      · rename_i q hq
        rw [hq]
        rfl
      · cases hint
  · exact fitsDouble_ofDecimal _ _ _

/-- The text of a number is a numeral for the same point, unless the number is not finite. -/
theorem exists_numeral_plainText (h : n.FitsDouble) :
    (∃ x : Numeral, x.HasDigits ∧ x.written = n.plainText.toList ∧
      x.toNumber.point? = n.point?) ∨ ∃ x : Double, n = .double x ∧ x.toRat? = none := by
  have hint : ∀ z : Int, (Double.round z).toRat?.isSome → n.plainText = toString z →
      n.point? = point? (.int z) → ∃ x : Numeral, x.HasDigits ∧
        x.written = n.plainText.toList ∧ x.toNumber.point? = n.point? := by
    intro z hz htext hpoint
    refine ⟨.ofInt z, Numeral.hasDigits_ofInt z, ?_, ?_⟩
    · rw [written_ofInt, htext]
    · rw [Numeral.toNumber_ofInt hz, hpoint]
  cases n with
  | int z => exact Or.inl (hint z h rfl rfl)
  | double x =>
      cases x with
      | nan => exact Or.inr ⟨.nan, rfl, rfl⟩
      | infinity negative => exact Or.inr ⟨.infinity negative, rfl, rfl⟩
      | negativeZero => exact Or.inl (hint 0 rfl rfl rfl)
      | finite q =>
          left
          by_cases hden : q.den = 1
          · have hq : ((q.num : Int) : Rat) = q := Rat.coe_int_num_of_den_eq_one hden
            apply hint q.num
            · rw [hq, show Double.round q = .finite q from h]
              rfl
            · rw [plainText, Double.toInt?, Double.toRat?]
              simp only [if_pos hden]
            · rw [point?, point?, hq]
          · have hne : q ≠ 0 := by
              rintro rfl
              exact hden rfl
            obtain ⟨x, hx, hwritten, hnumber⟩ := Double.exists_numeral_text hne h
            refine ⟨x, hx, ?_, by rw [hnumber]⟩
            rw [hwritten, plainText, Double.toInt?, Double.toRat?]
            simp only [if_neg hden]

/-- The text of a number spells a number for the same point, unless the number is not finite. -/
theorem read?_plainText (h : n.FitsDouble) :
    (∃ k, read? n.plainText = some k ∧ k.point? = n.point?) ∨
      ∃ x : Double, n = .double x ∧ x.toRat? = none := by
  refine (exists_numeral_plainText h).imp_left ?_
  rintro ⟨x, hx, hwritten, hpoint⟩
  refine ⟨x.toNumber, ?_, hpoint⟩
  have htrim : trimChars n.plainText.toList = n.plainText.toList :=
    trimChars_of_not_isBlank fun c hc => (spec_of_isWritingChar (n.plainText_spec.2 c hc)).2
  rw [read?, htrim, ← hwritten, Numeral.read?_written hx]
  rfl

theorem mem_of_not_finite {x : Double} (h : x.toRat? = none) :
    x ∈ [.nan, .infinity true, .infinity false] := by
  cases x with
  | nan => decide
  | infinity negative => cases negative <;> decide
  | negativeZero | finite q => cases h

theorem read?_plainText_of_not_finite {x : Double} (h : x.toRat? = none) :
    read? (plainText (.double x)) = none := by
  have hwords : ∀ x ∈ [.nan, .infinity true, .infinity false],
      read? (plainText (.double x)) = none := by decide
  exact hwords x (mem_of_not_finite h)

/-- What the text of a number spells stands for the same point. -/
theorem point?_of_read? (hn : n.FitsDouble) (h : read? n.plainText = some m) :
    m.point? = n.point? := by
  rcases read?_plainText hn with ⟨k, hk, hpoint⟩ | ⟨x, rfl, hx⟩
  · obtain rfl := Option.some.inj (h.symm.trans hk)
    exact hpoint
  · rw [read?_plainText_of_not_finite hx] at h
    cases h

/-- Numbers of the same text stand for the same point. -/
theorem point?_eq_of_plainText_eq (hm : m.FitsDouble) (hn : n.FitsDouble)
    (h : m.plainText = n.plainText) : m.point? = n.point? := by
  rcases read?_plainText hm with ⟨k, hk, hkm⟩ | ⟨x, rfl, hx⟩
  · exact hkm.symm.trans (point?_of_read? hn (h ▸ hk))
  · rcases read?_plainText hn with ⟨l, hl, -⟩ | ⟨y, rfl, hy⟩
    · rw [← h, read?_plainText_of_not_finite hx] at hl
      cases hl
    · have hinjective : ∀ x ∈ [.nan, .infinity true, .infinity false],
          ∀ y ∈ [.nan, .infinity true, .infinity false],
            plainText (.double x) = plainText (.double y) → x = y := by decide
      rw [hinjective x (mem_of_not_finite hx) y (mem_of_not_finite hy) h]

end Number

end IssueQuery
