import IssueQuery.Proofs.Number.Numeral
import IssueQuery.Proofs.Number.Range

/-!
# Written integers

An integer is written with digits of any scripts, with zeros in front of them and a sign in front of
these or without.  It is read as this integer even where its neighbours share its double, since
rounding only decides whether it lies in the range of doubles.
-/

namespace IssueQuery

open Number Text

namespace Double

theorem ten_pow_le_greatest : (10 : Rat) ^ 308 ≤ greatest := by
  have hnat : 10 ^ 308 ≤ (2 ^ 53 - 1) * 2 ^ 971 := by decide +kernel
  have hpower : ((2 ^ 971 : Nat) : Rat) = 2 ^ (971 : Int) := by
    rw [Nat.cast_pow, Nat.cast_ofNat]
    exact (zpow_natCast 2 971).symm
  calc (10 : Rat) ^ 308 = ((10 ^ 308 : Nat) : Rat) := by rw [Nat.cast_pow, Nat.cast_ofNat]
    _ ≤ (((2 ^ 53 - 1) * 2 ^ 971 : Nat) : Rat) := Nat.cast_le.mpr hnat
    _ = greatest := by
        rw [Nat.cast_mul, hpower, greatest]
        congr 1

/-- Integers of up to 308 digits are in the range of doubles. -/
theorem isSome_toRat?_round_int {z : Int} (h : |z| ≤ 10 ^ 308) : (round z).toRat?.isSome := by
  apply isSome_toRat?_round
  have hcast : |(z : Rat)| ≤ ((10 ^ 308 : Int) : Rat) := by
    rw [← Int.cast_abs]
    exact Int.cast_le.mpr h
  rw [Int.cast_pow, Int.cast_ofNat] at hcast
  exact hcast.trans ten_pow_le_greatest

end Double

namespace Number

variable {s : String} {z : Int} {sign : String} {digits : List Char}

/-- `s` writes the integer `z`. -/
def Writes (s : String) (z : Int) : Prop :=
  ∃ sign digits, sign ∈ ["", "+", "-"] ∧ s.toList = sign.toList ++ digits ∧ digits ≠ [] ∧
    (∀ c ∈ digits, isDecimal c) ∧ z = signed (sign = "-") (decimalValue digits)

theorem takeSign_append (hsign : sign ∈ ["", "+", "-"]) (hne : digits ≠ [])
    (hdigits : ∀ c ∈ digits, isDecimal c) :
    takeSign (sign.toList ++ digits) = (decide (sign = "-"), digits) := by
  obtain ⟨c, cs, rfl⟩ := List.exists_cons_of_ne_nil hne
  simp only [List.mem_cons, List.not_mem_nil, or_false] at hsign
  rcases hsign with rfl | rfl | rfl
  · exact takeSign_cons_of_isDecimal (hdigits c List.mem_cons_self) cs
  · rfl
  · rfl

theorem Numeral.read?_append (hsign : sign ∈ ["", "+", "-"]) (hne : digits ≠ [])
    (hdigits : ∀ c ∈ digits, isDecimal c) :
    Numeral.read? (sign.toList ++ digits) = some (.integral (sign = "-") digits) := by
  have hend : ∀ c ∈ ([] : List Char).head?, isDecimal c = false := by simp
  have htake := takeDigits_append hdigits hend
  rw [List.append_nil] at htake
  have hempty : digits.isEmpty = false := by simpa using hne
  rw [Numeral.read?, takeSign_append hsign hne hdigits]
  simp only [htake, takeFraction, hempty, Bool.false_and]
  rfl

namespace Writes

theorem isNumeralChar (h : Writes s z) : ∀ c ∈ s.toList, isDecimal c ∨ c = '+' ∨ c = '-' := by
  obtain ⟨sign, digits, hsign, hs, -, hdigits, -⟩ := h
  intro c hc
  rw [hs, List.mem_append] at hc
  rcases hc with hc | hc
  · simp only [List.mem_cons, List.not_mem_nil, or_false] at hsign
    rcases hsign with rfl | rfl | rfl
    · cases hc
    · exact Or.inr (Or.inl (List.mem_singleton.mp hc))
    · exact Or.inr (Or.inr (List.mem_singleton.mp hc))
  · exact Or.inl (hdigits c hc)

theorem ne_nil (h : Writes s z) : s.toList ≠ [] := by
  obtain ⟨sign, digits, -, hs, hne, -, -⟩ := h
  rw [hs]
  exact List.append_ne_nil_of_right_ne_nil _ hne

/-- What holds of the digits of every script and of the signs holds of all characters of a written
integer. -/
theorem forall_mem {p : Char → Bool} (h : Writes s z)
    (hdigits : ∀ z ∈ zeros, ∀ k < 10, p (Char.ofNat (z + k))) (hsigns : p '+' ∧ p '-') :
    ∀ c ∈ s.toList, p c := by
  intro c hc
  rcases h.isNumeralChar c hc with hdecimal | rfl | rfl
  · exact forall_isDecimal (p := fun c => p c) hdigits hdecimal
  · exact hsigns.1
  · exact hsigns.2

end Writes

/-- A written integer is read without rounding. -/
theorem read?_of_writes (h : Writes s z) (hz : |z| ≤ 10 ^ 308) : read? s = some (.int z) := by
  have hblank : ∀ c ∈ s.toList, isBlank c = false := by
    simpa using h.forall_mem (p := fun c => !isBlank c) (by decide +kernel) (by decide)
  obtain ⟨sign, digits, hsign, hs, hne, hdigits, rfl⟩ := h
  rw [read?, trimChars_of_not_isBlank hblank, hs, Numeral.read?_append hsign hne hdigits,
    Option.map_some, Numeral.toNumber_integral (Double.isSome_toRat?_round_int hz)]

end Number

end IssueQuery
