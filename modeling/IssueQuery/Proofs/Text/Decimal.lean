import IssueQuery.Text.Case
import IssueQuery.Text.Digit
import Mathlib

/-!
# Decimal texts

The ten usual digits are digits of their usual values among those of all scripts, and letter case
leaves them alone.  Hence the decimal text of a number is read back as this number.
-/

namespace IssueQuery.Text

theorem toNat_of_isDigit {c : Char} (h : c.isDigit) : 0x30 ≤ c.toNat ∧ c.toNat < 0x30 + 10 := by
  simp only [Char.isDigit, Bool.and_eq_true, decide_eq_true_eq, ge_iff_le,
    UInt32.le_iff_toNat_le] at h
  exact ⟨h.1, Nat.lt_succ_of_le h.2⟩

theorem digitValue?_of_isDigit {c : Char} (h : c.isDigit) :
    digitValue? c = some (c.toNat - '0'.toNat) := by
  rw [digitValue?, zeros, List.findSome?_cons, if_pos (toNat_of_isDigit h)]
  rfl

theorem isDecimal_of_isDigit {c : Char} (h : c.isDigit) : isDecimal c := by
  rw [isDecimal, digitValue?_of_isDigit h]
  rfl

/-- A decimal digit follows the zero of its script. -/
theorem exists_zero_of_isDecimal {c : Char} (h : isDecimal c) :
    ∃ z ∈ zeros, z ≤ c.toNat ∧ c.toNat < z + 10 := by
  obtain ⟨n, hn⟩ := Option.isSome_iff_exists.mp h
  obtain ⟨z, hz, hvalue⟩ := List.exists_of_findSome?_eq_some hn
  refine ⟨z, hz, ?_⟩
  by_contra hrange
  rw [if_neg hrange] at hvalue
  cases hvalue

/-- What holds of the ten digits of each script holds of every decimal digit. -/
theorem forall_isDecimal {p : Char → Prop} (h : ∀ z ∈ zeros, ∀ k < 10, p (Char.ofNat (z + k)))
    {c : Char} (hc : isDecimal c) : p c := by
  obtain ⟨z, hz, hrange⟩ := exists_zero_of_isDecimal hc
  have hchar := h z hz (c.toNat - z) (by omega)
  rwa [Nat.add_sub_cancel' hrange.1, Char.ofNat_toNat] at hchar

theorem foldl_digits_eq_ofDigitChars {cs : List Char} (h : ∀ c ∈ cs, c.isDigit) (n : Nat) :
    cs.foldl (fun n c => 10 * n + (digitValue? c).getD 0) n = Nat.ofDigitChars 10 cs n := by
  rw [Nat.ofDigitChars_eq_foldl]
  induction cs generalizing n with
  | nil => rfl
  | cons c cs ih =>
      rw [List.foldl_cons, List.foldl_cons, digitValue?_of_isDigit (h c (by simp)),
        Option.getD_some]
      exact ih (fun d hd => h d (List.mem_cons_of_mem c hd)) _

theorem toList_toString (n : Nat) : (toString n).toList = Nat.toDigits 10 n := by
  rw [Nat.toString_eq_repr, Nat.toList_repr]

theorem isDigit_of_mem_toString {n : Nat} {c : Char} (h : c ∈ (toString n).toList) :
    c.isDigit := by
  rw [toList_toString] at h
  exact Nat.isDigit_of_mem_toDigits (by decide) (by decide) h

/-- The decimal text of a number writes this number. -/
theorem decimalValue_toString (n : Nat) : decimalValue (toString n).toList = n := by
  rw [decimalValue, foldl_digits_eq_ofDigitChars fun c hc => isDigit_of_mem_toString hc,
    toList_toString, Nat.ofDigitChars_ten_toDigits]

theorem decimalValue_toDigits (n : Nat) : decimalValue (Nat.toDigits 10 n) = n := by
  rw [← toList_toString, decimalValue_toString]

theorem toList_toString_ne_nil (n : Nat) : (toString n).toList ≠ [] := by
  rw [toList_toString]
  exact Nat.toDigits_ne_nil

theorem all_isDecimal_toString (n : Nat) : (toString n).toList.all isDecimal := by
  rw [List.all_eq_true]
  intro c hc
  exact isDecimal_of_isDigit (isDigit_of_mem_toString hc)

theorem isDigitSigns_toString (n : Nat) : isDigitSigns (toString n).toList := by
  have hsigns : ∀ c ∈ (toString n).toList, isDigitSign c := by
    intro c hc
    rw [isDigitSign, isDecimal_of_isDigit (isDigit_of_mem_toString hc), Bool.true_or]
  rw [isDigitSigns, List.all_eq_true.mpr hsigns, Bool.and_true, Bool.not_eq_true',
    List.isEmpty_eq_false_iff]
  exact toList_toString_ne_nil n

/-! ## Runs of digits -/

theorem foldl_digitValues (cs : List Char) (n : Nat) :
    cs.foldl (fun n c => 10 * n + (digitValue? c).getD 0) n =
      n * 10 ^ cs.length + decimalValue cs := by
  induction cs generalizing n with
  | nil => simp [decimalValue]
  | cons c cs ih =>
      rw [decimalValue, List.foldl_cons, List.foldl_cons, ih, ih, List.length_cons]
      ring

theorem decimalValue_append (as bs : List Char) :
    decimalValue (as ++ bs) = decimalValue as * 10 ^ bs.length + decimalValue bs := by
  rw [decimalValue, List.foldl_append, foldl_digitValues]
  rfl

theorem decimalValue_zeros (n : Nat) : decimalValue (List.replicate n '0') = 0 := by
  induction n with
  | zero => rfl
  | succ n ih =>
      rw [List.replicate_succ', decimalValue_append, ih, Nat.zero_mul]
      rfl

theorem decimalValue_zeros_append (n : Nat) (cs : List Char) :
    decimalValue (List.replicate n '0' ++ cs) = decimalValue cs := by
  rw [decimalValue_append, decimalValue_zeros, Nat.zero_mul, Nat.zero_add]

/-- Each zero behind digits makes them count ten times. -/
theorem decimalValue_append_zeros (cs : List Char) (n : Nat) (e : Int) :
    (decimalValue (cs ++ List.replicate n '0') : Rat) * 10 ^ e =
      decimalValue cs * 10 ^ (e + n) := by
  rw [decimalValue_append, decimalValue_zeros, Nat.add_zero, List.length_replicate, Nat.cast_mul,
    Nat.cast_pow, Nat.cast_ofNat, zpow_add₀ (by norm_num), zpow_natCast]
  ring

theorem isDigit_of_mem_zeros {n : Nat} {c : Char} (h : c ∈ List.replicate n '0') : c.isDigit := by
  rw [List.eq_of_mem_replicate h]
  rfl

/-! ## Letter case -/

theorem upperChar_of_isDigit {c : Char} (h : c.isDigit) : Case.upperChar c = [c] := by
  obtain ⟨-, hlast⟩ := toNat_of_isDigit h
  have hascii : c.toNat < 128 := Nat.lt_trans hlast (by decide)
  have hcapital : c.toUpper = c := by
    rw [Char.toUpper, dif_neg]
    rintro ⟨hsmall, -⟩
    have hfirst : 'a'.toNat ≤ c.toNat := UInt32.le_iff_toNat_le.mp hsmall
    exact absurd (Nat.lt_of_le_of_lt hfirst hlast) (by decide)
  rw [Case.upperChar, Case.isAscii, if_pos (by simpa using hascii), hcapital]

/-- Digits have no letter case. -/
theorem upper_of_isDigit {s : String} (h : ∀ c ∈ s.toList, c.isDigit) : upper s = s := by
  have hsame : Case.upper s.toList = s.toList := by
    rw [Case.upper]
    generalize s.toList = cs at h
    induction cs with
    | nil => rfl
    | cons c cs ih =>
        rw [List.flatMap_cons, upperChar_of_isDigit (h c (by simp)),
          ih fun d hd => h d (List.mem_cons_of_mem c hd)]
        rfl
  rw [upper, hsame, String.ofList_toList]

end IssueQuery.Text
