import IssueQuery.Text.Case
import Mathlib

/-!
# ASCII characters

There are few enough of them to look at each one.  Their lower case is one character wherever they
stand, so it is found in the lower case of every text in which they occur.
-/

namespace IssueQuery.Text.Case

variable {c : Char} {cs : List Char}

/-- What holds of the first 128 characters holds of every ASCII character. -/
theorem forall_isAscii {p : Char → Prop} (h : ∀ n < 128, p (Char.ofNat n)) (hc : isAscii c) :
    p c := by
  have hlt : c.toNat < 128 := by simpa [isAscii] using hc
  have hchar := h c.toNat hlt
  rwa [Char.ofNat_toNat] at hchar

theorem isAscii_of_isAlphanum (h : c.isAlphanum) : isAscii c := by
  have hupper : 'Z'.val.toNat = 90 := rfl
  have hlower : 'z'.val.toNat = 122 := rfl
  have hdigit : '9'.val.toNat = 57 := rfl
  have hval : c.toNat = c.val.toNat := rfl
  simp only [Char.isAlphanum, Char.isAlpha, Char.isUpper, Char.isLower, Char.isDigit,
    Bool.or_eq_true, Bool.and_eq_true, decide_eq_true_eq, UInt32.le_iff_toNat_le, ge_iff_le] at h
  simp only [isAscii, decide_eq_true_eq]
  omega

theorem toLower_of_not_isAlpha (hc : isAscii c) (h : ¬c.isAlpha) : c.toLower = c :=
  forall_isAscii (p := fun c => ¬c.isAlpha → c.toLower = c) (by decide +kernel) hc h

theorem lowerIn_of_isAscii (hc : isAscii c) (casedBefore : Bool) (rest : List Char) :
    lowerIn casedBefore c rest = [c.toLower] := by
  have hsigma : c ≠ 'Σ' := by
    rintro rfl
    exact absurd hc (by decide)
  rw [lowerIn, if_neg hsigma, lowerChar, if_pos hc]

theorem mem_lowerFrom (casedBefore : Bool) (hc : c ∈ cs) (hascii : isAscii c) :
    c.toLower ∈ lowerFrom casedBefore cs := by
  induction cs generalizing casedBefore with
  | nil => cases hc
  | cons d cs ih =>
      rw [lowerFrom, List.mem_append]
      rcases List.mem_cons.mp hc with rfl | hc
      · rw [lowerIn_of_isAscii hascii]
        exact Or.inl List.mem_cons_self
      · exact Or.inr (ih _ hc)

end IssueQuery.Text.Case
