import IssueQuery.Proofs.Text.Decimal

/-!
# Texts that differ in digits

Two texts have the same layout if they are the same but for their digits.  A text leads another one
if it has the smaller digit where the two first differ, or if the other one goes on where it ends.
-/

namespace IssueQuery.Text

variable {c d : Char} {cs ds : List Char}

/-! ## Layouts -/

/-- A character with zero in the place of any digit. -/
def blankDigit (c : Char) : Char :=
  if c.isDigit then '0' else c

/-- The layout of a text: the text with zeros for its digits. -/
def layout (cs : List Char) : List Char :=
  cs.map blankDigit

theorem layout_cons (c : Char) (cs : List Char) : layout (c :: cs) = blankDigit c :: layout cs :=
  rfl

theorem length_eq_of_layout_eq (h : layout cs = layout ds) : cs.length = ds.length := by
  simpa [layout] using congrArg List.length h

theorem blankDigit_of_not_isDigit (h : c.isDigit = false) : blankDigit c = c := by
  rw [blankDigit, h]
  rfl

theorem blankDigit_of_isDigit (h : c.isDigit) : blankDigit c = '0' := by
  rw [blankDigit, if_pos h]

theorem isDigit_blankDigit (c : Char) : (blankDigit c).isDigit = c.isDigit := by
  unfold blankDigit
  split
  · rename_i h
    rw [h]
    rfl
  · rfl

theorem isDigit_eq_of_blankDigit_eq (h : blankDigit c = blankDigit d) : c.isDigit = d.isDigit := by
  rw [← isDigit_blankDigit c, h, isDigit_blankDigit]

/-- Characters that are the same but for digits are the same, unless they are digits. -/
theorem eq_of_blankDigit_eq (h : blankDigit c = blankDigit d) (hc : c.isDigit = false) : c = d := by
  have hd : d.isDigit = false := isDigit_eq_of_blankDigit_eq h ▸ hc
  rwa [blankDigit_of_not_isDigit hc, blankDigit_of_not_isDigit hd] at h

/-! ## Order by digits -/

/-- The first text has the smaller digit where the two first differ, or the second one goes on where
the first one ends. -/
inductive Leads : List Char → List Char → Prop where
  | ends (ds : List Char) : Leads [] ds
  | same (c : Char) {cs ds : List Char} : Leads cs ds → Leads (c :: cs) (c :: ds)
  | digit {c d : Char} {cs ds : List Char} : c.isDigit → d.isDigit → c.toNat < d.toNat →
      Leads (c :: cs) (d :: ds)

namespace Leads

theorem of_cons (h : Leads (c :: cs) (c :: ds)) : Leads cs ds := by
  cases h with
  | same _ h => exact h
  | digit _ _ hlt => exact absurd hlt (Nat.lt_irrefl _)

theorem eq_nil (h : Leads cs []) : cs = [] := by
  cases h
  rfl

theorem take (h : Leads cs ds) (n : Nat) : Leads (cs.take n) (ds.take n) := by
  induction h generalizing n with
  | ends ds =>
      rw [List.take_nil]
      exact .ends _
  | same c _ ih =>
      cases n with
      | zero => exact .ends []
      | succ n => exact .same c (ih n)
  | digit hc hd hlt =>
      cases n with
      | zero => exact .ends []
      | succ n => exact .digit hc hd hlt

/-- Behind beginnings of one length, texts are in order if the beginnings are the same. -/
theorem append_cases {as bs : List Char} (hlength : as.length = bs.length)
    (h : Leads (as ++ cs) (bs ++ ds)) : Leads as bs ∧ (as = bs → Leads cs ds) := by
  induction as generalizing bs with
  | nil =>
      rw [List.length_nil] at hlength
      rw [List.eq_nil_of_length_eq_zero hlength.symm] at h ⊢
      exact ⟨.ends [], fun _ => h⟩
  | cons a as ih =>
      cases bs with
      | nil => cases hlength
      | cons b bs =>
          rw [List.length_cons, List.length_cons, Nat.add_right_cancel_iff] at hlength
          rw [List.cons_append, List.cons_append] at h
          cases h with
          | same _ h =>
              obtain ⟨hleads, hrest⟩ := ih hlength h
              exact ⟨.same a hleads, fun heq => hrest (List.cons.inj heq).2⟩
          | digit ha hb hlt =>
              refine ⟨.digit ha hb hlt, fun heq => ?_⟩
              rw [(List.cons.inj heq).1] at hlt
              exact absurd hlt (Nat.lt_irrefl _)

end Leads

end IssueQuery.Text
