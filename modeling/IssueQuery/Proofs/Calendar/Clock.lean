import IssueQuery.Proofs.Calendar.Day

/-!
# Written times of day

A time of day is read field by field, each of two digits, and then a fraction.  The reader goes
through two texts in step up to the first digit in which they differ, so this digit decides which of
the times is earlier; and a time that is written more coarsely is not later than one that begins in
the same way.
-/

namespace IssueQuery.Iso

open Text (Leads)

variable {n m v w : Nat} {cs ds more rest rest' : List Char} {c d : Char} {t u : Tail}
  {fields fields' : List Nat}

/-! ## Fields -/

/-- What can stand behind a field, where `Next` says what further fields are. -/
inductive Behind (Next : List Char → List Nat → Tail → Prop) :
    List Char → List Nat → Tail → Prop where
  /-- The text is over, or has one more character. -/
  | last {rest : List Char} : rest.length ≤ 1 → Behind Next rest [] (.plain rest)
  | colon {more : List Char} {fields : List Nat} {t : Tail} : more ≠ [] → Next more fields t →
      Behind Next (':' :: more) fields t
  | point {c : Char} {more : List Char} : more ≠ [] → c = '.' ∨ c = ',' →
      Behind Next (c :: more) [] (.fraction more)
  /-- Fields follow each other without colons. -/
  | run {c : Char} {more : List Char} {fields : List Nat} {t : Tail} : more ≠ [] →
      ¬(c = '.' ∨ c = ',') → Next (c :: more) fields t → Behind Next (c :: more) fields t

/-- The fields of a text, at most `n`, and what stands behind them. -/
def Fields : Nat → List Char → List Nat → Tail → Prop
  | 0, cs, fields, t => fields = [] ∧ t = .fraction cs
  | n + 1, cs, fields, t => ∃ v cs' fields',
      digits? 2 cs = some (v, cs') ∧ fields = v :: fields' ∧ Behind (Fields n) cs' fields' t

theorem exists_fields_of_readFields? {colons : Bool} {read result : List Nat}
    (h : readFields? colons n read cs = some (result, t)) :
    ∃ fields, Fields n cs fields t ∧ result = fields.reverse ++ read := by
  induction n generalizing read cs with
  | zero =>
      cases h
      exact ⟨[], ⟨rfl, rfl⟩, rfl⟩
  | succ n ih =>
      rw [readFields?] at h
      split at h
      · cases h
      · rename_i v hdigits
        cases h
        exact ⟨[v], ⟨v, [], [], hdigits, rfl, .last (Nat.zero_le _)⟩, rfl⟩
      · rename_i v c hdigits
        split at h
        · cases h
          exact ⟨[v], ⟨v, [c], [], hdigits, rfl, .last le_rfl⟩, rfl⟩
        · cases h
      · rename_i v c more hmore hdigits
        have hne : more ≠ [] := by
          rintro rfl
          exact hmore rfl
        split at h
        · rename_i hcolon
          obtain rfl : c = ':' := by simpa using (Bool.and_eq_true_iff.mp hcolon).2
          obtain ⟨fields, hfields, rfl⟩ := ih h
          exact ⟨v :: fields, ⟨v, _, fields, hdigits, rfl, .colon hne hfields⟩, by simp⟩
        · split at h
          · rename_i hpoint
            cases h
            exact ⟨[v], ⟨v, _, [], hdigits, rfl, .point hne (by simpa using hpoint)⟩, rfl⟩
          · rename_i hpoint
            split at h
            · obtain ⟨fields, hfields, rfl⟩ := ih h
              exact ⟨v :: fields,
                ⟨v, _, fields, hdigits, rfl, .run hne (by simpa using hpoint) hfields⟩, by simp⟩
            · cases h

/-! ## Fractions -/

/-- The number that a run of at most `n` digits stands for if zeros follow up to `n`. -/
def scaledValue (n : Nat) (cs : List Char) : Nat :=
  digitsValue cs * 10 ^ (n - cs.length)

theorem scaledValue_cons (c : Char) (h : cs.length ≤ n) :
    scaledValue (n + 1) (c :: cs) = (c.toNat - '0'.toNat) * 10 ^ n + scaledValue n cs := by
  have hpower : 10 ^ cs.length * 10 ^ (n - cs.length) = 10 ^ n := by
    rw [← pow_add, Nat.add_sub_cancel' h]
  rw [scaledValue, scaledValue, digitsValue_cons, List.length_cons, Nat.add_sub_add_right,
    Nat.add_mul, Nat.mul_assoc, hpower]

theorem scaledValue_lt (hcs : ∀ c ∈ cs, c.isDigit) (h : cs.length ≤ n) :
    scaledValue n cs < 10 ^ n := by
  rw [scaledValue, ← Nat.add_sub_cancel' h, pow_add, Nat.add_sub_cancel_left]
  exact Nat.mul_lt_mul_of_pos_right (digitsValue_lt hcs) (Nat.pow_pos (by decide))

theorem scaledValue_le_of_leads (h : Leads cs ds) (hcs : ∀ c ∈ cs, c.isDigit)
    (hlength : cs.length ≤ n) (hlength' : ds.length ≤ n) : scaledValue n cs ≤ scaledValue n ds := by
  induction h generalizing n with
  | ends ds =>
      rw [scaledValue, digitsValue, List.foldl_nil, Nat.zero_mul]
      exact Nat.zero_le _
  | @same c cs ds _ ih =>
      cases n with
      | zero => cases hlength
      | succ n =>
          have hle := Nat.le_of_succ_le_succ hlength
          have hle' := Nat.le_of_succ_le_succ hlength'
          rw [scaledValue_cons c hle, scaledValue_cons c hle']
          exact Nat.add_le_add_left (ih (fun e he => hcs e (List.mem_cons_of_mem c he)) hle hle') _
  | @digit c d cs ds hc hd hlt =>
      cases n with
      | zero => cases hlength
      | succ n =>
          have hle := Nat.le_of_succ_le_succ hlength
          have hdigit := digit_lt_digit hc hlt
          have hrest := scaledValue_lt (fun e he => hcs e (List.mem_cons_of_mem c he)) hle
          rw [scaledValue_cons c hle, scaledValue_cons d (Nat.le_of_succ_le_succ hlength')]
          nlinarith

theorem readFraction?_eq_some (h : readFraction? cs = some (m, rest)) :
    (∀ c ∈ cs.take 6, c.isDigit) ∧ m = scaledValue 6 (cs.take 6) := by
  have hpower : ∀ k ≤ 6, [1000000, 100000, 10000, 1000, 100, 10, 1].getD k 1 = 10 ^ (6 - k) := by
    decide
  unfold readFraction? at h
  obtain ⟨⟨value, more⟩, hdigits, h⟩ := Option.map_eq_some_iff.mp h
  cases h
  obtain ⟨as, hsplit, hlength, has, rfl⟩ := digits?_eq_some_iff.mp hdigits
  have htake : cs.take 6 = as := by
    rw [List.take_eq_take_min, Nat.min_comm, ← hlength, hsplit, List.take_left]
  rw [htake, scaledValue, hpower _ (Nat.min_le_right _ _), hlength]
  exact ⟨has, rfl⟩

/-- Fractions are in the order of their texts. -/
theorem fraction_le_of_leads (h : Leads cs ds)
    (hcs : readFraction? cs = some (m, rest)) (hds : readFraction? ds = some (n, rest')) :
    m ≤ n := by
  obtain ⟨hdigits, rfl⟩ := readFraction?_eq_some hcs
  obtain ⟨-, rfl⟩ := readFraction?_eq_some hds
  exact scaledValue_le_of_leads (h.take 6) hdigits (by simp) (by simp)

/-! ## Times in order -/

/-- What the reader makes of the rest behind the fields: a fraction, and what is left. -/
def Tail.micro? : Tail → Option (Nat × List Char)
  | .plain rest => some (0, rest)
  | .fraction cs => readFraction? cs

/-- The numbers of a time of day: all fields, the missing ones being zero, and the fraction. -/
def numbers : Nat → List Nat → Nat → List Nat
  | 0, _, micro => [micro]
  | n + 1, fields, micro => fields.headD 0 :: numbers n fields.tail micro

theorem cons_le_cons_iff {a b : Nat} {as bs : List Nat} :
    a :: as ≤ b :: bs ↔ a < b ∨ a = b ∧ as ≤ bs := by
  rw [le_iff_lt_or_eq, List.cons_lt_cons_iff, List.cons.injEq, le_iff_lt_or_eq]
  tauto

theorem numbers_mono {micro micro' : Nat} (n : Nat) (fields : List Nat) (h : micro ≤ micro') :
    numbers n fields micro ≤ numbers n fields micro' := by
  induction n generalizing fields with
  | zero => exact cons_le_cons_iff.mpr (h.lt_or_eq.imp_right fun heq => ⟨heq, le_rfl⟩)
  | succ n ih => exact cons_le_cons_iff.mpr (Or.inr ⟨rfl, ih _⟩)

/-- A time without further fields is the beginning of all times with some. -/
theorem numbers_nil_le (n micro : Nat) (fields : List Nat) :
    numbers n [] 0 ≤ numbers n fields micro := by
  induction n generalizing fields with
  | zero => exact numbers_mono 0 [] (Nat.zero_le _)
  | succ n ih =>
      exact cons_le_cons_iff.mpr
        ((Nat.zero_le (fields.headD 0)).lt_or_eq.imp_right fun heq => ⟨heq, ih _⟩)

/-- Nothing that can be read begins with a colon. -/
theorem not_fields_colon (h : Fields n (':' :: more) fields t) (ht : t.micro? = some (m, rest)) :
    False := by
  cases n with
  | zero =>
      obtain ⟨-, rfl⟩ := h
      obtain ⟨hdigits, -⟩ := readFraction?_eq_some ht
      exact absurd (hdigits ':' (by simp)) (by decide)
  | succ n =>
      obtain ⟨v, cs', fields', hdigits, -, -⟩ := h
      obtain ⟨as, hsplit, hlength, has, -⟩ := digits?_eq_some_iff.mp hdigits
      cases as with
      | nil => cases hlength
      | cons a as =>
          rw [List.cons_append] at hsplit
          exact absurd (has a (by simp)) (by rw [← (List.cons.inj hsplit).1]; decide)

/-- A text does not lead one that ends before it. -/
theorem one_lt_length_of_leads (h : Leads more ds) (hne : more ≠ []) (c : Char) :
    ¬(c :: ds).length ≤ 1 := by
  intro hshort
  have hnil : ds = [] :=
    List.eq_nil_of_length_eq_zero (Nat.le_zero.mp (Nat.le_of_succ_le_succ hshort))
  rw [hnil] at h
  exact hne h.eq_nil

theorem not_isDigit_of_point (h : c = '.' ∨ c = ',') : ¬c.isDigit := by
  rcases h with rfl | rfl
  · decide
  · decide

theorem not_isDigit_of_isOver (h : isOver (c :: cs)) : ¬c.isDigit := by
  rw [isOver, decide_eq_true_eq] at h
  rw [h]
  decide

section Order

variable {micro micro' : Nat} (ht : t.micro? = some (micro, rest))
  (hu : u.micro? = some (micro', rest')) (hover : isOver rest')

include ht hu hover

/-- Behind equal fields, the times are in order if they are behind the next fields. -/
theorem numbers_le_of_behind (h : Leads cs ds) (hcs : Behind (Fields n) cs fields t)
    (hds : Behind (Fields n) ds fields' u)
    (hnext : ∀ {cs ds : List Char} {fields fields' : List Nat}, Leads cs ds →
      Fields n cs fields t → Fields n ds fields' u →
      numbers n fields micro ≤ numbers n fields' micro') :
    numbers n fields micro ≤ numbers n fields' micro' := by
  -- The texts go on with the same character, which is read in the same way, or both with digits.
  cases hcs with
  | last _ =>
      cases ht
      exact numbers_nil_le n micro' fields'
  | colon hne hmore =>
      cases h with
      | same _ h =>
          cases hds with
          | last hshort => exact (one_lt_length_of_leads h hne ':' hshort).elim
          | colon _ hmore' => exact hnext h hmore hmore'
          | point _ hpoint => exact absurd hpoint (by decide)
          | run _ _ hmore' => exact (not_fields_colon hmore' hu).elim
      | digit hc _ _ => exact absurd hc (by decide)
  | @point c more hne hpoint =>
      cases h with
      | same _ h =>
          cases hds with
          | last hshort => exact (one_lt_length_of_leads h hne c hshort).elim
          | colon _ _ => exact absurd hpoint (by decide)
          | point _ _ => exact numbers_mono n [] (fraction_le_of_leads h ht hu)
          | run _ hpoint' _ => exact absurd hpoint hpoint'
      | digit hc _ _ => exact absurd hc (not_isDigit_of_point hpoint)
  | @run c more _ _ hne hpoint hmore =>
      cases h with
      | same _ h =>
          cases hds with
          | last hshort => exact (one_lt_length_of_leads h hne c hshort).elim
          | colon _ _ => exact (not_fields_colon hmore ht).elim
          | point _ hpoint' => exact absurd hpoint' hpoint
          | run _ _ hmore' => exact hnext (.same c h) hmore hmore'
      | digit hc hd hlt =>
          cases hds with
          | last _ =>
              -- A digit that is passed over would be left in the second text.
              cases hu
              exact absurd hd (not_isDigit_of_isOver hover)
          | colon _ _ => exact absurd hd (by decide)
          | point _ hpoint' => exact absurd hd (not_isDigit_of_point hpoint')
          | run _ _ hmore' => exact hnext (.digit hc hd hlt) hmore hmore'

/-- Of two texts in order, the second of which is read to its end, the first one has the earlier
time. -/
theorem numbers_le_of_leads (h : Leads cs ds) (hcs : Fields n cs fields t)
    (hds : Fields n ds fields' u) : numbers n fields micro ≤ numbers n fields' micro' := by
  induction n generalizing cs ds fields fields' with
  | zero =>
      obtain ⟨rfl, rfl⟩ := hcs
      obtain ⟨rfl, rfl⟩ := hds
      exact numbers_mono 0 [] (fraction_le_of_leads h ht hu)
  | succ n ih =>
      obtain ⟨v, cs', fields, hdigits, rfl, hbehind⟩ := hcs
      obtain ⟨w, ds', fields', hdigits', rfl, hbehind'⟩ := hds
      refine cons_le_cons_iff.mpr ?_
      rcases digits?_of_leads h hdigits hdigits' with hlt | ⟨heq, hleads, -⟩
      · exact Or.inl hlt
      · exact Or.inr ⟨heq, numbers_le_of_behind ht hu hover hleads hbehind hbehind' ih⟩

end Order

/-! ## Reading times -/

/-- The numbers of the parts of a time of day, the weightiest first. -/
def Parts.toList (p : Parts) : List Nat :=
  [p.hour, p.minute, p.second, p.micro]

theorem exists_fields_of_readParts? {p : Parts} (h : readParts? cs = some p) :
    ∃ fields t rest, Fields 3 cs fields t ∧ t.micro? = some (p.micro, rest) ∧
      p.leftover = !isOver rest ∧ p.toList = numbers 3 fields p.micro := by
  unfold readParts? at h
  dsimp only at h
  split at h
  · cases h
  · rename_i read tail hread
    obtain ⟨fields, hfields, rfl⟩ := exists_fields_of_readFields? hread
    have hnumbers : ∀ micro, numbers 3 fields micro =
        [fields.getD 0 0, fields.getD 1 0, fields.getD 2 0, micro] := by
      intro micro
      rcases fields with _ | ⟨a, _ | ⟨b, _ | ⟨c, fields⟩⟩⟩ <;> rfl
    rw [List.append_nil, List.reverse_reverse] at h
    cases tail with
    | plain rest =>
        cases h
        exact ⟨fields, _, rest, hfields, rfl, rfl, (hnumbers 0).symm⟩
    | fraction cs =>
        obtain ⟨⟨micro, rest⟩, hfraction, h⟩ := Option.map_eq_some_iff.mp h
        cases h
        exact ⟨fields, _, rest, hfields, hfraction, rfl, (hnumbers micro).symm⟩

/-- Of two texts in order, the second of which is read to its end, the first one has the earlier
time of day. -/
theorem parts_le_of_leads {p q : Parts} (h : Leads cs ds) (hcs : readParts? cs = some p)
    (hds : readParts? ds = some q) (hread : q.leftover = false) : p.toList ≤ q.toList := by
  obtain ⟨fields, t, rest, hfields, ht, -, hp⟩ := exists_fields_of_readParts? hcs
  obtain ⟨fields', u, rest', hfields', hu, hleftover, hq⟩ := exists_fields_of_readParts? hds
  rw [hp, hq]
  exact numbers_le_of_leads ht hu (by simpa [hread] using hleftover) h hfields hfields'

theorem micros_le_of_parts_le {p q : Parts} {s t : ClockTime} (h : p.toList ≤ q.toList)
    (hs : ClockTime.ofParts? p.hour p.minute p.second p.micro = some s)
    (ht : ClockTime.ofParts? q.hour q.minute q.second q.micro = some t) :
    s.micros ≤ t.micros := by
  unfold ClockTime.ofParts? at hs ht
  split at hs
  · split at ht
    · cases hs
      cases ht
      simp only [Parts.toList, cons_le_cons_iff, le_refl, and_true] at h
      dsimp only
      omega
    · cases ht
  · cases hs

/-- The characters of the time of day in front of an offset. -/
def timeChars (cs : List Char) : List Char :=
  cs.takeWhile (!beginsOffset ·)

/-- Nothing of the time of day is passed over. -/
def ReadsTime (cs : List Char) : Prop :=
  ∀ p, readParts? (timeChars cs) = some p → p.leftover = false

theorem exists_parts_of_readClock? {s : ClockTime} {o : Option Offset}
    (h : readClock? cs = some (s, o)) : ∃ p, readParts? (timeChars cs) = some p ∧
      ClockTime.ofParts? p.hour p.minute p.second p.micro = some s := by
  unfold readClock? at h
  dsimp only at h
  split at h
  · cases h
  · rename_i p hp
    split at h
    · cases h
    · rename_i clock hclock
      refine ⟨p, hp, ?_⟩
      split at h
      · split at h
        · cases h
        · cases h
          exact hclock
      · obtain ⟨offset, -, h⟩ := Option.map_eq_some_iff.mp h
        cases h
        exact hclock

/-- Of two texts whose times of day are in order, the first one is not later. -/
theorem micros_le_of_leads {s t : ClockTime} {o o' : Option Offset}
    (h : Leads (timeChars cs) (timeChars ds)) (hcs : readClock? cs = some (s, o))
    (hds : readClock? ds = some (t, o')) (hread : ReadsTime ds) : s.micros ≤ t.micros := by
  obtain ⟨p, hp, hs⟩ := exists_parts_of_readClock? hcs
  obtain ⟨q, hq, ht⟩ := exists_parts_of_readClock? hds
  exact micros_le_of_parts_le (parts_le_of_leads h hp hq (hread q hq)) hs ht

end IssueQuery.Iso
