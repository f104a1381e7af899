import IssueQuery.Proofs.Query.FilterPart

/-!
# The clause part of a query

The clauses for order, grouping and limit as lists of tokens, and the proof that the reader of the
clauses accepts exactly the sequences in which each kind of clause occurs at most once.  What it
keeps of them does not depend on the sequence.

A direction behind `ORDER BY` may be left out.  The reader finds out by looking one token ahead,
which is sound because a clause is followed by the keyword of another one or by nothing.
-/

namespace IssueQuery

namespace Query

open Outcome

/-! ## Written clauses -/

/-- A clause behind the filters. -/
inductive Clause where
  | order (o : SortOrder)
  | group (field : String)
  | limit (n : Nat)

namespace Clause

def kind : Clause → ClauseKind
  | order _ => .order
  | group _ => .group
  | limit _ => .limit

end Clause

/-- A text writes `n` with decimal digits of any script, behind a plus sign or not. -/
def WritesNumber (s : String) (n : Nat) : Prop :=
  ∃ digits : List Char, (s.toList = digits ∨ s.toList = '+' :: digits) ∧
    digits ≠ [] ∧ (∀ c ∈ digits, Text.isDecimal c) ∧ Text.decimalValue digits = n

/-- The ways in which a clause is written for records of a kind. -/
inductive Clause.Written (kind : EntityKind) : Clause → List Token → Prop where
  /-- `ORDER BY field` -/
  | order {keyword by' field : Token} :
      keyword.kind = .clause .order → by'.kind = .by → field.kind = .word →
      Field.isKnown kind (Field.canonical field.text) →
      Written kind (.order ⟨Field.canonical field.text, .ascending⟩) [keyword, by', field]
  /-- `ORDER BY field ASC` or `ORDER BY field DESC` -/
  | directed {keyword by' field word : Token} {direction : Direction} :
      keyword.kind = .clause .order → by'.kind = .by → field.kind = .word →
      Field.isKnown kind (Field.canonical field.text) →
      word.kind = .word → Text.upper word.text = direction.keyword →
      Written kind (.order ⟨Field.canonical field.text, direction⟩) [keyword, by', field, word]
  /-- `GROUP BY field` -/
  | group {keyword by' field : Token} :
      keyword.kind = .clause .group → by'.kind = .by → field.kind = .word →
      Field.isKnown kind (Field.canonical field.text) →
      Written kind (.group (Field.canonical field.text)) [keyword, by', field]
  /-- `LIMIT n` -/
  | limit {keyword number : Token} {n : Nat} :
      keyword.kind = .clause .limit → number.kind = .word →
      WritesNumber number.text n → 0 < n →
      Written kind (.limit n) [keyword, number]

/-- Clauses that are written one behind the other. -/
inductive ClausePart (kind : EntityKind) : List Clause → List Token → Prop where
  | nil : ClausePart kind [] []
  | cons {clause : Clause} {clauses : List Clause} {tokens rest : List Token} :
      clause.Written kind tokens → ClausePart kind clauses rest →
      ClausePart kind (clause :: clauses) (tokens ++ rest)

theorem Clause.Written.exists_keyword {kind : EntityKind} {clause : Clause} {tokens : List Token}
    (h : clause.Written kind tokens) :
    ∃ keyword behind, tokens = keyword :: behind ∧ keyword.kind = .clause clause.kind := by
  cases h with
  | order hkeyword => exact ⟨_, _, rfl, hkeyword⟩
  | directed hkeyword => exact ⟨_, _, rfl, hkeyword⟩
  | group hkeyword => exact ⟨_, _, rfl, hkeyword⟩
  | limit hkeyword => exact ⟨_, _, rfl, hkeyword⟩

theorem ClausePart.beginsClause {kind : EntityKind} {clauses : List Clause} {tokens : List Token}
    (h : ClausePart kind clauses tokens) : BeginsClause tokens := by
  cases h with
  | nil => simp [BeginsClause]
  | cons hclause _ =>
      obtain ⟨keyword, behind, rfl, hkind⟩ := hclause.exists_keyword
      intro t ht
      cases ht
      exact ⟨_, hkind⟩

end Query

/-! ## What a trailer holds -/

namespace Trailer

open Query (Clause)

/-- A trailer holds a clause. -/
def Holds (t : Trailer) : Clause → Prop
  | .order o => t.order = some o
  | .group field => t.group = some field
  | .limit n => t.limit = some n

/-- A trailer with one more clause. -/
def set (t : Trailer) : Clause → Trailer
  | .order o => { t with order := some o }
  | .group field => { t with group := some field }
  | .limit n => { t with limit := some n }

/-- A trailer is known by the clauses that it holds. -/
theorem ext_holds {t t' : Trailer} (h : ∀ c, t.Holds c ↔ t'.Holds c) : t = t' := by
  obtain ⟨order, limit, group⟩ := t
  obtain ⟨order', limit', group'⟩ := t'
  have horder : order = order' := Option.ext fun o => h (.order o)
  have hlimit : limit = limit' := Option.ext fun n => h (.limit n)
  have hgroup : group = group' := Option.ext fun field => h (.group field)
  rw [horder, hlimit, hgroup]

theorem has_set (t : Trailer) (c : Clause) (k : ClauseKind) :
    (t.set c).has k = (t.has k || decide (k = c.kind)) := by
  cases c <;> cases k <;> simp [set, has, Clause.kind]

/-- A clause of a new kind leaves the others alone. -/
theorem holds_set {t : Trailer} {c d : Clause} (h : t.has c.kind = false) :
    (t.set c).Holds d ↔ t.Holds d ∨ d = c := by
  cases c with
  | order o =>
      have hnone : t.order = none := by simpa [has, Clause.kind] using h
      cases d <;> simp [set, Holds, hnone, eq_comm]
  | group field =>
      have hnone : t.group = none := by simpa [has, Clause.kind] using h
      cases d <;> simp [set, Holds, hnone, eq_comm]
  | limit n =>
      have hnone : t.limit = none := by simpa [has, Clause.kind] using h
      cases d <;> simp [set, Holds, hnone, eq_comm]

/-- Behind a clause, the clauses of other kinds are still new. -/
theorem has_set_of_nodup {clauses : List Clause} {t : Trailer} {c d : Clause}
    (hnodup : ((c :: clauses).map Clause.kind).Nodup)
    (hnew : ∀ e ∈ c :: clauses, t.has e.kind = false) (hd : d ∈ clauses) :
    (t.set c).has d.kind = false := by
  rw [List.map_cons, List.nodup_cons] at hnodup
  have hkind : d.kind ≠ c.kind := fun heq => hnodup.1 (heq ▸ List.mem_map_of_mem hd)
  rw [has_set, hnew d (List.mem_cons_of_mem c hd)]
  simpa using hkind

/-- Clauses of different kinds that a trailer does not hold yet are all held in the end, in
whatever sequence they come. -/
theorem holds_foldl_set {clauses : List Clause} {t : Trailer} {d : Clause}
    (hnodup : (clauses.map Clause.kind).Nodup) (hnew : ∀ c ∈ clauses, t.has c.kind = false) :
    (clauses.foldl set t).Holds d ↔ t.Holds d ∨ d ∈ clauses := by
  induction clauses generalizing t with
  | nil => simp
  | cons c clauses ih =>
      rw [List.foldl_cons, ih hnodup.of_cons fun e he => has_set_of_nodup hnodup hnew he,
        holds_set (hnew c (by simp)), or_assoc, List.mem_cons]

end Trailer

namespace Query

open Outcome

/-! ## The parts of a clause -/

theorem not_isDecimal_of_isSign {c : Char} (h : c = '-' ∨ c = '+') : Text.isDecimal c = false := by
  rcases h with rfl | rfl
  · decide
  · decide

/-- Taking a sign off the front leaves digits as they are. -/
theorem takeSign_of_isDecimal {digits : List Char} (h : ∀ c ∈ digits, Text.isDecimal c) :
    Number.takeSign digits = (false, digits) := by
  unfold Number.takeSign
  split
  · have := h '-' (by simp)
    rw [not_isDecimal_of_isSign (Or.inl rfl)] at this
    cases this
  · have := h '+' (by simp)
    rw [not_isDecimal_of_isSign (Or.inr rfl)] at this
    cases this
  · rfl

theorem takeSign_cases (cs : List Char) :
    (∃ digits, Number.takeSign cs = (true, digits)) ∨
      ∃ digits, (cs = digits ∨ cs = '+' :: digits) ∧ Number.takeSign cs = (false, digits) := by
  unfold Number.takeSign
  split
  · exact Or.inl ⟨_, rfl⟩
  · exact Or.inr ⟨_, Or.inr rfl, rfl⟩
  · exact Or.inr ⟨_, Or.inl rfl, rfl⟩

/-- The positive integers are read from the texts that write them. -/
theorem readInteger?_eq_some_iff {s : String} {n : Nat} (hpos : 0 < n) :
    readInteger? s = some (Int.ofNat n) ↔ WritesNumber s n := by
  constructor
  · intro h
    rcases takeSign_cases s.toList with ⟨digits, hsign⟩ | ⟨digits, hs, hsign⟩
    · simp [readInteger?, hsign, Number.signed] at h
      omega
    · simp only [readInteger?, hsign, Number.signed, Option.ite_none_right_eq_some,
        Bool.and_eq_true, Bool.not_eq_true', List.isEmpty_eq_false_iff, List.all_eq_true,
        Bool.false_eq_true, if_false, Option.some.injEq] at h
      exact ⟨digits, hs, h.1.1, h.1.2, Int.ofNat.inj h.2⟩
  · rintro ⟨digits, hs, hne, hdigits, rfl⟩
    have hsign : Number.takeSign s.toList = (false, digits) := by
      rcases hs with hs | hs
      · rw [hs]
        exact takeSign_of_isDecimal hdigits
      · rw [hs]
        rfl
    simp [readInteger?, hsign, hne, List.all_eq_true.mpr hdigits, Number.signed]

theorem readLimit_eq_ok_iff {keyword : Token} {tokens rest : List Token} {n : Nat} :
    readLimit keyword tokens = .ok (n, rest) ↔
      ∃ number, tokens = number :: rest ∧ number.kind = .word ∧
        WritesNumber number.text n ∧ 0 < n := by
  constructor
  · intro h
    unfold readLimit at h
    split at h
    · rename_i number tokens'
      split at h
      · rename_i hkind
        split at h
        · rename_i m hm
          cases h
          exact ⟨number, rfl, hkind, (readInteger?_eq_some_iff (Nat.succ_pos m)).mp hm,
            Nat.succ_pos m⟩
        · cases h
      · cases h
    · cases h
  · rintro ⟨number, rfl, hkind, hwrites, hpos⟩
    obtain ⟨m, rfl⟩ := Nat.exists_eq_succ_of_ne_zero (Nat.pos_iff_ne_zero.mp hpos)
    have hread := (readInteger?_eq_some_iff hpos).mpr hwrites
    simp only [readLimit, hkind, if_true, hread]

theorem readBy_eq_ok_iff {keyword : Token} {tokens rest : List Token} :
    readBy keyword tokens = .ok rest ↔ ∃ by', tokens = by' :: rest ∧ by'.kind = .by := by
  unfold readBy
  constructor
  · intro h
    split at h
    · cases h
      exact ⟨_, rfl, rfl⟩
    · cases h
  · rintro ⟨⟨kind, text, position⟩, rfl, hkind⟩
    cases hkind
    rfl

theorem readField_eq_ok_iff {kind : EntityKind} {clause : ClauseKind} {tokens rest : List Token}
    {field : String} :
    readField kind clause tokens = .ok (field, rest) ↔
      ∃ name, tokens = name :: rest ∧ name.kind = .word ∧
        Field.isKnown kind (Field.canonical name.text) ∧ field = Field.canonical name.text := by
  constructor
  · intro h
    unfold readField at h
    split at h
    · cases h
    · rename_i name tokens'
      split at h
      · rename_i hkind
        dsimp only at h
        split at h
        · rename_i hknown
          cases h
          exact ⟨name, rfl, hkind, hknown, rfl⟩
        · cases h
      · cases h
  · rintro ⟨name, rfl, hkind, hknown, rfl⟩
    simp [readField, hkind, hknown]

/-- Without a direction, none is taken off; this is the case in front of another clause. -/
theorem readDirection_of_beginsClause {rest : List Token} (h : BeginsClause rest) :
    readDirection rest = (.ascending, rest) := by
  cases rest with
  | nil => rfl
  | cons token tokens =>
      obtain ⟨clause, hkind⟩ := h token rfl
      simp [readDirection, hkind]

theorem ofWord?_eq_some_iff {s : String} {direction : Direction} :
    Direction.ofWord? s = some direction ↔ Text.upper s = direction.keyword := by
  unfold Direction.ofWord?
  by_cases hasc : Text.upper s = "ASC"
  · rw [hasc]
    cases direction <;> decide
  · by_cases hdesc : Text.upper s = "DESC"
    · rw [hdesc]
      cases direction <;> decide
    · cases direction <;> simp [List.lookup_cons, hasc, hdesc, Direction.keyword, beq_false_of_ne]

theorem readDirection_word {word : Token} {rest : List Token} {direction : Direction}
    (hkind : word.kind = .word) (hword : Text.upper word.text = direction.keyword) :
    readDirection (word :: rest) = (direction, rest) := by
  simp [readDirection, hkind, ofWord?_eq_some_iff.mpr hword]

theorem readDirection_cases (tokens : List Token) :
    readDirection tokens = (.ascending, tokens) ∨
      ∃ word rest direction, tokens = word :: rest ∧ word.kind = .word ∧
        Text.upper word.text = direction.keyword ∧
        readDirection tokens = (direction, rest) := by
  unfold readDirection
  split
  · split
    · rename_i word rest _ _ direction hkind hword
      exact Or.inr ⟨word, rest, direction, rfl, hkind, ofWord?_eq_some_iff.mp hword, rfl⟩
    · exact Or.inl rfl
  · exact Or.inl rfl

/-! ## Reading clauses -/

/-- What is read behind a keyword is a clause of its kind that was not there before. -/
theorem exists_written_of_readClause {kind : EntityKind} {t t' : Trailer} {k : ClauseKind}
    {keyword : Token} {tokens rest : List Token} (hkeyword : keyword.kind = .clause k)
    (h : readClause kind t k keyword tokens = .ok (t', rest)) :
    t.has k = false ∧ ∃ clause behind, clause.kind = k ∧
      clause.Written kind (keyword :: behind) ∧ tokens = behind ++ rest ∧ t' = t.set clause := by
  unfold readClause at h
  split at h
  · cases h
  · rename_i hnew
    refine ⟨by simpa using hnew, ?_⟩
    cases k with
    | order =>
        obtain ⟨afterBy, hby, hafterBy⟩ := bind_eq_ok_iff.mp h
        obtain ⟨⟨field, afterField⟩, hfield, hafterField⟩ := bind_eq_ok_iff.mp hafterBy
        obtain ⟨by', rfl, hbyKind⟩ := readBy_eq_ok_iff.mp hby
        obtain ⟨name, rfl, hname, hknown, rfl⟩ := readField_eq_ok_iff.mp hfield
        rcases readDirection_cases afterField with
          hnone | ⟨word, afterWord, direction, rfl, hword, hdirection, hsome⟩
        · simp only [hnone] at hafterField
          cases hafterField
          exact ⟨_, _, rfl, .order hkeyword hbyKind hname hknown, rfl, rfl⟩
        · simp only [hsome] at hafterField
          cases hafterField
          exact ⟨_, _, rfl, .directed hkeyword hbyKind hname hknown hword hdirection, rfl, rfl⟩
    | group =>
        obtain ⟨afterBy, hby, hafterBy⟩ := bind_eq_ok_iff.mp h
        obtain ⟨⟨field, afterField⟩, hfield, hafterField⟩ := bind_eq_ok_iff.mp hafterBy
        obtain ⟨by', rfl, hbyKind⟩ := readBy_eq_ok_iff.mp hby
        obtain ⟨name, rfl, hname, hknown, rfl⟩ := readField_eq_ok_iff.mp hfield
        cases hafterField
        exact ⟨_, _, rfl, .group hkeyword hbyKind hname hknown, rfl, rfl⟩
    | limit =>
        obtain ⟨⟨n, afterNumber⟩, hlimit, hafterNumber⟩ := bind_eq_ok_iff.mp h
        obtain ⟨number, rfl, hnumber, hwrites, hpos⟩ := readLimit_eq_ok_iff.mp hlimit
        cases hafterNumber
        exact ⟨_, _, rfl, .limit hkeyword hnumber hwrites hpos, rfl, rfl⟩

/-- A written clause is read if its kind is new and another clause or nothing follows it. -/
theorem readClause_of_written {kind : EntityKind} {t : Trailer} {clause : Clause}
    {keyword : Token} {behind rest : List Token}
    (h : clause.Written kind (keyword :: behind)) (hnew : t.has clause.kind = false)
    (hrest : BeginsClause rest) :
    readClause kind t clause.kind keyword (behind ++ rest) = .ok (t.set clause, rest) := by
  have hby : ∀ {by' : Token} {tokens : List Token}, by'.kind = .by →
      readBy keyword (by' :: tokens) = .ok tokens := fun hkind =>
    readBy_eq_ok_iff.mpr ⟨_, rfl, hkind⟩
  have hfield : ∀ {k : ClauseKind} {name : Token} {tokens : List Token}, name.kind = .word →
      Field.isKnown kind (Field.canonical name.text) →
      readField kind k (name :: tokens) = .ok (Field.canonical name.text, tokens) :=
    fun hkind hknown => readField_eq_ok_iff.mpr ⟨_, rfl, hkind, hknown, rfl⟩
  cases h with
  | order hkeyword hbyKind hname hknown =>
      simp only [Clause.kind] at hnew ⊢
      simp [readClause, hnew, hby hbyKind, hfield hname hknown, ok_bind,
        readDirection_of_beginsClause hrest, Trailer.set, pure, Except.pure]
  | directed hkeyword hbyKind hname hknown hword hdirection =>
      simp only [Clause.kind] at hnew ⊢
      simp [readClause, hnew, hby hbyKind, hfield hname hknown, ok_bind,
        readDirection_word hword hdirection, Trailer.set, pure, Except.pure]
  | group hkeyword hbyKind hname hknown =>
      simp only [Clause.kind] at hnew ⊢
      simp [readClause, hnew, hby hbyKind, hfield hname hknown, ok_bind,
        Trailer.set, pure, Except.pure]
  | limit hkeyword hnumber hwrites hpos =>
      simp only [Clause.kind] at hnew ⊢
      have hlimit : readLimit keyword (_ :: rest) = .ok (_, rest) :=
        readLimit_eq_ok_iff.mpr ⟨_, rfl, hnumber, hwrites, hpos⟩
      simp [readClause, hnew, hlimit, ok_bind, Trailer.set, pure, Except.pure]

theorem readTrailer_nil (kind : EntityKind) (t : Trailer) : readTrailer kind t [] = .ok t := by
  rw [readTrailer]

theorem readTrailer_clause {kind : EntityKind} {t : Trailer} {token : Token} {tokens : List Token}
    {k : ClauseKind} (hkind : token.kind = .clause k) :
    readTrailer kind t (token :: tokens) =
      readClause kind t k token tokens >>= fun p => readTrailer kind p.1 p.2 := by
  rw [readTrailer]
  split
  · rename_i k' hk'
    obtain rfl : k' = k := by simpa [hkind] using hk'.symm
    split
    · rename_i e he
      rw [he]
      rfl
    · rename_i t' rest hok
      show readTrailer kind t' rest = _
      rw [hok, ok_bind]
  all_goals simp_all

/-- Only a clause can stand at the beginning of what the reader of the clauses accepts. -/
theorem beginsClause_of_readTrailer {kind : EntityKind} {t t' : Trailer} {tokens : List Token}
    (h : readTrailer kind t tokens = .ok t') : BeginsClause tokens := by
  intro token htoken
  cases tokens with
  | nil => cases htoken
  | cons head tokens =>
      cases htoken
      rw [readTrailer] at h
      split at h
      · rename_i k hkind
        exact ⟨k, hkind⟩
      all_goals first
        | cases h
        | (unfold strayToken at h; split at h <;> cases h)

/-- What the reader of the clauses accepts are written clauses of kinds that are new, each of which
it puts into the trailer. -/
theorem exists_clausePart_of_readTrailer {kind : EntityKind} {t t' : Trailer}
    {tokens : List Token} (h : readTrailer kind t tokens = .ok t') :
    ∃ clauses, ClausePart kind clauses tokens ∧ (clauses.map Clause.kind).Nodup ∧
      (∀ c ∈ clauses, t.has c.kind = false) ∧ t' = clauses.foldl Trailer.set t := by
  induction hn : tokens.length using Nat.strongRecOn generalizing t tokens with
  | _ n ih =>
      cases tokens with
      | nil =>
          rw [readTrailer_nil] at h
          cases h
          exact ⟨[], .nil, by simp, by simp, rfl⟩
      | cons keyword tokens =>
          obtain ⟨k, hkind⟩ := beginsClause_of_readTrailer h keyword rfl
          rw [readTrailer_clause hkind] at h
          obtain ⟨⟨t₁, rest⟩, hread, hrest⟩ := bind_eq_ok_iff.mp h
          obtain ⟨hnew, clause, behind, rfl, hwritten, rfl, rfl⟩ :=
            exists_written_of_readClause hkind hread
          have hshorter : rest.length < n := by
            rw [← hn, List.length_cons, List.length_append]
            omega
          obtain ⟨clauses, hpart, hnodup, hfree, htrailer⟩ := ih _ hshorter hrest rfl
          have hother : ∀ c ∈ clauses, t.has c.kind = false ∧ c.kind ≠ clause.kind := by
            intro c hc
            have := hfree c hc
            rw [Trailer.has_set, Bool.or_eq_false_iff] at this
            exact ⟨this.1, of_decide_eq_false this.2⟩
          refine ⟨clause :: clauses, .cons hwritten hpart, ?_, ?_, htrailer⟩
          · rw [List.map_cons, List.nodup_cons]
            refine ⟨?_, hnodup⟩
            intro hmem
            obtain ⟨c, hc, hck⟩ := List.mem_map.mp hmem
            exact (hother c hc).2 hck
          · intro c hc
            rcases List.mem_cons.mp hc with rfl | hc
            · exact hnew
            · exact (hother c hc).1

/-- The reader of the clauses accepts all written clauses of different kinds that are new. -/
theorem readTrailer_of_clausePart {kind : EntityKind} {clauses : List Clause}
    {tokens : List Token} (h : ClausePart kind clauses tokens) {t : Trailer}
    (hnodup : (clauses.map Clause.kind).Nodup) (hnew : ∀ c ∈ clauses, t.has c.kind = false) :
    readTrailer kind t tokens = .ok (clauses.foldl Trailer.set t) := by
  induction h generalizing t with
  | nil => exact readTrailer_nil kind t
  | @cons clause clauses tokens rest hwritten hpart ih =>
      obtain ⟨keyword, behind, rfl, hkeyword⟩ := hwritten.exists_keyword
      have hread := readClause_of_written hwritten (hnew clause (by simp)) hpart.beginsClause
      rw [List.cons_append, readTrailer_clause hkeyword, hread, ok_bind]
      exact ih hnodup.of_cons fun c hc => Trailer.has_set_of_nodup hnodup hnew hc

end Query

end IssueQuery
