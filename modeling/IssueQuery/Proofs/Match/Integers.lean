import IssueQuery.Proofs.Match.Equality
import IssueQuery.Proofs.Number.Integer
import IssueQuery.Proofs.Query.BareWord
import IssueQuery.Proofs.Query.Range

/-!
# Comparing reference numbers

The reference number of a record is an integer of any size, and a query may write another one with
digits of any script.  Both are kept as they are, so every test of order or equality between them is
that of integers, also where doubles no longer tell neighbours apart.
-/

namespace IssueQuery

open Outcome
open Literal (IsBareWord ofWord)
open Number (Writes)

/-! ## Written integers as operands -/

section Operands

variable {s : String} {z : Int}

/-- No name of an operator spells a number, and a written integer does in any letter case. -/
theorem Number.Writes.isBareWord (h : Writes s z) (hread : (Number.read? s).isSome) :
    IsBareWord s where
  nonempty := h.ne_nil
  chars := h.forall_mem (by decide +kernel) (by decide)
  noPair := by
    intro hpair
    have hpoint : '.' ∈ s.toList := hpair.subset List.mem_cons_self
    have hchars := h.forall_mem (p := (· ≠ '.')) (by decide +kernel) (by decide)
    exact of_decide_eq_true (hchars _ hpoint) rfl
  first := by
    intro c hc
    have hchars := h.forall_mem (p := fun c => !Operator.isSymbolChar c) (by decide +kernel)
      (by decide)
    simpa using hchars c (List.mem_of_mem_head? hc)
  valued := by
    intro op hop
    have hnames : ∀ p ∈ Operator.names, Number.read? p.1 = none := by decide +kernel
    obtain ⟨n, hn⟩ := Option.isSome_iff_exists.mp hread
    have hlower := hnames _ (Table.mem_of_lookup hop)
    rw [Number.read?_lower hn] at hlower
    cases hlower

theorem Literal.ofWord_of_writes (h : Writes s z) (hz : |z| ≤ 10 ^ 308) : ofWord s = .int z := by
  rw [ofWord, Number.read?_of_writes h hz]
  rfl

end Operands

/-! ## Tests against integers -/

/-- The tests of a number against one other. -/
inductive NumberTest where
  | equal
  | greater
  | greaterEqual
  | less
  | lessEqual
  deriving DecidableEq

namespace NumberTest

/-- How a test is written. -/
def symbol : NumberTest → String
  | equal => "="
  | greater => ">"
  | greaterEqual => ">="
  | less => "<"
  | lessEqual => "<="

/-- The relation that a test asks for. -/
def relation : NumberTest → Relation
  | equal => .equal
  | greater => .greater
  | greaterEqual => .greaterEqual
  | less => .less
  | lessEqual => .lessEqual

/-- What a test says of two integers. -/
def passes (m n : Int) : NumberTest → Bool
  | equal => m = n
  | greater => n < m
  | greaterEqual => n ≤ m
  | less => m < n
  | lessEqual => m ≤ n

/-- The filter that compares reference numbers with an integer. -/
def clause (test : NumberTest) (n : Int) : FilterClause :=
  ⟨"ref", test.relation.holds, .int n⟩

variable {kind : EntityKind} {s t : String} {m n k : Int} {now : Moment} {r : Record}

theorem isOrdering_relation {test : NumberTest} (h : test ≠ .equal) : test.relation.isOrdering := by
  cases test with
  | equal => exact absurd rfl h
  | _ => rfl

/-- Orders of integers are what relations of order ask for. -/
theorem satisfies_compare {test : NumberTest} (h : test ≠ .equal) (m n : Int) :
    Match.satisfies test.relation (compare m n) = test.passes m n := by
  cases test with
  | equal => exact absurd rfl h
  | greater => exact decide_eq_decide.mpr compare_gt_iff_gt
  | greaterEqual => exact decide_eq_decide.mpr ((not_congr compare_lt_iff_lt).trans not_lt)
  | less => exact decide_eq_decide.mpr compare_lt_iff_lt
  | lessEqual => exact decide_eq_decide.mpr ((not_congr compare_gt_iff_gt).trans not_lt)

theorem resolve_ref (hr : r.content.get "ref" = .int m) : r.resolve "ref" = .int m :=
  hr

theorem candidates_ref (hr : r.content.get "ref" = .int m) : r.candidates "ref" = [.int m] := by
  have hnone : Resolver.alternates.lookup "ref" = none := by decide
  rw [Record.candidates, Record.alternates, hnone, resolve_ref hr]
  rfl

/-- A filter on reference numbers decides as the integers do. -/
theorem verdict_clause (test : NumberTest) (hr : r.content.get "ref" = .int m) (n : Int)
    (now : Moment) : (test.clause n).verdict now r = .ok (test.passes m n) := by
  have hnumbers : Match.compareNumbers? (.int m) (.int n) = some (compare m n) :=
    Number.compare?_int m n
  apply FilterClause.verdict_of_holds
  by_cases hequal : test = .equal
  · subst hequal
    have hday : ∀ k, Match.keyword? (.int n) = some k → Match.writtenMoment? (.int m) = none := by
      intro k hk
      cases hk
    have hspecial : Match.specialWord? "ref" (.int n) = none := rfl
    have hequals : Match.equals now (.int n) (.number (.int m)) = .ok (decide (m = n)) := by
      rw [Match.equals, ← Number.same_int]
      exact Match.equalsOne_eq_sameValue hday
    unfold Match.holds
    simp only [relation, hspecial]
    rw [candidates_ref hr, Match.equalsAny_singleton]
    exact hequals
  · rw [Match.holds_of_isOrdering (isOrdering_relation hequal), resolve_ref hr,
      Match.ordered_of_compareNumbers? _ (by simp [Value.int]) hnumbers,
      satisfies_compare hequal]

theorem verdict_between (hr : r.content.get "ref" = .int m) (n k : Int) (now : Moment) :
    FilterClause.verdict ⟨"ref", Relation.between.holds, .list [.int n, .int k]⟩ now r =
      .ok (decide (n ≤ m) && decide (m ≤ k)) := by
  have hlow : Match.compareNumbers? (.int m) (.int n) = some (compare m n) :=
    Number.compare?_int m n
  have hhigh : Match.compareNumbers? (.int m) (.int k) = some (compare m k) :=
    Number.compare?_int m k
  apply FilterClause.verdict_of_holds
  have hatLeast := satisfies_compare (show NumberTest.greaterEqual ≠ .equal from nofun) m n
  have hatMost := satisfies_compare (show NumberTest.lessEqual ≠ .equal from nofun) m k
  rw [Match.holds, resolve_ref hr, Match.between, Match.within, hlow, hhigh]
  exact congrArg Except.ok (congrArg₂ and hatLeast hatMost)

/-! ## Tests in queries -/

theorem isWritten_ref (kind : EntityKind) :
    Field.IsWritten kind .number "ref" ∧ Field.canonical "ref" = "ref" :=
  Field.isWritten_of_type? (by cases kind <;> decide)

/-- A test against a written integer is read as the filter with this integer. -/
theorem readsAs_clause (kind : EntityKind) (hs : Writes s n) (hn : |n| ≤ 10 ^ 308)
    (test : NumberTest) :
    Query.ReadsAs kind (Query.filterText "ref" test.symbol s) (test.clause n) := by
  obtain ⟨hname, hcanonical⟩ := isWritten_ref kind
  have hword := hs.isBareWord (by rw [Number.read?_of_writes hs hn]; rfl)
  have hop : test.relation.holds.WrittenAs test.symbol := by
    cases test <;> exact .symbol (by decide)
  have hscalar : ¬test.relation.holds.relation.takesList := by cases test <;> decide
  have hadmits : test.relation.holds.relation.admits .number := by cases test <;> decide
  have hreads := Query.readsAs_of_checkOperand hname hop hscalar hadmits hword <| by
    intro token
    rw [Literal.ofWord_of_writes hs hn]
    simp [FilterClause.checkOperand, FilterClause.parts, Value.int, Value.toNumber?]
  rwa [hcanonical, Literal.ofWord_of_writes hs hn] at hreads

/-- A list of two written integers is read as the range between them. -/
theorem readsAs_between (kind : EntityKind) (hs : Writes s n) (hn : |n| ≤ 10 ^ 308)
    (ht : Writes t k) (hk : |k| ≤ 10 ^ 308) :
    Query.ReadsAs kind (Query.filterText "ref" "between:" ("[" ++ s ++ "," ++ t ++ "]"))
      ⟨"ref", Relation.between.holds, .list [.int n, .int k]⟩ := by
  obtain ⟨hname, hcanonical⟩ := isWritten_ref kind
  have hwords : ∀ w ∈ [s, t], IsBareWord w := by
    intro w hw
    rcases List.mem_pair.mp hw with rfl | rfl
    · exact hs.isBareWord (by rw [Number.read?_of_writes hs hn]; rfl)
    · exact ht.isBareWord (by rw [Number.read?_of_writes ht hk]; rfl)
  have hvalues : [s, t].map ofWord = [.int n, .int k] := by
    rw [List.map_cons, List.map_cons, List.map_nil, Literal.ofWord_of_writes hs hn,
      Literal.ofWord_of_writes ht hk]
  have hspelling : Query.filterText "ref" "between:" ("[" ++ s ++ "," ++ t ++ "]") =
      Query.filterText "ref" ("between" ++ ":")
        (String.ofList (Literal.bracketed ([s, t].map String.toList))) := by
    rw [← String.toList_inj, Query.toList_filterText, Query.toList_filterText]
    simp [Literal.bracketed]
  rw [hspelling]
  have hreads := Query.readsAs_bracketed_of_checkOperand hname Operator.isNamed_between rfl rfl
    (List.cons_ne_nil s [t]) (fun _ => rfl) hwords <| by
      intro token
      rw [hvalues]
      simp [FilterClause.checkOperand, FilterClause.parts, Value.int, Value.toNumber?]
  rwa [hcanonical, hvalues] at hreads

/-- Integers are compared exactly.  A written integer is read as itself, and whatever compares the
reference number of a record with it, or with two of them, decides as the integers do. -/
theorem reference_numbers_are_compared_exactly (kind : EntityKind) (s t : String) (n k : Int)
    (hs : Writes s n) (hn : |n| ≤ 10 ^ 308) (ht : Writes t k) (hk : |k| ≤ 10 ^ 308) :
    Value.toNumber? (.string s) = some (.int n) ∧
    (∀ test : NumberTest,
      Query.ReadsAs kind (Query.filterText "ref" test.symbol s) (test.clause n) ∧
      ∀ now (r : Record) m, r.content.get "ref" = .int m →
        (test.clause n).verdict now r = .ok (test.passes m n)) ∧
    Query.ReadsAs kind (Query.filterText "ref" "between:" ("[" ++ s ++ "," ++ t ++ "]"))
      ⟨"ref", Relation.between.holds, .list [.int n, .int k]⟩ ∧
    ∀ now (r : Record) m, r.content.get "ref" = .int m →
      FilterClause.verdict ⟨"ref", Relation.between.holds, .list [.int n, .int k]⟩ now r =
        .ok (decide (n ≤ m) && decide (m ≤ k)) := by
  refine ⟨?_, fun test => ⟨readsAs_clause kind hs hn test, ?_⟩,
    readsAs_between kind hs hn ht hk, ?_⟩
  · rw [Match.toNumber?_string, Number.read?_of_writes hs hn]
  · exact fun now r m hr => verdict_clause test hr n now
  · exact fun now r m hr => verdict_between hr n k now

/-- The double of this integer is that of the one below it, yet the two are told apart. -/
theorem reference_numbers_are_compared_exactly_beyond_doubles :
    Writes "+0٩007199254740993" 9007199254740993 ∧
    Double.round 9007199254740993 = Double.round 9007199254740992 ∧
    ∀ now, (NumberTest.equal.clause 9007199254740993).verdict now
      ⟨0, .object [("ref", .int 9007199254740992)]⟩ = .ok false := by
  have hwrites : Writes "+0٩007199254740993" 9007199254740993 :=
    ⟨"+", "0٩007199254740993".toList, by decide, by decide, by decide,
      List.all_eq_true.mp (by decide), by decide⟩
  have hrange : |(9007199254740993 : Int)| ≤ 10 ^ 308 := by decide +kernel
  refine ⟨hwrites, by decide +kernel, fun now => ?_⟩
  obtain ⟨-, htests, -⟩ := reference_numbers_are_compared_exactly .issue _ _ _ _ hwrites hrange
    hwrites hrange
  exact (htests .equal).2 now ⟨0, .object [("ref", .int 9007199254740992)]⟩ _ rfl

end NumberTest

end IssueQuery
