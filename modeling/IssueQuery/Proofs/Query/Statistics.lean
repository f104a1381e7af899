import IssueQuery.Proofs.FirstUse
import IssueQuery.Proofs.Query.OperatorTable
import IssueQuery.Query.Statistics
import Mathlib.Algebra.GroupWithZero.Nat
import Mathlib.Data.List.Forall2

/-!
# Statistics count exactly and do not see negation

The filters of a query are noted down one by one.  The walk keeps each part of its notes by itself:
the weights are added up, the fields enlisted, and the operators counted, so that the counts add up
to the number of filters.

The weight of a filter and the warnings about it are chosen by lists of operators.  Each of these
lists has an operator together with its opposite.  Hence everything that statistics say about the
filters, the operators aside, stays the same if some of them are replaced by opposite ones.
-/

namespace IssueQuery

/-! ## Counts of uses -/

section Counts

variable {α : Type} [DecidableEq α] {a : α} {n : Nat}

/-- The elements of a list in the order of their first places, each with the number of its
places. -/
def useCounts (as : List α) : List (α × Nat) :=
  (firstUses as).map fun a => (a, as.count a)

theorem mem_useCounts {as : List α} : (a, n) ∈ useCounts as ↔ 0 < n ∧ n = as.count a := by
  rw [useCounts, List.mem_map]
  constructor
  · rintro ⟨b, hb, hpair⟩
    cases hpair
    exact ⟨List.count_pos_iff.mpr (mem_firstUses.mp hb), rfl⟩
  · rintro ⟨hpos, rfl⟩
    exact ⟨a, mem_firstUses.mpr (List.count_pos_iff.mp hpos), rfl⟩

theorem map_fst_useCounts (as : List α) : (useCounts as).map (·.1) = firstUses as := by
  rw [useCounts, List.map_map]
  exact List.map_id _

/-- Each place of a list is counted for one element. -/
theorem sum_useCounts (as : List α) : ((useCounts as).map (·.2)).sum = as.length := by
  have hperm : ((firstUses as).flatMap fun a => as.filter (id · = a)).Perm as :=
    flatMap_filter_perm (nodup_firstUses as) fun a ha => mem_firstUses.mpr ha
  rw [← hperm.length_eq, List.length_flatMap, useCounts, List.map_map]
  refine congrArg List.sum (List.map_congr_left fun a _ => ?_)
  exact List.count_eq_length_filter

/-- A loop that adds one to the count of each element counts the places of all of them. -/
theorem foldl_alter_succ (as : List α) :
    as.foldl (fun d a => Dictionary.alter a 0 (· + 1) d) ([] : Dictionary α Nat) =
      useCounts as := by
  have hlength : ∀ (bs : List α) (k : Nat), bs.foldl (fun n _ => n + 1) k = k + bs.length := by
    intro bs
    induction bs with
    | nil => exact fun k => rfl
    | cons b bs ih =>
        intro k
        rw [List.foldl_cons, ih, List.length_cons]
        omega
  have hloop := Dictionary.foldl_alter id 0 (fun _ n => n + 1) as
  rw [List.map_id] at hloop
  refine hloop.trans (List.map_congr_left fun a _ => ?_)
  rw [hlength, Nat.zero_add, List.count_eq_length_filter]
  rfl

end Counts

/-! ## Opposite filters -/

/-- Some filters of a list are replaced by opposite ones. -/
def FilterClause.NegatesSome (filters filters' : List FilterClause) : Prop :=
  List.Forall₂ (fun c c' => c' = c ∨ c'.Opposes c) filters filters'

namespace FilterClause

variable {filters filters' : List FilterClause}

/-- What is the same for opposite filters is the same all along the filters. -/
theorem NegatesSome.map_eq {β : Type} {f : FilterClause → β} (h : NegatesSome filters filters')
    (hf : ∀ c c', c'.Opposes c → f c' = f c) : filters'.map f = filters.map f := by
  induction h with
  | nil => rfl
  | @cons c c' filters filters' hc _ ih =>
      have hfirst : f c' = f c := hc.elim (congrArg f) (hf c c')
      rw [List.map_cons, List.map_cons, hfirst, ih]

theorem NegatesSome.length_eq (h : NegatesSome filters filters') :
    filters'.length = filters.length :=
  (List.Forall₂.length_eq h).symm

end FilterClause

namespace Statistics

open FilterClause (NegatesSome)

variable {kind : EntityKind} {c c' : FilterClause} {filters filters' : List FilterClause}

theorem weightOf_opposes (kind : EntityKind) (c c' : FilterClause) (h : c'.Opposes c) :
    weightOf kind c' = weightOf kind c := by
  unfold weightOf
  dsimp only
  rw [h.field, Operator.isClosed_textual _ _ h.operator, Operator.isClosed_orderings _ _ h.operator,
    Operator.isClosed_ranges _ _ h.operator]

theorem warningsOf_opposes (kind : EntityKind) (c c' : FilterClause) (h : c'.Opposes c) :
    warningsOf kind c' = warningsOf kind c := by
  have hclosed : Operator.IsClosed ["=", "!=", "in", "not_in"] :=
    Operator.isClosed_of_rows (by decide)
  unfold warningsOf
  dsimp only
  rw [h.field, h.operand, hclosed _ _ h.operator]

/-! ## The walk along the filters -/

/-- Each part of the notes only depends on itself and on the filters. -/
theorem foldl_note (kind : EntityKind) (filters : List FilterClause) (t : Tally) :
    filters.foldl (Tally.note kind) t = {
      weight := (filters.map (weightOf kind)).foldl (fun sum w => sum.add w.size) t.weight
      fields := (filters.map (·.field)).foldl enlist t.fields
      operators := (filters.map (·.operator.spelling)).foldl
        (fun d op => Dictionary.alter op 0 (· + 1) d) t.operators
      warnings := t.warnings ++ (filters.map (warningsOf kind)).flatten } := by
  induction filters generalizing t with
  | nil => simp
  | cons c filters ih =>
      rw [List.foldl_cons, ih]
      simp [Tally.note]

theorem fields_ofQuery (q : Query) (maximum : Option Number) :
    (ofQuery q maximum).fields = firstUses (q.filters.map (·.field)) := by
  rw [← foldl_enlist]
  exact congrArg Tally.fields (foldl_note q.kind q.filters {})

theorem operators_ofQuery (q : Query) (maximum : Option Number) :
    (ofQuery q maximum).operators = useCounts (q.filters.map (·.operator.spelling)) := by
  rw [← foldl_alter_succ]
  exact congrArg Tally.operators (foldl_note q.kind q.filters {})

theorem exceedsMaximum_ofQuery (q : Query) (maximum : Option Number) :
    (ofQuery q maximum).exceedsMaximum = maximum.any fun m =>
      Number.compare? (.double (ofQuery q maximum).complexity) m == some .gt := by
  cases maximum with
  | none => rfl
  | some m => rfl

/-- Opposite filters have the same weights, one after the other, so the doubles add up to the same
sum, and they have the same fields and warnings. -/
theorem tally_of_negatesSome (h : NegatesSome filters filters') (kind : EntityKind) (t : Tally) :
    let tally := filters.foldl (Tally.note kind) t
    let tally' := filters'.foldl (Tally.note kind) t
    tally'.weight = tally.weight ∧ tally'.fields = tally.fields ∧
      tally'.warnings = tally.warnings := by
  dsimp only
  rw [foldl_note, foldl_note, h.map_eq (weightOf_opposes kind),
    h.map_eq (f := (·.field)) fun _ _ hc => hc.field, h.map_eq (warningsOf_opposes kind)]
  exact ⟨rfl, rfl, rfl⟩

/-! ## Statistics of a query -/

/-- Statistics count the filters of a query: all of them, those of each operator, and no operator
twice. -/
structure Counts (q : Query) (s : Statistics) : Prop where
  filterCount : s.filterCount = q.filters.length
  total : (s.operators.map (·.2)).sum = q.filters.length
  mem_operators_iff : ∀ spelling n, (spelling, n) ∈ s.operators ↔
    0 < n ∧ n = q.filters.countP fun c => c.operator.spelling = spelling
  nodup : (s.operators.map (·.1)).Nodup

/-- Statistics list the fields of the filters, each once, where it is used first. -/
structure ListsFields (q : Query) (s : Statistics) : Prop where
  nodup : s.fields.Nodup
  mem_iff : ∀ field, field ∈ s.fields ↔ ∃ c ∈ q.filters, c.field = field
  firstUse : s.fields.Pairwise fun f g =>
    q.filters.findIdx (fun c => c.field = f) < q.filters.findIdx (fun c => c.field = g)

theorem counts_ofQuery (q : Query) (maximum : Option Number) : Counts q (ofQuery q maximum) where
  filterCount := rfl
  total := by
    rw [operators_ofQuery, sum_useCounts, List.length_map]
  mem_operators_iff := by
    intro spelling n
    rw [operators_ofQuery, mem_useCounts, List.count, List.countP_map]
    simp [Function.comp_def, beq_eq_decide]
  nodup := by
    rw [operators_ofQuery, map_fst_useCounts]
    exact nodup_firstUses _

theorem listsFields_ofQuery (q : Query) (maximum : Option Number) :
    ListsFields q (ofQuery q maximum) where
  nodup := by
    rw [fields_ofQuery]
    exact nodup_firstUses _
  mem_iff := by
    intro field
    rw [fields_ofQuery, mem_firstUses, List.mem_map]
  firstUse := by
    have hfirst := pairwise_idxOf_firstUses (q.filters.map (·.field))
    have hplace : ∀ f,
        (q.filters.map (·.field)).idxOf f = q.filters.findIdx fun c => c.field = f := by
      intro f
      rw [List.idxOf, List.findIdx_map]
      rfl
    simp only [hplace] at hfirst
    rw [fields_ofQuery]
    exact hfirst

/-- Statistics count the filters of a query and list their fields.  If some of the filters are
replaced by opposite ones, which every filter has, they say the same but for the operators. -/
theorem statistics_ignore_negation (q : Query) (maximum : Option Number) :
    Counts q (ofQuery q maximum) ∧ ListsFields q (ofQuery q maximum) ∧
    (∀ c : FilterClause, ∃ c' : FilterClause, c'.Opposes c) ∧
    ∀ filters', NegatesSome q.filters filters' →
      let s := ofQuery q maximum
      let s' := ofQuery { q with filters := filters' } maximum
      s'.filterCount = s.filterCount ∧ s'.fields = s.fields ∧ s'.complexity = s.complexity ∧
        s'.exceedsMaximum = s.exceedsMaximum ∧ s'.warnings = s.warnings := by
  refine ⟨counts_ofQuery q maximum, listsFields_ofQuery q maximum,
    fun c => ⟨c.negate, c.opposes_negate⟩, ?_⟩
  intro filters' h s s'
  obtain ⟨hweight, hfields, hwarnings⟩ := tally_of_negatesSome h q.kind {}
  have hcomplexity : s'.complexity = s.complexity := by
    show complexityOf { q with filters := filters' } _ = complexityOf q _
    rw [hweight]
    unfold complexityOf
    dsimp only
    rw [h.length_eq]
  have hexceeds : s'.exceedsMaximum = s.exceedsMaximum := by
    rw [exceedsMaximum_ofQuery, exceedsMaximum_ofQuery]
    exact congrArg (fun d => maximum.any fun m => Number.compare? (.double d) m == some .gt)
      hcomplexity
  exact ⟨h.length_eq, hfields, hcomplexity, hexceeds, hwarnings⟩

/-- A search for a word weighs as much as one for its absence, and a status that no tracker knows
is warned about in both. -/
theorem statistics_ignore_negation_subject :
    let q : Query := ⟨.issue, [⟨"subject", Relation.contains.holds, .string "login"⟩,
      ⟨"status", Relation.equal.holds, .string "odd"⟩], .all, {},
      "subject:contains:login status:odd"⟩
    let q' : Query := { q with filters := [⟨"subject", Relation.contains.fails, .string "login"⟩,
      ⟨"status", Relation.equal.fails, .string "odd"⟩] }
    (ofQuery q' none).complexity = (ofQuery q none).complexity ∧
      (ofQuery q' none).warnings = (ofQuery q none).warnings := by
  intro q q'
  have hnegates : NegatesSome q.filters q'.filters :=
    .cons (.inr ⟨rfl, rfl, rfl⟩) (.cons (.inr ⟨rfl, rfl, rfl⟩) .nil)
  obtain ⟨-, -, -, hall⟩ := statistics_ignore_negation q none
  obtain ⟨-, -, hcomplexity, -, hwarnings⟩ := hall q'.filters hnegates
  exact ⟨hcomplexity, hwarnings⟩

end Statistics

end IssueQuery
