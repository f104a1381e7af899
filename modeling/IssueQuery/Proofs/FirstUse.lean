import IssueQuery.Dictionary
import Mathlib.Data.List.Induction
import Mathlib.Data.List.Nodup
import Mathlib.Data.List.Perm.Basic

/-!
# First uses

The elements of a list without repetition, in the order in which they first appear.  This is what a
loop gathers that enlists one element after the other.  A loop that files elements in a dictionary
gives each key of a first use the values of all elements with this key, in their order.
-/

namespace IssueQuery

section FirstUses

variable {α : Type} [DecidableEq α]

/-- The elements of a list without repetition, in the order of their first places. -/
def firstUses : List α → List α
  | [] => []
  | a :: as => a :: (firstUses as).filter (· ≠ a)

theorem mem_firstUses {a : α} {as : List α} : a ∈ firstUses as ↔ a ∈ as := by
  induction as with
  | nil => rfl
  | cons b as ih =>
      rw [firstUses, List.mem_cons, List.mem_cons, List.mem_filter, ih, decide_eq_true_eq]
      by_cases hab : a = b
      · simp [hab]
      · simp [hab]

theorem nodup_firstUses (as : List α) : (firstUses as).Nodup := by
  induction as with
  | nil => exact List.nodup_nil
  | cons a as ih =>
      rw [firstUses, List.nodup_cons]
      exact ⟨by simp, ih.filter _⟩

/-- What comes earlier among the first uses is first met earlier. -/
theorem pairwise_idxOf_firstUses (as : List α) :
    (firstUses as).Pairwise fun a b => as.idxOf a < as.idxOf b := by
  induction as with
  | nil => exact .nil
  | cons a as ih =>
      have hne : ∀ b ∈ (firstUses as).filter (· ≠ a), (a :: as).idxOf b = as.idxOf b + 1 := by
        intro b hb
        have hba : b ≠ a := of_decide_eq_true (List.mem_filter.mp hb).2
        rw [List.idxOf_cons, beq_false_of_ne hba.symm, cond_false]
      rw [firstUses, List.pairwise_cons]
      constructor
      · intro b hb
        rw [hne b hb, List.idxOf_cons_self]
        exact Nat.succ_pos _
      · refine (ih.filter _).imp_of_mem ?_
        intro b c hb hc hbc
        rw [hne b hb, hne c hc]
        exact Nat.succ_lt_succ hbc

/-- An element at the end is a first use if it has not been met before. -/
theorem firstUses_concat (as : List α) (a : α) :
    firstUses (as ++ [a]) = enlist (firstUses as) a := by
  induction as with
  | nil => rfl
  | cons b as ih =>
      rw [List.cons_append, firstUses, ih, enlist, enlist, firstUses]
      by_cases hb : a = b
      · subst hb
        by_cases hmem : a ∈ firstUses as <;> simp [hmem]
      · by_cases hmem : a ∈ firstUses as <;> simp [hb, hmem]

/-- A loop that enlists the elements of a list gathers their first uses. -/
theorem foldl_enlist (as : List α) : as.foldl enlist [] = firstUses as := by
  induction as using List.reverseRecOn with
  | nil => rfl
  | append_singleton as a ih => rw [List.foldl_concat, ih, firstUses_concat]

/-- Taken label by label, the elements of a list are the same ones in another order. -/
theorem flatMap_filter_perm {β : Type} {f : β → α} {labels : List α} {bs : List β}
    (hnodup : labels.Nodup) (hall : ∀ b ∈ bs, f b ∈ labels) :
    (labels.flatMap fun a => bs.filter (f · = a)).Perm bs := by
  induction labels generalizing bs with
  | nil =>
      rw [List.eq_nil_iff_forall_not_mem.mpr fun b hb => List.not_mem_nil (hall b hb)]
      exact .nil
  | cons a labels ih =>
      obtain ⟨ha, hnodup⟩ := List.nodup_cons.mp hnodup
      -- The elements with other labels are split by the labels behind `a`.
      have hother : ∀ b ∈ bs.filter (f · ≠ a), f b ∈ labels := by
        intro b hb
        obtain ⟨hb, hne⟩ := List.mem_filter.mp hb
        exact (List.mem_cons.mp (hall b hb)).resolve_left (of_decide_eq_true hne)
      have hsame : (labels.flatMap fun c => (bs.filter (f · ≠ a)).filter (f · = c)) =
          labels.flatMap fun c => bs.filter (f · = c) := by
        refine List.flatMap_congr fun c hc => ?_
        rw [List.filter_filter]
        refine List.filter_congr fun b _ => ?_
        by_cases hb : f b = c
        · have hca : c ≠ a := fun h => ha (h ▸ hc)
          simp [hb, hca]
        · simp [hb]
      have hrest := ih hnodup hother
      rw [hsame] at hrest
      rw [List.flatMap_cons]
      refine (hrest.append_left _).trans ?_
      simpa using List.filter_append_perm (f · = a) bs

end FirstUses

/-! ## Filing in a dictionary -/

namespace Dictionary

variable {α β γ : Type} [DecidableEq α]

theorem alter_map_of_mem {keys : List α} {key : α} (value : α → β) (initial : β) (change : β → β)
    (hnodup : keys.Nodup) (hkey : key ∈ keys) :
    alter key initial change (keys.map fun k => (k, value k)) =
      keys.map fun k => (k, if k = key then change (value k) else value k) := by
  induction keys with
  | nil => cases hkey
  | cons k keys ih =>
      obtain ⟨hk, hnodup⟩ := List.nodup_cons.mp hnodup
      rw [List.map_cons, alter, List.map_cons]
      by_cases heq : k = key
      · subst heq
        rw [if_pos rfl, if_pos rfl]
        refine congrArg _ (List.map_congr_left fun k' hk' => ?_)
        rw [if_neg fun (h : k' = k) => hk (h ▸ hk')]
      · rw [if_neg heq, if_neg heq, ih hnodup ((List.mem_cons.mp hkey).resolve_left (Ne.symm heq))]

theorem alter_map_of_not_mem {keys : List α} {key : α} (value : α → β) (initial : β)
    (change : β → β) (hkey : key ∉ keys) :
    alter key initial change (keys.map fun k => (k, value k)) =
      (keys.map fun k => (k, value k)) ++ [(key, change initial)] := by
  induction keys with
  | nil => rfl
  | cons k keys ih =>
      obtain ⟨hk, hkeys⟩ := not_or.mp (mt List.mem_cons.mpr hkey)
      rw [List.map_cons, alter, if_neg (Ne.symm hk), ih hkeys, List.cons_append]

/-- A loop that changes the value of the key of one element after the other gives each key that it
meets the changes of the elements with this key. -/
theorem foldl_alter (key : γ → α) (initial : β) (change : γ → β → β) (cs : List γ) :
    cs.foldl (fun d c => alter (key c) initial (change c) d) ([] : Dictionary α β) =
      (firstUses (cs.map key)).map fun k =>
        (k, (cs.filter (key · = k)).foldl (fun b c => change c b) initial) := by
  induction cs using List.reverseRecOn with
  | nil => rfl
  | append_singleton cs c ih =>
      have hvalue : ∀ k, ((cs ++ [c]).filter (key · = k)).foldl (fun b c => change c b) initial =
          if k = key c then
            change c ((cs.filter (key · = k)).foldl (fun b c => change c b) initial)
          else (cs.filter (key · = k)).foldl (fun b c => change c b) initial := by
        intro k
        by_cases hk : k = key c
        · simp [hk, List.filter_append, List.foldl_append]
        · simp [hk, Ne.symm hk, List.filter_append]
      rw [List.foldl_concat, ih, List.map_append, List.map_singleton, firstUses_concat, enlist]
      simp only [hvalue]
      split
      · rename_i hmem
        exact alter_map_of_mem _ initial (change c) (nodup_firstUses _) hmem
      · rename_i hmem
        rw [alter_map_of_not_mem _ initial (change c) hmem, List.map_append, List.map_singleton,
          if_pos rfl]
        have hnone : cs.filter (key · = key c) = [] := by
          rw [List.filter_eq_nil_iff]
          intro d hd heq
          refine hmem (mem_firstUses.mpr ?_)
          rw [← of_decide_eq_true heq]
          exact List.mem_map_of_mem hd
        rw [hnone]
        refine congrArg (· ++ _) (List.map_congr_left fun k hk => ?_)
        rw [if_neg fun (h : k = key c) => hmem (h ▸ hk)]

end Dictionary

end IssueQuery
