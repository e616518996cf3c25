import Mathlib

/-!
Sorting by rank: the result ascends, and entries of one rank keep their order.
-/
namespace RecurringPayments.StableSort

variable {α β : Type} [LinearOrder β] {le : α → α → Bool} {rank : α → β} {l : List α}

theorem mergeSort_eq (h : ∀ a ∈ l, ∀ b ∈ l, le a b = decide (rank a ≤ rank b)) :
    l.mergeSort le = l.mergeSort fun a b => decide (rank a ≤ rank b) := by
  have mapped := @List.map_mergeSort _ _ le (fun a b => decide (rank a ≤ rank b)) id l h
  rwa [List.map_id, List.map_id] at mapped

theorem rank_trans (a b c : α) (h : decide (rank a ≤ rank b) = true)
    (h' : decide (rank b ≤ rank c) = true) : decide (rank a ≤ rank c) = true := by
  rw [decide_eq_true_iff] at h h' ⊢
  exact h.trans h'

theorem rank_total (a b : α) : (decide (rank a ≤ rank b) || decide (rank b ≤ rank a)) = true := by
  rw [Bool.or_eq_true, decide_eq_true_iff, decide_eq_true_iff]
  exact le_total _ _

/-- A sorted list is known once the entries of each rank are. -/
theorem eq_of_filter_rank {l₁ l₂ : List α} (h₁ : l₁.Pairwise fun a b => rank a ≤ rank b)
    (h₂ : l₂.Pairwise fun a b => rank a ≤ rank b)
    (same : ∀ r, l₁.filter (fun a => rank a = r) = l₂.filter fun a => rank a = r) : l₁ = l₂ := by
  have listed {l l' : List α} (same : ∀ r, l.filter (fun a => rank a = r) =
      l'.filter fun a => rank a = r) {a : α} (ha : a ∈ l) : a ∈ l' := by
    have own : a ∈ l.filter fun b => rank b = rank a := List.mem_filter.mpr ⟨ha, by simp⟩
    rw [same] at own
    exact (List.mem_filter.mp own).1
  induction l₁ generalizing l₂ with
  | nil =>
    refine (List.eq_nil_iff_forall_not_mem.mpr fun b hb => ?_).symm
    exact List.not_mem_nil (listed (fun r => (same r).symm) hb)
  | cons a l₁ ih =>
    cases l₂ with
    | nil => exact absurd (listed same List.mem_cons_self) List.not_mem_nil
    | cons b l₂ =>
      have first := List.pairwise_cons.mp h₁
      have first' := List.pairwise_cons.mp h₂
      have upper : rank a ≤ rank b := by
        rcases List.mem_cons.mp (listed (fun r => (same r).symm) (List.mem_cons_self (a := b))) with
          rfl | later
        · exact le_rfl
        · exact first.1 b later
      have lower : rank b ≤ rank a := by
        rcases List.mem_cons.mp (listed same (List.mem_cons_self (a := a))) with rfl | later
        · exact le_rfl
        · exact first'.1 a later
      have heads := same (rank a)
      rw [List.filter_cons_of_pos (by simp),
        List.filter_cons_of_pos (by simp [le_antisymm lower upper]), List.cons.injEq] at heads
      obtain ⟨rfl, -⟩ := heads
      rw [ih first.2 first'.2 fun r => ?_]
      have rest := same r
      by_cases own : rank a = r
      · rw [List.filter_cons_of_pos (by simpa using own),
          List.filter_cons_of_pos (by simpa using own), List.cons.injEq] at rest
        exact rest.2
      · rwa [List.filter_cons_of_neg (by simpa using own),
          List.filter_cons_of_neg (by simpa using own)] at rest

variable (h : ∀ a ∈ l, ∀ b ∈ l, le a b = decide (rank a ≤ rank b))
include h

theorem pairwise_rank : (l.mergeSort le).Pairwise fun a b => rank a ≤ rank b := by
  rw [mergeSort_eq h]
  exact (List.pairwise_mergeSort rank_trans rank_total l).imp fun h => of_decide_eq_true h

theorem filter_rank (r : β) :
    (l.mergeSort le).filter (fun a => rank a = r) = l.filter fun a => rank a = r := by
  rw [mergeSort_eq h]
  have equal : (l.filter fun a => rank a = r).Pairwise fun a b =>
      decide (rank a ≤ rank b) = true := by
    rw [List.pairwise_filter]
    refine List.pairwise_of_forall fun a b ha hb => ?_
    rw [decide_eq_true_iff] at ha hb ⊢
    rw [ha, hb]
  have kept := List.sublist_mergeSort rank_trans rank_total equal List.filter_sublist
  have inside := kept.filter fun a => decide (rank a = r)
  rw [List.filter_filter] at inside
  simp only [Bool.and_self] at inside
  have counts := (List.mergeSort_perm l fun a b => decide (rank a ≤ rank b)).filter
    fun a => decide (rank a = r)
  exact (inside.eq_of_length counts.length_eq.symm).symm

theorem filter_mergeSort (p : α → Bool) :
    (l.mergeSort le).filter p = (l.filter p).mergeSort le := by
  have inside : ∀ a ∈ l.filter p, ∀ b ∈ l.filter p, le a b = decide (rank a ≤ rank b) :=
    fun a ha b hb => h a (List.mem_filter.mp ha).1 b (List.mem_filter.mp hb).1
  refine eq_of_filter_rank ((pairwise_rank h).filter p) (pairwise_rank inside) fun r => ?_
  rw [List.filter_comm, filter_rank h, filter_rank inside, List.filter_comm]

theorem pairwise_lt_or {R : α → α → Prop} (hR : l.Pairwise R) :
    (l.mergeSort le).Pairwise fun a b => rank a < rank b ∨ rank a = rank b ∧ R a b := by
  rw [List.pairwise_iff_forall_sublist]
  intro a b pair
  have ascending := List.pairwise_iff_forall_sublist.mp (pairwise_rank h) pair
  refine ascending.lt_or_eq.imp_right fun equal => ⟨equal, ?_⟩
  have both := pair.filter fun c => decide (rank c = rank a)
  rw [filter_rank h] at both
  simp only [List.filter_cons, decide_true, equal, if_true, List.filter_nil] at both
  exact List.pairwise_iff_forall_sublist.mp hR (both.trans List.filter_sublist)

end RecurringPayments.StableSort
