import Mathlib

/-!
Without its repetitions a list keeps the order in which its entries first appear.
-/
namespace RecurringPayments.FirstAppearance

variable {α : Type} [BEq α] [LawfulBEq α]

theorem idxOf_lt_of_filter {p : α → Bool} {a b : α} (ha : p a = true) (hb : p b = true)
    {xs : List α} (h : (xs.filter p).idxOf a < (xs.filter p).idxOf b) :
    xs.idxOf a < xs.idxOf b := by
  induction xs with
  | nil => simp at h
  | cons x xs ih =>
    rw [List.idxOf_cons, List.idxOf_cons]
    by_cases kept : p x = true
    · rw [List.filter_cons_of_pos kept, List.idxOf_cons, List.idxOf_cons] at h
      cases isA : x == a <;> cases isB : x == b <;> simp_all
    · have other {c : α} (hc : p c = true) : (x == c) = false := by
        rw [beq_eq_false_iff_ne]
        rintro rfl
        exact kept hc
      rw [List.filter_cons_of_neg kept] at h
      simpa only [other ha, other hb, cond_false, Nat.add_lt_add_iff_right] using ih h

theorem pairwise_eraseDups (xs : List α) :
    xs.eraseDups.Pairwise fun a b => xs.idxOf a < xs.idxOf b := by
  induction hn : xs.length using Nat.strongRecOn generalizing xs with
  | ind n ih =>
    cases xs with
    | nil => simp
    | cons x xs =>
      have shorter : (xs.filter fun y => !y == x).length < n := by
        have := List.length_filter_le (fun y => !y == x) xs
        rw [← hn, List.length_cons]
        omega
      rw [List.eraseDups_cons, List.pairwise_cons]
      constructor
      · intro b hb
        have different : b ≠ x := by simpa using (List.mem_filter.mp (List.mem_eraseDups.mp hb)).2
        rw [List.idxOf_cons_self, List.idxOf_cons_ne _ different.symm]
        exact Nat.succ_pos _
      · have other {c : α} (hc : c ∈ (xs.filter fun y => !y == x).eraseDups) : (!c == x) = true :=
          (List.mem_filter.mp (List.mem_eraseDups.mp hc)).2
        have different {c : α} (hc : (!c == x) = true) : x ≠ c := by
          rintro rfl
          simp at hc
        refine (ih _ shorter _ rfl).imp_of_mem fun {a b} ha hb lt => ?_
        have before := @idxOf_lt_of_filter _ _ _ (fun y => !y == x) a b (other ha) (other hb) xs lt
        rw [List.idxOf_cons_ne _ (different (other ha)),
          List.idxOf_cons_ne _ (different (other hb))]
        exact Nat.succ_lt_succ before

theorem nodup_eraseDups (xs : List α) : xs.eraseDups.Nodup :=
  (pairwise_eraseDups xs).imp fun before same => (same ▸ before).false

theorem eraseDups_of_nodup {xs : List α} (distinct : xs.Nodup) : xs.eraseDups = xs := by
  induction xs with
  | nil => rfl
  | cons x xs ih =>
    rw [List.nodup_cons] at distinct
    have kept : xs.filter (fun y => !y == x) = xs := by
      rw [List.filter_eq_self]
      intro y hy
      have different : y ≠ x := fun same => distinct.1 (same ▸ hy)
      simpa using different
    rw [List.eraseDups_cons, kept, ih distinct.2]

theorem eraseDups_concat [DecidableEq α] (xs : List α) (x : α) :
    (xs ++ [x]).eraseDups = if x ∈ xs then xs.eraseDups else xs.eraseDups ++ [x] := by
  rw [List.eraseDups_append]
  by_cases listed : x ∈ xs
  · have nothing : [x].removeAll xs = [] := by simpa [List.removeAll] using listed
    rw [nothing, if_pos listed, List.eraseDups_nil, List.append_nil]
  · have itself : [x].removeAll xs = [x] := by simpa [List.removeAll] using listed
    rw [itself, if_neg listed, eraseDups_of_nodup (List.nodup_singleton x)]

theorem length_eraseDups_eq_iff [DecidableEq α] (xs : List α) :
    xs.eraseDups.length = xs.length ↔ xs.Nodup := by
  refine ⟨fun same => ?_, fun distinct => congrArg List.length (eraseDups_of_nodup distinct)⟩
  have entries : xs.toFinset = xs.eraseDups.toFinset := by
    ext x
    rw [List.mem_toFinset, List.mem_toFinset, List.mem_eraseDups]
  have counted : xs.dedup.length = xs.length := by
    rw [← List.card_toFinset, entries, List.toFinset_card_of_nodup (nodup_eraseDups xs), same]
  rw [← (List.dedup_sublist xs).eq_of_length counted]
  exact List.nodup_dedup xs

theorem sum_filter_eraseDups {κ β M : Type} [DecidableEq κ] [AddCommMonoid M] (key : β → κ)
    (f : β → M) (xs : List β) :
    ((xs.map key).eraseDups.map fun k => ((xs.filter fun x => key x = k).map f).sum).sum =
      (xs.map f).sum := by
  have grouped {keys : List κ} (distinct : keys.Nodup) (listed : ∀ x ∈ xs, key x ∈ keys) :
      (keys.map fun k => ((xs.filter fun x => key x = k).map f).sum).sum = (xs.map f).sum := by
    induction xs with
    | nil => simp
    | cons x xs ih =>
      rw [List.forall_mem_cons] at listed
      have split (k : κ) : (((x :: xs).filter fun y => key y = k).map f).sum =
          (if k = key x then f x else 0) + ((xs.filter fun y => key y = k).map f).sum := by
        by_cases own : key x = k
        · rw [List.filter_cons_of_pos (by simpa using own), List.map_cons, List.sum_cons,
            if_pos own.symm]
        · rw [List.filter_cons_of_neg (by simpa using own), if_neg (Ne.symm own), zero_add]
      have once : (keys.map fun k => if k = key x then f x else 0).sum = f x := by
        rw [List.sum_map_eq_nsmul_single (key x) _ fun k other _ => if_neg other,
          List.count_eq_one_of_mem distinct listed.1, one_nsmul, if_pos rfl]
      simp only [split]
      rw [List.sum_map_add, once, ih listed.2, List.map_cons, List.sum_cons]
  refine grouped (nodup_eraseDups _) fun x hx => ?_
  exact List.mem_eraseDups.mpr (List.mem_map_of_mem hx)

end RecurringPayments.FirstAppearance
