import RecurringPayments.Proofs.List.StableSort

/-!
What a partial function gives on the entries of a list, each result beside the place of its entry.
Sorted by rank, results of one rank keep the order of their places.
-/
namespace RecurringPayments.Placed

variable {α β γ : Type} {f g : α → Option β} {xs : List α}

/-- The results beside the places of the entries that they come from. -/
def placed (f : α → Option β) (xs : List α) : List (β × Nat) :=
  xs.zipIdx.filterMap fun p => (f p.1).map fun b => (b, p.2)

theorem mem_placed {p : β × Nat} : p ∈ placed f xs ↔ ∃ x, xs[p.2]? = some x ∧ f x = some p.1 := by
  rw [placed, List.mem_filterMap]
  constructor
  · rintro ⟨⟨x, i⟩, hx, made⟩
    obtain ⟨b, hb, rfl⟩ := Option.map_eq_some_iff.mp made
    exact ⟨x, List.mem_zipIdx_iff_getElem?.mp hx, hb⟩
  · rintro ⟨x, hx, made⟩
    exact ⟨(x, p.2), List.mem_zipIdx_iff_getElem?.mpr hx, Option.map_eq_some_iff.mpr ⟨_, made, rfl⟩⟩

theorem map_fst_placed (f : α → Option β) (xs : List α) :
    (placed f xs).map (·.1) = xs.filterMap f := by
  have alone (p : α × Nat) : ((f p.1).map fun b => (b, p.2)).map (·.1) = f p.1 := by
    cases f p.1 <;> rfl
  have whole : (xs.zipIdx.map (·.1)).filterMap f = xs.zipIdx.filterMap fun p => f p.1 :=
    List.filterMap_map
  rw [placed, List.map_filterMap]
  simp only [alone]
  rw [← whole, List.zipIdx_map_fst]

theorem zipIdx_ascends (xs : List α) : xs.zipIdx.Pairwise fun p q => p.2 < q.2 := by
  have places : (xs.zipIdx.map (·.2)).Pairwise (· < ·) := by
    rw [List.zipIdx_map_snd]
    exact List.pairwise_lt_range'
  exact List.pairwise_map.mp places

theorem placed_ascends : (placed f xs).Pairwise fun p q => p.2 < q.2 := by
  rw [placed, List.pairwise_filterMap]
  refine (zipIdx_ascends xs).imp fun {p q} before b hb b' hb' => ?_
  obtain ⟨_, -, rfl⟩ := Option.map_eq_some_iff.mp hb
  obtain ⟨_, -, rfl⟩ := Option.map_eq_some_iff.mp hb'
  exact before

theorem map_placed_eq_filter_placed {keep : β → Bool} {change : γ → β} {h : α → Option γ}
    (same : ∀ x ∈ xs, (h x).map change = (f x).filter keep) :
    (placed h xs).map (fun p => (change p.1, p.2)) = (placed f xs).filter fun p => keep p.1 := by
  rw [placed, placed, List.map_filterMap, List.filter_filterMap]
  refine List.filterMap_congr fun p hp => ?_
  have listed : p.1 ∈ xs := List.mem_of_getElem? (List.mem_zipIdx_iff_getElem?.mp hp)
  calc ((h p.1).map fun c => (c, p.2)).map (fun q => (change q.1, q.2))
      = ((h p.1).map change).map fun b => (b, p.2) := by cases h p.1 <;> rfl
    _ = ((f p.1).filter keep).map fun b => (b, p.2) := by rw [same p.1 listed]
    _ = ((f p.1).map fun b => (b, p.2)).filter fun q => keep q.1 := by
      cases f p.1 with
      | none => rfl
      | some b => cases kept : keep b <;> simp [Option.filter, kept]

/-! ### Sorted by rank -/

section

variable [LinearOrder γ] {le : β → β → Bool} {rank : β → γ}

def sorted (le : β → β → Bool) (f : α → Option β) (xs : List α) : List (β × Nat) :=
  (placed f xs).mergeSort fun p q => le p.1 q.1

theorem mem_sorted {p : β × Nat} :
    p ∈ sorted le f xs ↔ ∃ x, xs[p.2]? = some x ∧ f x = some p.1 := by
  rw [sorted, List.mem_mergeSort, mem_placed]

theorem map_fst_sorted : (sorted le f xs).map (·.1) = (xs.filterMap f).mergeSort le := by
  rw [← map_fst_placed]
  exact List.map_mergeSort fun _ _ _ _ => rfl

theorem nodup_sorted : ((sorted le f xs).map (·.2)).Nodup := by
  have distinct : ((placed f xs).map (·.2)).Nodup :=
    (List.pairwise_map.mpr placed_ascends).imp Nat.ne_of_lt
  exact ((List.mergeSort_perm _ _).map _).nodup_iff.mpr distinct

theorem pairwise_sorted (ranked : ∀ a b, le a b = decide (rank a ≤ rank b)) :
    (sorted le f xs).Pairwise fun p q => rank p.1 < rank q.1 ∨ rank p.1 = rank q.1 ∧ p.2 < q.2 :=
  @StableSort.pairwise_lt_or _ _ _ _ (fun p : β × Nat => rank p.1) _
    (fun p _ q _ => ranked p.1 q.1) _ placed_ascends

end

end RecurringPayments.Placed
