import Mathlib

/-!
Lists that match entry by entry: what is done to both in the same way keeps them matched.
-/
namespace RecurringPayments

variable {α β γ : Type} {R : α → β → Prop} {xs : List α} {ys : List β}

theorem getElem?_of_forall₂ (h : List.Forall₂ R xs ys) (i : Nat) {y : β} :
    ys[i]? = some y → ∃ x, xs[i]? = some x ∧ R x y := by
  induction h generalizing i with
  | nil => nofun
  | cons first _ ih =>
    cases i with
    | zero =>
      rintro ⟨⟩
      exact ⟨_, rfl, first⟩
    | succ i => exact ih i

theorem map_eq_map_of_forall₂ {f : α → γ} {g : β → γ} (h : List.Forall₂ R xs ys)
    (each : ∀ x y, R x y → f x = g y) : xs.map f = ys.map g := by
  induction h with
  | nil => rfl
  | cons first _ ih => rw [List.map_cons, List.map_cons, each _ _ first, ih]

theorem exists_pairs (h : List.Forall₂ R xs ys) :
    ∃ ps : List (α × β), ps.map Prod.fst = xs ∧ ps.map Prod.snd = ys ∧ ∀ p ∈ ps, R p.1 p.2 := by
  obtain ⟨lengths, each⟩ := List.forall₂_iff_zip.mp h
  exact ⟨xs.zip ys, List.map_fst_zip lengths.le, List.map_snd_zip lengths.ge, fun _ hp => each hp⟩

theorem forall₂_mergeSort {le : α → α → Bool} {le' : β → β → Bool} (h : List.Forall₂ R xs ys)
    (agree : ∀ a b a' b', R a b → R a' b' → le a a' = le' b b') :
    List.Forall₂ R (xs.mergeSort le) (ys.mergeSort le') := by
  obtain ⟨ps, rfl, rfl, each⟩ := exists_pairs h
  have first := List.map_mergeSort (r := fun p q => le p.1 q.1) (s := le) (f := Prod.fst) (l := ps)
    fun _ _ _ _ => rfl
  have second := List.map_mergeSort (r := fun p q => le p.1 q.1) (s := le')
    (f := Prod.snd) (l := ps)
    fun p hp q hq => agree _ _ _ _ (each p hp) (each q hq)
  rw [← first, ← second, List.forall₂_map_left_iff, List.forall₂_map_right_iff, List.forall₂_same]
  exact fun p hp => each p (List.mem_mergeSort.mp hp)

end RecurringPayments
