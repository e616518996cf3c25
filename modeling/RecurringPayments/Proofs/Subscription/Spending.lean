import RecurringPayments.Proofs.List.StableSort
import RecurringPayments.Proofs.Subscription.Grouping
import RecurringPayments.Proofs.Subscription.Summary
import RecurringPayments.Proofs.Value.Unrounded

/-!
Spending by category where nothing is rounded. Each total is what the group of its category adds up
to, whichever way the charges were summed.
-/
namespace RecurringPayments

open Result

variable {α : Type} [Scalar α]

/-! ### Numbers and tables of numbers -/

namespace Value

theorem exists_mul_eq {v w : Value ℝ} {x y : ℝ} (hv : v.scalar = .ok x) (hw : w.scalar = .ok y) :
    ∃ z, v.mul w = .ok z ∧ z.scalar = .ok (x * y) := by
  obtain ⟨z, made, _, number, rfl⟩ := exists_combine Exact.isUnrounded_id Int.cast_mul
    (fun _ _ => rfl) ⟨x, hv, rfl⟩ ⟨y, hw, rfl⟩
  exact ⟨z, made, number⟩

def IsTable (block : Value ℝ) (table : List (String × ℝ)) : Prop :=
  ∃ entries, block = .mapping entries ∧
    ∀ name, (Value.entry? name entries).map scalar = (table.lookup name).map .ok

theorem isTable_block {entries : List (String × Value ℝ)} {table : List (String × ℝ)}
    (each : List.Forall₂ (fun e t => e.1 = t.1 ∧ e.2.scalar = .ok t.2) entries table) :
    (Settings.block entries).IsTable table := by
  refine ⟨_, rfl, fun name => ?_⟩
  induction each with
  | nil => rfl
  | @cons e t entries table first _ ih =>
    rw [List.map_cons, entry?, first.1, List.lookup_cons, BEq.comm]
    cases name == t.1 with
    | true => exact congrArg some first.2
    | false => exact ih

theorem scalar_getD {entries : List (Value ℝ × Value ℝ)} {table : List (String × ℝ)}
    (same : ∀ name, (Value.entry? name entries).map scalar = (table.lookup name).map .ok)
    {other : Value ℝ} {x : ℝ} (number : other.scalar = .ok x) (name : String) :
    ((Value.entry? name entries).getD other).scalar = .ok ((table.lookup name).getD x) := by
  have found := same name
  cases entry : entry? name entries with
  | none =>
    rw [entry, Option.map_none, eq_comm, Option.map_eq_none_iff] at found
    rw [found]
    exact number
  | some v =>
    rw [entry, Option.map_some, eq_comm, Option.map_eq_some_iff] at found
    obtain ⟨y, listed, read⟩ := found
    rw [listed]
    exact read.symm

end Value

namespace Projector

/-- Numbers add up to the sum of what they are, whole or not. -/
theorem totalOf_eq {allWhole : Bool} {amounts : List (Value ℝ)} {xs : List ℝ}
    (read : amounts.mapM Value.scalar = .ok xs)
    (whole : allWhole = true → ∀ v ∈ amounts, v.whole?.isSome = true) :
    totalOf allWhole amounts = .ok xs.sum := by
  cases allWhole with
  | false =>
    have defined : xs.filter (fun x => !Scalar.isUndefined x) = xs :=
      List.filter_eq_self.mpr fun _ _ => rfl
    rw [totalOf, if_neg Bool.false_ne_true, read, ok_bind, sumDefined, defined,
      Exact.compensatedSum_eq]
    rfl
  | true =>
    have cast : xs = (amounts.filterMap Value.whole?).map fun n : Int => (n : ℝ) := by
      have each := mapM_eq_ok_iff.mp read
      replace whole := whole rfl
      clear read
      induction each with
      | nil => rfl
      | cons first _ ih =>
        rw [List.forall_mem_cons] at whole
        obtain ⟨n, hn⟩ := Option.isSome_iff_exists.mp whole.1
        rw [Value.scalar_of_whole (fun _ => rfl) hn] at first
        rw [List.filterMap_cons_some hn, List.map_cons, ← Except.ok.inj first, ih whole.2]
        rfl
    rw [totalOf, if_pos rfl, ← List.sum_eq_foldl, cast, ← Int.cast_list_sum]
    rfl

theorem exists_categoryCharge_eq {p : Projector ℝ} {table : List (String × ℝ)}
    (listed : p.categoryFactors.IsTable table) {s : Subscription ℝ} {x : ℝ}
    (amount : s.amount.scalar = .ok x) :
    ∃ c, p.categoryCharge s = .ok c ∧ c.category = s.category ∧
      c.amount.scalar = .ok (x * (table.lookup s.pattern.frequency).getD 1) := by
  obtain ⟨entries, block, same⟩ := listed
  have one : (Value.real Scalar.one : Value ℝ).scalar = .ok 1 := congrArg Except.ok Int.cast_one
  obtain ⟨product, scaled, number⟩ :=
    Value.exists_mul_eq amount (Value.scalar_getD same one s.pattern.frequency)
  refine ⟨⟨s.category, product⟩, ?_, rfl, number⟩
  rw [categoryCharge, categoryFactor, block, Settings.entriesOf]
  simp only [ok_bind, pure_eq, scaled]

/-! ### Spending by category -/

theorem isNoSmaller_eq (a b : String × ℝ) :
    isNoSmaller a b = decide (OrderDual.toDual a.2 ≤ OrderDual.toDual b.2) := by
  have above : isNoSmaller a b = !Scalar.lt a.2 b.2 := rfl
  rw [above, Bool.eq_iff_iff, Bool.not_eq_true', ← Bool.not_eq_true, Exact.lt_iff, not_lt,
    decide_eq_true_iff, OrderDual.toDual_le_toDual]

theorem pairwise_largest {totals : List (String × ℝ)} {R : String → String → Prop}
    (listed : totals.Pairwise fun a b => R a.1 b.1) :
    (totals.mergeSort isNoSmaller).Pairwise fun a b => b.2 < a.2 ∨ b.2 = a.2 ∧ R a.1 b.1 :=
  (StableSort.pairwise_lt_or (fun a _ b _ => isNoSmaller_eq a b) listed).imp fun before =>
    before.imp OrderDual.toDual_lt_toDual.mp fun ⟨equal, first⟩ =>
      ⟨(OrderDual.toDual_inj.mp equal).symm, first⟩

theorem categorySpending_eq {p : Projector ℝ} {subs : List (Subscription ℝ)}
    (named : ∀ s ∈ subs, s.IsNamed) {share : Subscription ℝ → ℝ}
    (charged : ∀ s ∈ subs, ∃ c, p.categoryCharge s = .ok c ∧ c.category = s.category ∧
      c.amount.scalar = .ok (share s)) :
    p.categorySpending subs = .ok (((Subscription.categoryNames subs).map fun c =>
      (c, ((Subscription.ofCategory c subs).map share).sum)).mergeSort isNoSmaller) := by
  have : Nonempty (CategoryCharge ℝ) := ⟨⟨.null, .null⟩⟩
  choose! charge made category number using charged
  have charges : subs.mapM p.categoryCharge = .ok (subs.map charge) := mapM_eq_map made
  have names : (subs.map charge).map (·.category) =
      (subs.map Subscription.categoryName).map .text := by
    rw [List.map_map, List.map_map]
    exact List.map_congr_left fun s hs => (category s hs).trans (named s hs).category_eq
  -- Whether all charges are whole decides how a total is formed, not what it is.
  have total (c : String) : totalOf ((subs.map charge).all fun c => c.amount.whole?.isSome)
      (((subs.map charge).filter fun d => d.category.same (.text c)).map (·.amount)) =
        .ok ((Subscription.ofCategory c subs).map share).sum := by
    have own : (subs.map charge).filter (fun d => d.category.same (.text c)) =
        (Subscription.ofCategory c subs).map charge := by
      rw [List.filter_map, Subscription.ofCategory]
      congr 1
      refine List.filter_congr fun s hs => ?_
      rw [Bool.eq_iff_iff, Function.comp_apply, category s hs, (named s hs).same_iff,
        decide_eq_true_iff]
    rw [own, List.map_map]
    refine totalOf_eq ?_ fun whole v hv => ?_
    · rw [List.mapM_map]
      exact mapM_eq_map fun s hs => number s (List.mem_filter.mp hs).1
    · obtain ⟨s, hs, rfl⟩ := List.mem_map.mp hv
      have inside := List.mem_map_of_mem (f := charge) (List.mem_filter.mp hs).1
      exact List.all_eq_true.mp whole _ inside
  rw [categorySpending, charges, ok_bind, categoriesOf_eq names]
  simp only [List.mapM_map]
  rw [mapM_eq_map (g := fun c => (c, ((Subscription.ofCategory c subs).map share).sum))
    fun c _ => by rw [Function.comp_apply, total c]; rfl]
  rfl

/-- Spending as groups have it: each category once, with what its group adds up to, the larger
totals first and equal ones in the order in which their categories first appear. -/
structure IsSpendingOf (share : Subscription ℝ → ℝ) (subs : List (Subscription ℝ))
    (groups : List (Value ℝ × List (Subscription ℝ))) (spending : List (String × ℝ)) : Prop where
  distinct : (spending.map (·.1)).Nodup
  totals : (spending.map fun e => (Value.text e.1, e.2)).Perm
    (groups.map fun g => (g.1, (g.2.map share).sum))
  order : spending.Pairwise fun a b => b.2 < a.2 ∨ b.2 = a.2 ∧
    Subscription.firstPlace a.1 subs < Subscription.firstPlace b.1 subs

/-- Both ways of grouping succeed, and agree on the categories and on what belongs to each. -/
theorem categorySpending_isSpendingOf {p : Projector ℝ} {table : List (String × ℝ)}
    (listed : p.categoryFactors.IsTable table) {subs : List (Subscription ℝ)}
    (named : ∀ s ∈ subs, s.IsNamed) {amount : Subscription ℝ → ℝ}
    (amounts : ∀ s ∈ subs, s.amount.scalar = .ok (amount s)) :
    ∃ groups spending, Subscription.byCategory subs = .ok groups ∧
      p.categorySpending subs = .ok spending ∧
      IsSpendingOf (fun s => amount s * (table.lookup s.pattern.frequency).getD 1) subs groups
        spending := by
  refine ⟨_, _, Subscription.byCategory_eq named,
    categorySpending_eq named fun s hs => exists_categoryCharge_eq listed (amounts s hs), ?_⟩
  have sorted := List.mergeSort_perm ((Subscription.categoryNames subs).map fun c =>
    (c, ((Subscription.ofCategory c subs).map fun s =>
      amount s * (table.lookup s.pattern.frequency).getD 1).sum)) isNoSmaller
  refine ⟨?_, ?_, pairwise_largest
    (R := fun a b => Subscription.firstPlace a subs < Subscription.firstPlace b subs) ?_⟩
  · rw [(sorted.map _).nodup_iff, List.map_map]
    exact (List.map_id _).symm ▸ Subscription.nodup_categoryNames subs
  · rw [List.map_map]
    refine (sorted.map _).trans (List.Perm.of_eq ?_)
    rw [List.map_map]
    rfl
  · rw [List.pairwise_map]
    exact Subscription.pairwise_firstPlace named

noncomputable def categoryTable : List (String × ℝ) :=
  [("monthly", 1), ("quarterly", 0.3333333333333333), ("yearly", 0.08333333333333333)]

theorem scalar_figure (digits places : Nat) :
    (Settings.figure digits places : Value ℝ).scalar = .ok (digits * 10 ^ (-places : Int)) :=
  congrArg Except.ok (one_mul _)

theorem standard_categoryFactors_isTable :
    (standard : Projector ℝ).categoryFactors.IsTable categoryTable := by
  refine Value.isTable_block ?_
  simp only [categoryTable, List.forall₂_cons, List.forall₂_nil_right_iff, true_and, and_true,
    Settings.third, Settings.twelfth, scalar_figure, Except.ok.injEq]
  norm_num

def household : List (Subscription α) :=
  [charged "gym" 20 "weekly" "Health", charged "rent" 900 "monthly" "Home",
    charged "milk" 3 "fortnightly" "Food", charged "lunch" 17 "daily" "Food"]
where
  charged (name : String) (charge : Int) (frequency category : String) : Subscription α := {
    id := .text name
    merchantName := .text name
    amount := .int charge
    pattern := ⟨frequency, 7, .day ⟨739562, by decide⟩, Scalar.one, none, none⟩
    category := .text category
    firstDetected := .day ⟨739262, by decide⟩
    lastCharged := .day ⟨739531, by decide⟩
    status := Status.active
    averageAmount := .int charge
    totalSpent := .int (10 * charge) }

theorem household_isNamed : ∀ s ∈ (household : List (Subscription ℝ)), s.IsNamed := by
  have each (name : String) (charge : Int) (frequency category : String) :
      (household.charged name charge frequency category : Subscription ℝ).IsNamed := ⟨_, rfl⟩
  simp only [household, List.forall_mem_cons, each, true_and]
  exact List.forall_mem_nil _

theorem household_amounts : ∀ s ∈ (household : List (Subscription ℝ)),
    s.amount.scalar = .ok (s.amount.scalar.toOption.getD 0) := by
  have each (name : String) (charge : Int) (frequency category : String) : ∃ x,
      (household.charged name charge frequency category : Subscription ℝ).amount.scalar = .ok x :=
    ⟨_, rfl⟩
  have numbers : ∀ s ∈ (household : List (Subscription ℝ)), ∃ x, s.amount.scalar = .ok x := by
    simp only [household, List.forall_mem_cons, each, true_and]
    exact List.forall_mem_nil _
  intro s hs
  obtain ⟨x, number⟩ := numbers s hs
  rw [number]
  rfl

theorem categorySpending_isSpendingOf_household :
    ∃ groups spending, Subscription.byCategory (household : List (Subscription ℝ)) = .ok groups ∧
      standard.categorySpending household = .ok spending ∧
      IsSpendingOf (fun s => s.amount.scalar.toOption.getD 0 *
        (categoryTable.lookup s.pattern.frequency).getD 1) household groups spending :=
  categorySpending_isSpendingOf standard_categoryFactors_isTable household_isNamed household_amounts

end Projector

end RecurringPayments
