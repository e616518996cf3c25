import RecurringPayments.Subscription.Lifecycle
import RecurringPayments.Subscription.Projection
import RecurringPayments.Proofs.Detection.Relabelling

/-!
The summary of subscriptions and their categories. Categories decide how spending is grouped, and
no other figure. Amounts are to be figures, as those of promoted groups are; then no grouping fails.
-/
namespace RecurringPayments

open Result

variable {α : Type}

def Subscription.uncategorised (s : Subscription α) : Subscription α := { s with category := .null }

def Bill.uncategorised (b : Bill α) : Bill α :=
  { b with subscription := b.subscription.uncategorised }

def Summary.uncategorised (s : Summary α) : Summary α :=
  { s with
    active := s.active.map (·.uncategorised)
    upcomingBills := s.upcomingBills.map (·.uncategorised)
    categorySpending := []
    toReview := s.toReview.map (·.uncategorised) }

namespace Subscription

theorem active_map (subs : List (Subscription α)) :
    active (subs.map (·.uncategorised)) = (active subs).map (·.uncategorised) := by
  rw [active, List.filter_map]
  rfl

theorem statusCounts_map (subs : List (Subscription α)) :
    statusCounts (subs.map (·.uncategorised)) = statusCounts subs := by
  simp only [statusCounts, List.countP_map]
  rfl

theorem promote_uncategorised [Scalar α] (id : Value α) (g : RecurringGroup α) :
    promote id g.uncategorised = (promote id g).map (·.uncategorised) := by
  rw [promote, promote, map_bind_eq]
  rfl

end Subscription

variable [Scalar α]

theorem Bill.upcoming_map (window : Value α) (subs : List (Subscription α)) (today : When) :
    upcoming window (subs.map (·.uncategorised)) today =
      (upcoming window subs today).map (List.map (·.uncategorised)) := by
  have each (s : Subscription α) : ofSubscription window today s.uncategorised =
      (ofSubscription window today s).map (Option.map (·.uncategorised)) := by
    rw [ofSubscription, ofSubscription, map_bind_eq]
    refine bind_congr fun days => ?_
    rw [map_bind_eq]
    refine bind_congr fun late => ?_
    cases late with
    | true => rfl
    | false =>
      rw [if_neg Bool.false_ne_true, if_neg Bool.false_ne_true, map_bind_eq]
      rfl
  rw [upcoming, upcoming, filterMapM_map, map_bind_eq]
  simp only [each]
  rw [← map_filterMapM]
  cases subs.filterMapM (ofSubscription window today) with
  | error fault => rfl
  | ok bills =>
    have sorted : (bills.mergeSort isNoLater).map (·.uncategorised) =
        (bills.map (·.uncategorised)).mergeSort isNoLater := List.map_mergeSort fun _ _ _ _ => rfl
    exact congrArg Except.ok sorted.symm

namespace Projector

variable (p : Projector α)

theorem monthlyCost_map (subs : List (Subscription α)) :
    p.monthlyCost (subs.map (·.uncategorised)) = p.monthlyCost subs := by
  rw [monthlyCost, List.foldlM_map]
  rfl

theorem toReview_map (subs : List (Subscription α)) :
    p.toReview (subs.map (·.uncategorised)) =
      (p.toReview subs).map (List.map (·.uncategorised)) := by
  rw [toReview, filterM_map]
  rfl

theorem exists_charge_amount {s : Subscription α} {x : α} (figure : s.amount = .real x)
    {c : CategoryCharge α} (charged : p.categoryCharge s = .ok c) : ∃ y, c.amount = .real y := by
  obtain ⟨factor, -, scaled⟩ := bind_eq_ok_iff.mp charged
  obtain ⟨amount, product, same⟩ := bind_eq_ok_iff.mp scaled
  cases same
  rw [figure] at product
  obtain ⟨y, -, result⟩ := bind_eq_ok_iff.mp product
  obtain ⟨z, -, same⟩ := bind_eq_ok_iff.mp result
  cases same
  exact ⟨_, rfl⟩

theorem exists_totalOf {amounts : List (Value α)} (figures : ∀ v ∈ amounts, ∃ y, v = .real y) :
    ∃ total, totalOf false amounts = .ok total := by
  have read : amounts.mapM Value.scalar =
      .ok (amounts.map fun v => v.scalar.toOption.getD Scalar.zero) := by
    refine mapM_eq_map fun v hv => ?_
    obtain ⟨y, rfl⟩ := figures v hv
    rfl
  rw [totalOf, read]
  exact ⟨_, rfl⟩

theorem exists_categorySpending_of_sizes {subs : List (Subscription α)}
    {charges : List (CategoryCharge α)} (charged : subs.mapM p.categoryCharge = .ok charges)
    (sizes : ∀ c ∈ charges, ∃ y, c.amount = .real y) :
    ∃ spending, p.categorySpending subs = .ok spending := by
  rw [categorySpending, charged, ok_bind]
  cases charges with
  | nil => exact ⟨_, rfl⟩
  | cons c rest =>
    have mixed : ((c :: rest).all fun c => c.amount.whole?.isSome) = false := by
      obtain ⟨y, size⟩ := sizes c (.head _)
      rw [List.all_cons, size]
      rfl
    have totals (category : Value α) : ∃ total, totalOf false
        (((c :: rest).filter fun c => c.category.same category).map (·.amount)) = .ok total := by
      refine exists_totalOf ?_
      rw [List.forall_mem_map]
      exact fun c hc => sizes c (List.mem_filter.mp hc).1
    choose total summed using totals
    simp only [mixed, summed, ok_bind, pure_eq]
    rw [mapM_eq_map (g := fun category => (category.plain, total category)) fun _ _ => rfl]
    exact ⟨_, rfl⟩

section

variable {subs : List (Subscription α)} (figures : ∀ s ∈ subs, ∃ x, s.amount = .real x)
include figures

theorem exists_categorySpending {charges : List (CategoryCharge α)}
    (charged : subs.mapM p.categoryCharge = .ok charges) :
    ∃ spending, p.categorySpending subs = .ok spending := by
  refine p.exists_categorySpending_of_sizes charged fun c hc => ?_
  obtain ⟨s, hs, one⟩ := exists_of_mem_mapM charged hc
  obtain ⟨x, figure⟩ := figures s hs
  exact p.exists_charge_amount figure one

theorem categorySpending_map :
    (∃ fault, p.categorySpending (subs.map (·.uncategorised)) = .error fault ∧
      p.categorySpending subs = .error fault) ∨
    ∃ spending spending', p.categorySpending (subs.map (·.uncategorised)) = .ok spending ∧
      p.categorySpending subs = .ok spending' := by
  have each (s : Subscription α) : p.categoryCharge s.uncategorised =
      (p.categoryCharge s).map fun c => { c with category := .null } := by
    rw [categoryCharge, categoryCharge, map_bind_eq]
    refine bind_congr fun factor => ?_
    rw [map_bind_eq]
    rfl
  have charges : (subs.map (·.uncategorised)).mapM p.categoryCharge =
      (subs.mapM p.categoryCharge).map (List.map fun c => { c with category := .null }) := by
    rw [List.mapM_map, map_mapM]
    exact congrArg (fun charge => subs.mapM charge) (funext each)
  cases charged : subs.mapM p.categoryCharge with
  | error fault =>
    refine .inl ⟨fault, ?_, ?_⟩
    · rw [categorySpending, charges, charged]
      rfl
    · rw [categorySpending, charged]
      rfl
  | ok found =>
    rw [charged] at charges
    have figures' : ∀ s ∈ subs.map (·.uncategorised), ∃ x, s.amount = .real x := by
      rw [List.forall_mem_map]
      exact figures
    obtain ⟨spending, done⟩ := p.exists_categorySpending figures' charges
    obtain ⟨spending', done'⟩ := p.exists_categorySpending figures charged
    exact .inr ⟨spending, spending', done, done'⟩

theorem summarize_map (today : When) :
    (p.summarize (subs.map (·.uncategorised)) today).map (·.uncategorised) =
      (p.summarize subs today).map (·.uncategorised) := by
  have activeFigures : ∀ s ∈ Subscription.active subs, ∃ x, s.amount = .real x :=
    fun s hs => figures s (List.mem_filter.mp hs).1
  rw [summarize, summarize, Subscription.active_map, monthlyCost_map, Bill.upcoming_map,
    toReview_map, Subscription.statusCounts_map]
  simp only [map_bind_eq]
  refine bind_congr fun monthlyCost => bind_congr fun day => ?_
  cases Bill.upcoming p.window (Subscription.active subs) today with
  | error fault => rfl
  | ok bills =>
    obtain ⟨fault, left, right⟩ | ⟨spending, spending', left, right⟩ :=
      p.categorySpending_map activeFigures
    · rw [left, right]
      rfl
    · rw [left, right]
      cases p.toReview (Subscription.active subs) with
      | error fault => rfl
      | ok some =>
        refine congrArg Except.ok ?_
        simp only [Summary.uncategorised, List.map_map]
        rfl

end

end Projector

end RecurringPayments
