import RecurringPayments.Proofs.List.StableSort
import RecurringPayments.Proofs.Number.Exact
import RecurringPayments.Proofs.Subscription.Summary
import RecurringPayments.Proofs.Subscription.Transition
import RecurringPayments.Proofs.Subscription.Upcoming

/-!
A pause, and its end. Paused entries drop out of a summary and take their bills and their costs with
them; nothing else moves. Resuming them gives back the list that there was.
-/
namespace RecurringPayments

open Result

variable {α : Type} [Scalar α]

/-! ### The list -/

namespace Subscription

theorem IsWellFormed.entered {s : Subscription α} (h : s.IsWellFormed) (t : Transition) :
    (s.entered t).IsWellFormed := ⟨h.amount, h.nextDate⟩

def pausedIn (id : Value α) (subs : List (Subscription α)) : List (Subscription α) :=
  subs.map fun s => if s.id.same id then s.entered .pause else s

omit [Scalar α] in
theorem status_of_canEnter_paused {s : Subscription α}
    (allowed : s.canEnter Status.paused = true) : s.status = Status.active := by
  rw [canEnter, mayEnter, if_pos (beq_self_eq_true _)] at allowed
  exact eq_of_beq allowed

omit [Scalar α] in
theorem entered_resume_pause {s : Subscription α} (running : s.status = Status.active) :
    (s.entered .pause).entered .resume = s := by
  change { s with status := Status.active } = s
  rw [← running]

theorem active_pausedIn (id : Value α) (subs : List (Subscription α)) :
    active (pausedIn id subs) = (active subs).filter fun s => !s.id.same id := by
  rw [active, active, pausedIn]
  induction subs with
  | nil => rfl
  | cons s rest ih =>
    have paused : (s.entered .pause).isActive = false := rfl
    rw [List.map_cons, List.filter_cons, ih, List.filter_cons]
    cases same : s.id.same id <;> cases running : s.isActive <;> simp [same, paused, running]

section

variable {id : Value α} {subs : List (Subscription α)}
  (running : ∀ s ∈ subs, s.id.same id = true → s.status = Status.active)
include running

theorem resume_pausedIn : applyTo id (·.transition .resume) (pausedIn id subs) = .ok subs := by
  rw [applyTo_transition_eq_ok_iff, pausedIn, List.forall_mem_map, List.map_map]
  constructor
  · intro s _ own
    by_cases same : s.id.same id = true
    · rw [if_pos same]
      rfl
    · rw [if_neg same] at own
      exact absurd own same
  · refine (List.map_congr_left fun s hs => ?_).trans (List.map_id subs)
    rw [Function.comp_apply]
    by_cases same : s.id.same id = true
    · have kept : (s.entered .pause).id.same id = true := same
      rw [if_pos same, if_pos kept, entered_resume_pause (running s hs same), id_eq]
    · rw [if_neg same, if_neg same, id_eq]

theorem filter_active : (active subs).filter (·.id.same id) = subs.filter (·.id.same id) := by
  rw [active, List.filter_filter]
  refine List.filter_congr fun s hs => ?_
  cases same : s.id.same id with
  | false => rfl
  | true =>
    rw [isActive, running s hs same]
    rfl

theorem countP_pausedIn (status : String) :
    (pausedIn id subs).countP (·.status == status) +
        (if status = Status.active then subs.countP (·.id.same id) else 0) =
      subs.countP (·.status == status) +
        if status = Status.paused then subs.countP (·.id.same id) else 0 := by
  induction subs with
  | nil => simp [pausedIn]
  | cons s rest ih =>
    rw [List.forall_mem_cons] at running
    have others := ih running.2
    have head : pausedIn id (s :: rest) =
        (if s.id.same id then s.entered .pause else s) :: pausedIn id rest := rfl
    rw [head, List.countP_cons, List.countP_cons, List.countP_cons]
    by_cases same : s.id.same id = true
    · have before := running.1 same
      have after : (s.entered .pause).status = Status.paused := rfl
      have apart : Status.active ≠ Status.paused := by decide
      rw [if_pos same, if_pos same, before, after]
      by_cases active : status = Status.active
      · simp only [active, apart, apart.symm, if_true, if_false, beq_iff_eq] at others ⊢
        omega
      · by_cases paused : status = Status.paused
        · simp only [paused, apart, apart.symm, if_true, if_false, beq_iff_eq] at others ⊢
          omega
        · simpa [active, paused, Ne.symm active, Ne.symm paused] using others
    · rw [if_neg same, if_neg same, add_zero]
      omega

theorem exists_statusCounts_pausedIn : ∃ active cancelled paused trial,
    statusCounts subs = [(Status.active, active + subs.countP (·.id.same id)),
      (Status.cancelled, cancelled), (Status.paused, paused), (Status.trial, trial)] ∧
    statusCounts (pausedIn id subs) = [(Status.active, active), (Status.cancelled, cancelled),
      (Status.paused, paused + subs.countP (·.id.same id)), (Status.trial, trial)] := by
  have moved := countP_pausedIn running
  have active := moved Status.active
  have cancelled := moved Status.cancelled
  have paused := moved Status.paused
  have trial := moved Status.trial
  simp only [Status.active, Status.cancelled, Status.paused, Status.trial, String.reduceEq, if_true,
    if_false, add_zero] at active cancelled paused trial
  simp only [statusCounts, Status.all, List.map_cons, List.map_nil, Status.active, Status.cancelled,
    Status.paused, Status.trial]
  rw [← active, cancelled, paused, trial]
  exact ⟨_, _, _, _, rfl, rfl⟩

end

end Subscription

/-! ### The summary -/

theorem Bill.subscription_of_bill? {p : Projector α} {today : When}
    {s : Subscription α} {b : Bill α}
    (due : p.bill? today s = some b) : b.subscription = s := by
  rw [Projector.bill?] at due
  cases made : ofSubscription p.window today s with
  | error fault =>
    rw [made] at due
    cases due
  | ok bill =>
    rw [made] at due
    rw [show bill = some b from due] at made
    exact (of_ofSubscription made).1

theorem Bill.mergeSort_filter (p : Projector α) (today : When) (subs : List (Subscription α))
    (keep : Subscription α → Bool) :
    ((subs.filter keep).filterMap (p.bill? today)).mergeSort isNoLater =
      ((subs.filterMap (p.bill? today)).mergeSort isNoLater).filter
        fun b => keep b.subscription := by
  have kept : ((subs.filterMap (p.bill? today)).filter fun b => keep b.subscription) =
      (subs.filter keep).filterMap (p.bill? today) := by
    rw [List.filter_filterMap, List.filterMap_filter]
    refine List.filterMap_congr fun s _ => ?_
    cases due : p.bill? today s with
    | none => simp
    | some b => rw [Option.filter_some, Bill.subscription_of_bill? due]
  have ranked : ∀ a ∈ subs.filterMap (p.bill? today), ∀ b ∈ subs.filterMap (p.bill? today),
      isNoLater a b = decide (a.daysUntilDue ≤ b.daysUntilDue) := fun _ _ _ _ => rfl
  rw [StableSort.filter_mergeSort ranked, kept]

/-- Two summaries, one before a pause of the entries `gone` with an id and one after it. The costs
are compared by what they stand for where nothing is rounded. -/
structure Summary.IsLeftBy (p : Projector α) (id : Value α) (gone : List (Subscription α))
    (before after : Summary α) : Prop where
  today : after.today = before.today
  own : before.active.filter (·.id.same id) = gone
  active : after.active = before.active.filter fun s => !s.id.same id
  toReview : after.toReview = before.toReview.filter fun s => !s.id.same id
  upcomingBills :
    after.upcomingBills = before.upcomingBills.filter fun b => !b.subscription.id.same id
  statusCounts : ∃ active cancelled paused trial,
    before.statusCounts = [(Status.active, active + gone.length), (Status.cancelled, cancelled),
      (Status.paused, paused), (Status.trial, trial)] ∧
    after.statusCounts = [(Status.active, active), (Status.cancelled, cancelled),
      (Status.paused, paused + gone.length), (Status.trial, trial)]
  costs : ∃ equivalents : List α,
    gone.mapM p.monthlyEquivalent = .ok (equivalents.map .real) ∧
    ∀ value : α → ℝ, Scalar.IsExact value →
      value after.monthlyCost = value before.monthlyCost - (equivalents.map value).sum ∧
      value after.yearlyProjection =
        value before.yearlyProjection - 12 * (equivalents.map value).sum

namespace Projector

section

variable {value : α → ℝ} (exact : Scalar.IsExact value)
include exact

theorem value_plainSum_filter (p : Projector α) (subs : List (Subscription α))
    (keep : Subscription α → Bool) :
    value (plainSum ((subs.filter keep).map p.equivalent)) =
      value (plainSum (subs.map p.equivalent)) -
        (((subs.filter fun s => !keep s).map p.equivalent).map value).sum := by
  have parts := ((List.filter_append_perm keep subs).map fun s => value (p.equivalent s)).sum_eq
  rw [List.map_append, List.sum_append] at parts
  simp only [Exact.value_plainSum exact, List.map_map]
  exact eq_sub_of_add_eq parts

theorem value_yearlyCost (monthly : α) : value (yearlyCost monthly) = 12 * value monthly := by
  rw [yearlyCost, exact.mul, exact.ofInt, mul_comm]
  norm_num

end

/-- A summary before a pause that succeeds, the summary after it, and the end of the pause. -/
theorem summarize_pause {p : Projector α} (figured : p.IsFigured)
    {subs subs' : List (Subscription α)}
    (wellFormed : ∀ s ∈ subs, s.IsWellFormed) {id : Value α} {today : When} {day : Date}
    (dated : today.toDate = .ok day)
    (paused : Subscription.applyTo id (·.transition .pause) subs = .ok subs') :
    (∃ before after, p.summarize subs today = .ok before ∧ p.summarize subs' today = .ok after ∧
      Summary.IsLeftBy p id (subs.filter (·.id.same id)) before after) ∧
    Subscription.applyTo id (·.transition .resume) subs' = .ok subs := by
  rw [Subscription.applyTo_transition_eq_ok_iff] at paused
  obtain ⟨allowed, rfl⟩ := paused
  have running : ∀ s ∈ subs, s.id.same id = true → s.status = Status.active :=
    fun s hs own => Subscription.status_of_canEnter_paused (allowed s hs own)
  refine ⟨?_, Subscription.resume_pausedIn running⟩
  have wellFormed' : ∀ s ∈ Subscription.pausedIn id subs, s.IsWellFormed := by
    rw [Subscription.pausedIn, List.forall_mem_map]
    intro s hs
    split
    · exact (wellFormed s hs).entered .pause
    · exact wellFormed s hs
  have priced : ∀ s ∈ subs, p.Prices s := fun s hs => prices_of_figured figured (wellFormed s hs)
  obtain ⟨spending, done⟩ := exists_summarize_eq priced figured.window dated
  obtain ⟨spending', done'⟩ := exists_summarize_eq
    (fun s hs => prices_of_figured figured (wellFormed' s hs)) figured.window dated
  refine ⟨_, _, done, done', ?_⟩
  have remaining := Subscription.active_pausedIn id subs
  have own := Subscription.filter_active running
  exact {
    today := rfl
    own
    active := remaining
    toReview := by
      simp only [summaryOf, remaining]
      exact List.filter_comm _ _ _
    upcomingBills := by
      simp only [summaryOf, remaining]
      exact Bill.mergeSort_filter p today _ _
    statusCounts := by
      have counts := Subscription.exists_statusCounts_pausedIn running
      rw [List.countP_eq_length_filter] at counts
      exact counts
    costs := by
      refine ⟨(subs.filter (·.id.same id)).map p.equivalent, ?_, fun value exact => ?_⟩
      · rw [List.map_map]
        exact mapM_eq_map fun s hs => (priced s (List.mem_filter.mp hs).1).monthlyEquivalent_eq
      · have cost := value_plainSum_filter exact p (Subscription.active subs) fun s => !s.id.same id
        simp only [Bool.not_not, own] at cost
        rw [summaryOf, summaryOf, remaining]
        simp only [value_yearlyCost exact]
        rw [cost]
        exact ⟨rfl, mul_sub _ _ _⟩ }

def memberships : List (Subscription α) :=
  [monthly "gym" 30 Status.active, monthly "news" 12 Status.cancelled,
    monthly "gym" 45 Status.active, monthly "phone" 20 Status.active]
where
  monthly (name : String) (charge : Int) (status : String) : Subscription α := {
    id := .text name
    merchantName := .text name
    amount := .int charge
    pattern := ⟨"monthly", 1, .day ⟨739555, by decide⟩, Scalar.one, none, some 1⟩
    category := .text "Uncategorized"
    firstDetected := .day ⟨739251, by decide⟩
    lastCharged := .day ⟨739524, by decide⟩
    status
    averageAmount := .int charge
    totalSpent := .int (10 * charge) }

theorem memberships_isWellFormed : ∀ s ∈ (memberships : List (Subscription ℝ)), s.IsWellFormed := by
  have each (name : String) (charge : Int) (status : String) :
      (memberships.monthly name charge status : Subscription ℝ).IsWellFormed :=
    ⟨⟨_, rfl⟩, _, rfl⟩
  simp only [memberships, List.forall_mem_cons, each, true_and]
  exact List.forall_mem_nil _

theorem pause_memberships :
    Subscription.applyTo (.text "gym") (·.transition .pause) (memberships : List (Subscription ℝ)) =
      .ok (Subscription.pausedIn (.text "gym") memberships) := rfl

theorem summarize_pause_memberships :
    (∃ before after,
      (standard : Projector ℝ).summarize memberships (.day ⟨739543, by decide⟩) = .ok before ∧
      (standard : Projector ℝ).summarize (Subscription.pausedIn (.text "gym") memberships)
        (.day ⟨739543, by decide⟩) = .ok after ∧
      Summary.IsLeftBy standard (.text "gym") (memberships.filter (·.id.same (.text "gym"))) before
        after) ∧
    Subscription.applyTo (.text "gym") (·.transition .resume)
      (Subscription.pausedIn (.text "gym") (memberships : List (Subscription ℝ))) =
        .ok memberships :=
  summarize_pause standard_isFigured memberships_isWellFormed rfl pause_memberships

end Projector

end RecurringPayments
