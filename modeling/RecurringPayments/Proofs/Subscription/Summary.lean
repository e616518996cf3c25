import RecurringPayments.Proofs.Subscription.Categories
import RecurringPayments.Proofs.Value.Numeric

/-!
When a summary can be drawn up, and what it then says. The configuration holds numbers where numbers
belong; the subscriptions are like those of detected groups, charged in figures and due on days, or
the factors are figures and the amounts any numbers.
-/
namespace RecurringPayments

open Result

variable {α : Type} [Scalar α]

omit [Scalar α] in
theorem Value.exists_mem_of_entry? {key : String} {entries : List (Value α × Value α)} {v : Value α}
    (found : entry? key entries = some v) : ∃ e ∈ entries, e.2 = v := by
  fun_induction entry? key entries with
  | case1 => cases found
  | case2 k w rest same =>
    cases found
    exact ⟨_, .head _, rfl⟩
  | case3 k w rest other ih =>
    obtain ⟨e, he, value⟩ := ih found
    exact ⟨e, .tail _ he, value⟩
  | case4 e rest noText ih =>
    obtain ⟨e, he, value⟩ := ih found
    exact ⟨e, .tail _ he, value⟩

theorem Value.exists_mul {v w : Value α} (left : ∃ x, v.scalar = .ok x)
    (right : ∃ y, w.scalar = .ok y) (figure : v.whole? = none ∨ w.whole? = none) :
    ∃ z, v.mul w = .ok (.real z) := by
  obtain ⟨x, hx⟩ := left
  obtain ⟨y, hy⟩ := right
  have mixed : v.mul w = do return .real (Scalar.mul (← v.scalar) (← w.scalar)) := by
    rw [mul, combine]
    split
    · rename_i whole whole'
      rcases figure with none | none
      · rw [none] at whole
        cases whole
      · rw [none] at whole'
        cases whole'
    · rfl
  exact ⟨Scalar.mul x y, by rw [mixed, hx, hy]; rfl⟩

theorem Value.isOrdered_of_scalar {v : Value α} {x : α} (number : v.scalar = .ok x) :
    v.isOrdered = true := by
  cases v with
  | bool b => rfl
  | int n => rfl
  | real y => rfl
  | _ => cases number

structure Subscription.IsDue (s : Subscription α) : Prop where
  amount : ∃ x, s.amount = .real x
  nextDate : ∃ day, s.pattern.nextDate = .day day

def Subscription.IsDated (s : Subscription α) : Prop := ∃ day, s.pattern.nextDate.toDate = .ok day

structure Subscription.IsWellFormed (s : Subscription α) : Prop where
  amount : ∃ x, s.amount.scalar = .ok x
  nextDate : ∃ day, s.pattern.nextDate.toDate = .ok day

theorem Subscription.exists_totalSize {amounts : List (Value α)}
    (whole : ∀ v ∈ amounts, ∃ n, v = .int n) : ∃ total, totalSize amounts = .ok total := by
  have sum (m : Int) : ∃ total, amounts.foldlM (fun total a => do total.add (← a.magnitude))
      (.int m : Value α) = .ok total := by
    induction amounts generalizing m with
    | nil => exact ⟨_, rfl⟩
    | cons v rest ih =>
      rw [List.forall_mem_cons] at whole
      obtain ⟨n, rfl⟩ := whole.1
      exact ih whole.2 (m + n.natAbs)
  exact sum 0

namespace Projector

/-! ### The configuration -/

def IsFactors (block : Value α) (entries : List (Value α × Value α)) : Prop :=
  block = .mapping entries ∧ ∀ e ∈ entries, ∃ y, e.2.scalar = .ok y

structure IsNumeric (p : Projector α) : Prop where
  monthly : ∃ entries, IsFactors p.monthlyFactors entries ∧
    (Value.entry? "daily" entries).isSome = true
  category : ∃ entries, IsFactors p.categoryFactors entries
  window : p.window.isOrdered = true
  reviewThreshold : p.reviewThreshold.isOrdered = true

/-- Numeric, and the factors are figures, so that whole amounts become figures too. -/
structure IsFigured (p : Projector α) : Prop where
  monthly : ∃ entries, p.monthlyFactors = .mapping entries ∧ (∀ e ∈ entries, ∃ y, e.2 = .real y) ∧
    (Value.entry? "daily" entries).isSome = true
  category : ∃ entries, p.categoryFactors = .mapping entries ∧ ∀ e ∈ entries, ∃ y, e.2 = .real y
  window : p.window.isOrdered = true
  reviewThreshold : p.reviewThreshold.isOrdered = true

section

variable {p : Projector α} {P : Value α → Prop} {entries : List (Value α × Value α)}

omit [Scalar α] in
theorem of_entry? (each : ∀ e ∈ entries, P e.2) {key : String} {v : Value α}
    (found : Value.entry? key entries = some v) : P v := by
  obtain ⟨e, he, rfl⟩ := Value.exists_mem_of_entry? found
  exact each e he

omit [Scalar α] in
theorem exists_monthlyFactor (block : p.monthlyFactors = .mapping entries)
    (each : ∀ e ∈ entries, P e.2) (known : (Value.entry? "daily" entries).isSome = true)
    (frequency : String) : ∃ factor, p.monthlyFactor frequency = .ok factor ∧ P factor := by
  obtain ⟨daily, hdaily⟩ := Option.isSome_iff_exists.mp known
  have entry : Settings.entryOf p.monthlyFactors "daily" = .ok daily := by
    rw [block, Settings.entryOf, hdaily]
  refine ⟨(Value.entry? frequency entries).getD daily, ?_, ?_⟩
  · rw [monthlyFactor, entry, block]
    rfl
  · cases found : Value.entry? frequency entries with
    | none => exact of_entry? each hdaily
    | some v => exact of_entry? each found

theorem exists_categoryFactor (block : p.categoryFactors = .mapping entries)
    (each : ∀ e ∈ entries, P e.2) (one : P (.real Scalar.one)) (frequency : String) :
    ∃ factor, p.categoryFactor frequency = .ok factor ∧ P factor := by
  refine ⟨(Value.entry? frequency entries).getD (.real Scalar.one), ?_, ?_⟩
  · rw [categoryFactor, block]
    rfl
  · cases found : Value.entry? frequency entries with
    | none => exact one
    | some v => exact of_entry? each found

end

/-! ### Subscriptions that can be summed up -/

/-- All that a summary computes of a subscription can be computed. -/
structure Prices (p : Projector α) (s : Subscription α) : Prop where
  equivalent : ∃ x, p.monthlyEquivalent s = .ok (.real x)
  charge : ∃ x, p.categoryCharge s = .ok ⟨s.category, .real x⟩
  reviewed : ∃ b, p.isToReview s = .ok b
  nextDate : ∃ day, s.pattern.nextDate.toDate = .ok day

section

variable {p : Projector α} {s : Subscription α}

theorem prices_of_factors {P : Value α → Prop} (wellFormed : s.IsWellFormed)
    (monthly : ∃ factor, p.monthlyFactor s.pattern.frequency = .ok factor ∧ P factor)
    (category : ∃ factor, p.categoryFactor s.pattern.frequency = .ok factor ∧ P factor)
    (product : ∀ factor, P factor → ∃ z, s.amount.mul factor = .ok (.real z))
    (threshold : p.reviewThreshold.isOrdered = true) : p.Prices s where
  equivalent := by
    obtain ⟨factor, found, fit⟩ := monthly
    obtain ⟨z, scaled⟩ := product factor fit
    exact ⟨z, by rw [monthlyEquivalent, found, ok_bind, scaled]⟩
  charge := by
    obtain ⟨factor, found, fit⟩ := category
    obtain ⟨z, scaled⟩ := product factor fit
    exact ⟨z, by rw [categoryCharge, found, ok_bind, scaled]; rfl⟩
  reviewed := by
    obtain ⟨x, number⟩ := wellFormed.amount
    rw [isToReview]
    split
    · exact ⟨true, rfl⟩
    · exact Value.exists_isBelow threshold (Value.isOrdered_of_scalar number)
  nextDate := wellFormed.nextDate

theorem prices_of_numeric (numeric : p.IsNumeric) (due : s.IsDue) : p.Prices s := by
  obtain ⟨monthly, ⟨block, numbers⟩, known⟩ := numeric.monthly
  obtain ⟨category, block', numbers'⟩ := numeric.category
  obtain ⟨x, figure⟩ := due.amount
  obtain ⟨day, nextDate⟩ := due.nextDate
  refine prices_of_factors (P := fun w => ∃ y, w.scalar = .ok y) ⟨⟨x, ?_⟩, day, ?_⟩
    (exists_monthlyFactor block numbers known _) (exists_categoryFactor block' numbers' ⟨_, rfl⟩ _)
    (fun factor number => ?_) numeric.reviewThreshold
  · rw [figure]
    rfl
  · rw [nextDate]
    rfl
  · rw [figure]
    exact Value.exists_mul ⟨x, rfl⟩ number (.inl rfl)

theorem prices_of_figured (figured : p.IsFigured) (wellFormed : s.IsWellFormed) : p.Prices s := by
  obtain ⟨monthly, block, figures, known⟩ := figured.monthly
  obtain ⟨category, block', figures'⟩ := figured.category
  refine prices_of_factors (P := fun w => ∃ y, w = .real y) wellFormed
    (exists_monthlyFactor block figures known _) (exists_categoryFactor block' figures' ⟨_, rfl⟩ _)
    ?_ figured.reviewThreshold
  rintro factor ⟨y, rfl⟩
  exact Value.exists_mul wellFormed.amount ⟨y, rfl⟩ (.inr rfl)

end

/-! ### The summary -/

def equivalent (p : Projector α) (s : Subscription α) : α :=
  (p.monthlyEquivalent s >>= Value.scalar).toOption.getD Scalar.zero

def isReviewed (p : Projector α) (s : Subscription α) : Bool := (p.isToReview s).toOption.getD false

def bill? (p : Projector α) (today : When) (s : Subscription α) : Option (Bill α) :=
  (Bill.ofSubscription p.window today s).toOption.join

def summaryOf (p : Projector α) (subs : List (Subscription α)) (today : When) (day : Date)
    (spending : List (String × α)) : Summary α where
  today := day
  active := Subscription.active subs
  monthlyCost := plainSum ((Subscription.active subs).map p.equivalent)
  yearlyProjection := yearlyCost (plainSum ((Subscription.active subs).map p.equivalent))
  upcomingBills := ((Subscription.active subs).filterMap (p.bill? today)).mergeSort Bill.isNoLater
  categorySpending := spending
  toReview := (Subscription.active subs).filter p.isReviewed
  statusCounts := Subscription.statusCounts subs

section

variable {p : Projector α}

theorem Prices.monthlyEquivalent_eq {s : Subscription α} (priced : p.Prices s) :
    p.monthlyEquivalent s = .ok (.real (p.equivalent s)) := by
  obtain ⟨x, hx⟩ := priced.equivalent
  rw [Projector.equivalent, hx]
  rfl

variable {subs : List (Subscription α)}

theorem upcoming_dated {today : When} {day : Date} (ordered : p.window.isOrdered = true)
    (due : ∀ s ∈ subs, s.IsDated) (dated : today.toDate = .ok day) :
    Bill.upcoming p.window subs today =
      .ok ((subs.filterMap (p.bill? today)).mergeSort Bill.isNoLater) := by
  have each : ∀ s ∈ subs, Bill.ofSubscription p.window today s = .ok (p.bill? today s) := by
    intro s hs
    obtain ⟨next, hnext⟩ := due s hs
    obtain ⟨late, compared⟩ := Value.exists_isBelow (w := .int (day.daysTo next)) ordered rfl
    rw [bill?, Bill.ofSubscription, Schedule.daysUntil, hnext, dated]
    simp only [ok_bind, pure_eq, compared]
    cases late <;> rfl
  rw [Bill.upcoming, filterMapM_eq_filterMap each]
  rfl

variable (priced : ∀ s ∈ subs, p.Prices s)
include priced

theorem monthlyCost_eq : p.monthlyCost subs = .ok (plainSum (subs.map p.equivalent)) := by
  have each : ∀ s ∈ subs, ∀ total : α,
      (do return Scalar.add total (← (← p.monthlyEquivalent s).scalar) : Except Fault α) =
        .ok (Scalar.add total (p.equivalent s)) := by
    intro s hs total
    rw [(priced s hs).monthlyEquivalent_eq]
    rfl
  rw [monthlyCost, foldlM_eq_foldl each, plainSum, List.foldl_map]

theorem toReview_eq : p.toReview subs = .ok (subs.filter p.isReviewed) := by
  refine filterM_eq_filter fun s hs => ?_
  obtain ⟨b, hb⟩ := (priced s hs).reviewed
  rw [isReviewed, hb]
  rfl

theorem upcoming_priced {today : When} {day : Date} (ordered : p.window.isOrdered = true)
    (dated : today.toDate = .ok day) : Bill.upcoming p.window subs today =
      .ok ((subs.filterMap (p.bill? today)).mergeSort Bill.isNoLater) :=
  upcoming_dated ordered (fun s hs => (priced s hs).nextDate) dated

theorem exists_spending : ∃ spending, p.categorySpending subs = .ok spending := by
  obtain ⟨charges, charged⟩ : ∃ charges, subs.mapM p.categoryCharge = .ok charges := by
    refine exists_mapM fun s hs => ?_
    obtain ⟨x, hx⟩ := (priced s hs).charge
    exact ⟨_, hx⟩
  refine p.exists_categorySpending_of_sizes charged fun c hc => ?_
  obtain ⟨s, hs, one⟩ := exists_of_mem_mapM charged hc
  obtain ⟨x, hx⟩ := (priced s hs).charge
  rw [hx, Except.ok.injEq] at one
  exact ⟨x, by rw [← one]⟩

theorem exists_summarize_eq {today : When} {day : Date} (ordered : p.window.isOrdered = true)
    (dated : today.toDate = .ok day) :
    ∃ spending, p.summarize subs today = .ok (p.summaryOf subs today day spending) := by
  have activePriced : ∀ s ∈ Subscription.active subs, p.Prices s :=
    fun s hs => priced s (List.mem_filter.mp hs).1
  obtain ⟨spending, hspending⟩ := exists_spending activePriced
  rw [summarize, monthlyCost_eq activePriced, dated, upcoming_priced activePriced ordered dated,
    hspending, toReview_eq activePriced]
  exact ⟨spending, rfl⟩

end

theorem exists_summarize {p : Projector α} (numeric : p.IsNumeric) {subs : List (Subscription α)}
    (due : ∀ s ∈ subs, s.IsDue) {today : When} {day : Date} (dated : today.toDate = .ok day) :
    ∃ summary, p.summarize subs today = .ok summary := by
  obtain ⟨spending, done⟩ := exists_summarize_eq
    (fun s hs => prices_of_numeric numeric (due s hs)) numeric.window dated
  exact ⟨_, done⟩

open Settings in
def standard : Projector α where
  monthlyFactors := defaultMonthlyFactors
  categoryFactors := defaultCategoryFactors
  window := .int 30
  reviewThreshold := figure 500 1

theorem ofSettings_none : ofSettings (Settings.none : Settings α) = .ok standard := rfl

theorem standard_isNumeric : (standard : Projector α).IsNumeric where
  monthly := by
    refine ⟨_, ⟨rfl, ?_⟩, rfl⟩
    simp [Settings.figure, Settings.third, Settings.twelfth, Value.scalar]
  category := by
    refine ⟨_, rfl, ?_⟩
    simp [Settings.figure, Settings.third, Settings.twelfth, Value.scalar]
  window := rfl
  reviewThreshold := rfl

theorem standard_isFigured : (standard : Projector α).IsFigured where
  monthly := by
    refine ⟨_, rfl, ?_, rfl⟩
    simp [Settings.figure, Settings.third, Settings.twelfth]
  category := by
    refine ⟨_, rfl, ?_⟩
    simp [Settings.figure, Settings.third, Settings.twelfth]
  window := rfl
  reviewThreshold := rfl

end Projector

end RecurringPayments
