import RecurringPayments.Proofs.List.Placed
import RecurringPayments.Proofs.Number.Floating
import RecurringPayments.Proofs.Subscription.DueText
import RecurringPayments.Proofs.Subscription.Summary

/-!
Bills of subscriptions with readable dates, under a window that is a number. There is one for each
subscription due within the window, however long it is past; as days pass, bills only come nearer
and others join them at the far end of the window.
-/
namespace RecurringPayments

open Result

/-- At most so many days after a day, or any time before it. -/
def Date.IsWithin (next : Date) (window : EReal) (day : Date) : Prop :=
  ((day.daysTo next : ℝ) : EReal) ≤ window

theorem Date.isWithin_later {next day later : Date} {days : Nat} (passed : day.daysTo later = days)
    (window : EReal) : next.IsWithin window later ↔ next.IsWithin (window + (days : ℝ)) day := by
  have distance : ((day.daysTo next : ℝ) : EReal) = (later.daysTo next : ℝ) + (days : ℝ) := by
    rw [← Date.daysTo_add_daysTo day later next, passed, add_comm]
    push_cast
    rfl
  rw [IsWithin, IsWithin, distance]
  exact (EReal.addLECancellable_coe _).add_le_add_iff_right.symm

variable {α : Type} [Scalar α]

namespace Bill

def dueOn (next day : Date) (s : Subscription α) : Bill α where
  subscription := s
  dueDate := next
  estimatedAmount := s.averageAmount
  daysUntilDue := day.daysTo next
  isPastDue := day.daysTo next < 0

def nearer (days : Nat) (b : Bill α) : Bill α :=
  { b with daysUntilDue := b.daysUntilDue - days, isPastDue := b.daysUntilDue - days < 0 }

structure IsOf (b : Bill α) (s : Subscription α) (today : When) (day : Date) : Prop where
  subscription : b.subscription = s
  estimatedAmount : b.estimatedAmount = s.averageAmount
  dueDate : s.pattern.nextDate.toDate = .ok b.dueDate
  away : b.dueDate.IsAway b.daysUntilDue day
  isPastDue_iff : b.isPastDue = true ↔ b.dueDate.name.Precedes day.name
  isOverdue_iff : b.isPastDue = true ↔
    Schedule.nextBillingText s.pattern.nextDate today = .ok "Overdue"

/-- Bills stand beside the places of the subscriptions that they are of. Every subscription due
within the window has one bill, and bills of one day keep the order of their subscriptions. -/
structure AreDue (subs : List (Subscription α)) (window : EReal) (today : When) (day : Date)
    (bills : List (Bill α)) (places : List Nat) : Prop where
  each : List.Forall₂ (fun b place => ∃ s, subs[place]? = some s ∧ b.IsOf s today day) bills places
  due : ∀ place, place ∈ places ↔ ∃ s next, subs[place]? = some s ∧
    s.pattern.nextDate.toDate = .ok next ∧ next.IsWithin window day
  once : places.Nodup
  order : (bills.zip places).Pairwise fun p q =>
    p.1.daysUntilDue < q.1.daysUntilDue ∨ p.1.daysUntilDue = q.1.daysUntilDue ∧ p.2 < q.2

omit [Scalar α] in
theorem isOf_dueOn {s : Subscription α} {today : When} {next day : Date}
    (hnext : s.pattern.nextDate.toDate = .ok next) (htoday : today.toDate = .ok day) :
    (dueOn next day s).IsOf s today day where
  subscription := rfl
  estimatedAmount := rfl
  dueDate := hnext
  away := day.isAway_daysTo next
  isPastDue_iff := by
    rw [dueOn, decide_eq_true_iff]
    exact (day.isAway_daysTo next).precedes_iff
  isOverdue_iff := by
    rw [dueOn, decide_eq_true_iff, Schedule.nextBillingText_eq hnext htoday, Except.ok.injEq,
      Schedule.dueText_eq_overdue_iff]
    exact (day.isAway_daysTo next).precedes_iff

end Bill

namespace Projector

def schedule (p : Projector α) (today : When) (subs : List (Subscription α)) :
    List (Bill α × Nat) :=
  Placed.sorted Bill.isNoLater (p.bill? today) subs

variable [LawfulScalar α] {p : Projector α} {window : EReal}
  (numeric : p.window.number? = some window) {today : When} {day : Date}
  (htoday : today.toDate = .ok day)
include numeric htoday

open Classical in
theorem bill?_eq {s : Subscription α} {next : Date} (hnext : s.pattern.nextDate.toDate = .ok next) :
    p.bill? today s = if next.IsWithin window day then some (Bill.dueOn next day s) else none := by
  have distance : (Value.int (day.daysTo next) : Value α).number? =
      some ((day.daysTo next : ℝ) : EReal) := rfl
  rw [bill?, Bill.ofSubscription, Schedule.daysUntil_eq hnext htoday, ok_bind,
    Value.isBelow_number numeric distance, ok_bind, hnext]
  by_cases within : next.IsWithin window day
  · rw [if_pos within, decide_eq_false (not_lt.mpr within)]
    rfl
  · rw [if_neg within, decide_eq_true (not_le.mp within)]
    rfl

open Classical in
theorem map_nearer_bill? {later : When} {day' : Date} (hlater : later.toDate = .ok day')
    {days : Nat}
    (passed : day.daysTo day' = days) {s : Subscription α} (dated : s.IsDated) :
    (p.bill? today s).map (Bill.nearer days) =
      (p.bill? later s).filter fun b => b.dueDate.IsWithin window day := by
  obtain ⟨next, hnext⟩ := dated
  rw [bill?_eq numeric htoday hnext, bill?_eq numeric hlater hnext, Date.isWithin_later passed]
  have distance : day.daysTo next - days = day'.daysTo next := by
    rw [← Date.daysTo_add_daysTo day day' next, passed, add_sub_cancel_left]
  have same : (Bill.dueOn next day s).nearer days = Bill.dueOn next day' s := by
    simp only [Bill.dueOn, Bill.nearer, distance]
  have due : (Bill.dueOn next day' s).dueDate = next := rfl
  by_cases within : next.IsWithin window day
  · have longer : next.IsWithin (window + (days : ℝ)) day := by
      refine le_trans within (le_add_of_nonneg_right ?_)
      exact EReal.coe_nonneg.mpr (Nat.cast_nonneg days)
    rw [if_pos within, if_pos longer, Option.map_some, same]
    simp [Option.filter, due, within]
  · rw [if_neg within, Option.map_none]
    split <;> simp [Option.filter, due, within]

variable {subs : List (Subscription α)} (dated : ∀ s ∈ subs, s.IsDated)
include dated

theorem upcoming_eq_schedule :
    Bill.upcoming p.window subs today = .ok ((p.schedule today subs).map (·.1)) := by
  rw [upcoming_dated (Value.isOrdered_of_number numeric) dated htoday, schedule,
    Placed.map_fst_sorted]

theorem mem_schedule {q : Bill α × Nat} : q ∈ p.schedule today subs ↔
    ∃ s next, subs[q.2]? = some s ∧ s.pattern.nextDate.toDate = .ok next ∧
      next.IsWithin window day ∧ q.1 = Bill.dueOn next day s := by
  rw [schedule, Placed.mem_sorted]
  constructor
  · rintro ⟨s, hs, made⟩
    obtain ⟨next, hnext⟩ := dated s (List.mem_of_getElem? hs)
    rw [bill?_eq numeric htoday hnext] at made
    split at made
    · rename_i within
      exact ⟨s, next, hs, hnext, within, (Option.some.inj made).symm⟩
    · cases made
  · rintro ⟨s, next, hs, hnext, within, made⟩
    refine ⟨s, hs, ?_⟩
    rw [bill?_eq numeric htoday hnext, if_pos within, made]

theorem areDue_schedule : Bill.AreDue subs window today day ((p.schedule today subs).map (·.1))
    ((p.schedule today subs).map (·.2)) := by
  constructor
  case each =>
    rw [List.forall₂_map_left_iff, List.forall₂_map_right_iff, List.forall₂_same]
    intro q hq
    obtain ⟨s, next, hs, hnext, -, made⟩ := (mem_schedule numeric htoday dated).mp hq
    exact ⟨s, hs, made ▸ Bill.isOf_dueOn hnext htoday⟩
  case due =>
    intro place
    rw [List.mem_map]
    constructor
    · rintro ⟨q, hq, rfl⟩
      obtain ⟨s, next, hs, hnext, within, -⟩ := (mem_schedule numeric htoday dated).mp hq
      exact ⟨s, next, hs, hnext, within⟩
    · rintro ⟨s, next, hs, hnext, within⟩
      exact ⟨(Bill.dueOn next day s, place),
        (mem_schedule numeric htoday dated).mpr ⟨s, next, hs, hnext, within, rfl⟩, rfl⟩
  case once => exact Placed.nodup_sorted
  case order =>
    rw [List.zip_map', List.map_id']
    exact Placed.pairwise_sorted fun _ _ => rfl

theorem schedule_later {later : When} {day' : Date} (hlater : later.toDate = .ok day') {days : Nat}
    (passed : day.daysTo day' = days) :
    ((p.schedule today subs).map fun q => (q.1.nearer days, q.2)).Sublist
      (p.schedule later subs) := by
  classical
  let keep (b : Bill α) : Bool := b.dueDate.IsWithin window day
  have ranked : ∀ q ∈ Placed.placed (p.bill? later) subs,
      ∀ r ∈ Placed.placed (p.bill? later) subs,
        Bill.isNoLater q.1 r.1 = decide (q.1.daysUntilDue ≤ r.1.daysUntilDue) :=
    fun _ _ _ _ => rfl
  have nearer : (p.schedule today subs).map (fun q => (q.1.nearer days, q.2)) =
      ((Placed.placed (p.bill? today) subs).map fun q => (q.1.nearer days, q.2)).mergeSort
        fun q r => Bill.isNoLater q.1 r.1 := by
    refine List.map_mergeSort fun q _ r _ => ?_
    simp only [Bill.isNoLater, Bill.nearer, sub_le_sub_iff_right]
  have kept : (p.schedule later subs).filter (fun q => keep q.1) =
      ((Placed.placed (p.bill? later) subs).filter fun q => keep q.1).mergeSort
        fun q r => Bill.isNoLater q.1 r.1 :=
    StableSort.filter_mergeSort ranked _
  rw [nearer, Placed.map_placed_eq_filter_placed fun s hs =>
    map_nearer_bill? numeric htoday hlater passed (dated s hs), ← kept]
  exact List.filter_sublist

end Projector

def mixedDues : List (Subscription Float) :=
  [dueOn "coffee" (.day ⟨739548, by decide⟩),
    dueOn "gym" (.moment ⟨⟨739538, by decide⟩, 82800000000, none⟩),
    dueOn "insurance" (.day ⟨739585, by decide⟩),
    dueOn "rent" (.day ⟨739573, by decide⟩),
    dueOn "coffee" (.moment ⟨⟨739548, by decide⟩, 3600000000, none⟩)]
where
  dueOn (name : String) (next : When) : Subscription Float := {
    id := .text name
    merchantName := .text name
    amount := .int 16
    pattern := ⟨"monthly", 1, next, Scalar.one, none, some 1⟩
    category := .text "Uncategorized"
    firstDetected := .day ⟨739244, by decide⟩
    lastCharged := .day ⟨739518, by decide⟩
    status := Status.active
    averageAmount := .int 16
    totalSpent := .int 160 }

theorem mixedDues_isDated : ∀ s ∈ mixedDues, s.IsDated := by
  have each (name : String) {next : When} (dated : ∃ day, next.toDate = .ok day) :
      (mixedDues.dueOn name next).IsDated := dated
  simp only [mixedDues, List.forall_mem_cons]
  exact ⟨each _ ⟨_, rfl⟩, each _ ⟨_, rfl⟩, each _ ⟨_, rfl⟩, each _ ⟨_, rfl⟩, each _ ⟨_, rfl⟩,
    List.forall_mem_nil _⟩

/-! ### The bills of a day and of a later one -/

namespace Projector

variable [LawfulScalar α] {p : Projector α} {window : EReal}
  (numeric : p.window.number? = some window) {today : When} {day : Date}
  (htoday : today.toDate = .ok day) {subs : List (Subscription α)} (dated : ∀ s ∈ subs, s.IsDated)
include numeric htoday dated

/-- The bills that come up are those of the subscriptions due within the window, in the order of
their days. -/
theorem upcoming_areDue : ∃ bills places, Bill.upcoming p.window subs today = .ok bills ∧
    Bill.AreDue subs window today day bills places :=
  ⟨_, _, upcoming_eq_schedule numeric htoday dated, areDue_schedule numeric htoday dated⟩

omit numeric htoday dated in
theorem upcoming_areDue_mixedDues : ∃ bills places,
    Bill.upcoming (standard : Projector Float).window mixedDues (.day ⟨739543, by decide⟩) =
      .ok bills ∧
    Bill.AreDue mixedDues (((30 : ℤ) : ℝ) : EReal) (.day ⟨739543, by decide⟩) ⟨739543, by decide⟩
      bills places :=
  upcoming_areDue rfl rfl mixedDues_isDated

/-- As days pass the bills stay, in their order and nearer by these days; those that join them are
of the subscriptions due in the days after the end of the window there was. -/
theorem upcoming_later {later : When} {day' : Date} (hlater : later.toDate = .ok day') {days : Nat}
    (passed : day.addDays? days = some day') :
    ∃ before after places places',
      Bill.upcoming p.window subs today = .ok before ∧
      Bill.upcoming p.window subs later = .ok after ∧
      Bill.AreDue subs window today day before places ∧
      Bill.AreDue subs window later day' after places' ∧
      ((before.map (Bill.nearer days)).zip places).Sublist (after.zip places') ∧
      ∀ place, (place ∈ places' ∧ place ∉ places) ↔
        ∃ s next, subs[place]? = some s ∧ s.pattern.nextDate.toDate = .ok next ∧
          ¬ next.IsWithin window day ∧ next.IsWithin (window + (days : ℝ)) day := by
  rw [Date.addDays?_eq_some_iff] at passed
  have due := areDue_schedule numeric htoday dated
  have due' := areDue_schedule numeric hlater dated
  refine ⟨_, _, _, _, upcoming_eq_schedule numeric htoday dated,
    upcoming_eq_schedule numeric hlater dated, due, due', ?_, fun place => ?_⟩
  · rw [List.map_map, List.zip_map', List.zip_map', List.map_id']
    exact schedule_later numeric htoday dated hlater passed
  · rw [due'.due, due.due]
    constructor
    · rintro ⟨⟨s, next, hs, hnext, within⟩, absent⟩
      rw [Date.isWithin_later passed] at within
      exact ⟨s, next, hs, hnext, fun before => absent ⟨s, next, hs, hnext, before⟩, within⟩
    · rintro ⟨s, next, hs, hnext, beyond, within⟩
      refine ⟨⟨s, next, hs, hnext, (Date.isWithin_later passed window).mpr within⟩, ?_⟩
      rintro ⟨s', next', hs', hnext', before⟩
      obtain rfl := Option.some.inj (hs.symm.trans hs')
      obtain rfl := Except.ok.inj (hnext.symm.trans hnext')
      exact beyond before

omit numeric htoday dated in
theorem upcoming_later_mixedDues : ∃ before after places places',
    Bill.upcoming (standard : Projector Float).window mixedDues (.day ⟨739543, by decide⟩) =
      .ok before ∧
    Bill.upcoming (standard : Projector Float).window mixedDues
      (.moment ⟨⟨739555, by decide⟩, 7200000000, none⟩) = .ok after ∧
    ((before.map (Bill.nearer 12)).zip places).Sublist (after.zip places') ∧
    2 ∈ places' ∧ 2 ∉ places := by
  obtain ⟨before, after, places, places', first, second, -, -, stay, joined⟩ :=
    @upcoming_later Float _ _ standard _ rfl (.day ⟨739543, by decide⟩) _ rfl _ mixedDues_isDated
      (.moment ⟨⟨739555, by decide⟩, 7200000000, none⟩) _ rfl 12 (by decide)
  refine ⟨before, after, places, places', first, second, stay, (joined 2).mpr ?_⟩
  have ahead : (⟨739543, by decide⟩ : Date).daysTo ⟨739585, by decide⟩ = 42 := by decide
  refine ⟨_, ⟨739585, by decide⟩, rfl, rfl, ?_, ?_⟩
  · rw [Date.IsWithin, ahead, EReal.coe_le_coe_iff]
    norm_num
  · rw [Date.IsWithin, ahead, ← EReal.coe_add, EReal.coe_le_coe_iff]
    norm_num

end Projector

end RecurringPayments
