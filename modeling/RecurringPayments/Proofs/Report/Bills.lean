import RecurringPayments.Proofs.Report.Promotion
import RecurringPayments.Proofs.Report.Rows

/-!
The bills of a report: one for each group that looks like a subscription and is due within the
window, under the number of the group and in the order of the days. The tables of groups and bills
have one line for each.
-/
namespace RecurringPayments

open Result

variable {α : Type} [Scalar α]

structure Transaction.IsNamed (t : Transaction α) : Prop where
  merchant : t.merchant.isText = true
  category : t.category.isText = true

def Report.subscriptionGroups (report : Report α) : List (RecurringGroup α) :=
  report.groups.filter (·.isSubscription)

/-- Bills stand beside the places of the groups that they are for. Every group due within the
window has one bill, and bills of one day keep the order of their groups. -/
structure Report.HasBillsAt (report : Report α) (window : Int) (today : Date)
    (places : List Nat) : Prop where
  each : List.Forall₂ (fun b place => ∃ g, report.subscriptionGroups[place]? = some g ∧
    b.IsFor today place g) report.summary.upcomingBills places
  due : ∀ place, place ∈ places ↔ ∃ g next, report.subscriptionGroups[place]? = some g ∧
    g.pattern.nextDate = .day next ∧ today.daysTo next ≤ window
  once : places.Nodup
  order : (report.summary.upcomingBills.zip places).Pairwise fun p q =>
    p.1.daysUntilDue < q.1.daysUntilDue ∨ p.1.daysUntilDue = q.1.daysUntilDue ∧ p.2 < q.2

namespace Report.IsMadeBy

variable {report : Report α} {a : Analyst α} {ts : List (Transaction α)} {rules : List (Rule α)}
  {today : Date} (made : report.IsMadeBy a ts rules (.day today))
include made

theorem drawn : ∀ g ∈ report.groups, g.IsDrawnFrom ts :=
  fun _ hg => Detector.of_detect made.groups hg

end Report.IsMadeBy

omit [Scalar α] in
theorem Report.HasBillsAt.distinct {report : Report α} {window : Int} {today : Date}
    {places : List Nat} (h : report.HasBillsAt window today places) :
    (report.summary.upcomingBills.map (·.subscription.id)).Nodup := by
  have ids := map_eq_map_of_forall₂ (g := Analyst.promotedId) h.each
    fun b place ⟨g, _, bill⟩ => bill.id
  rw [ids]
  exact h.once.map fun _ _ => Analyst.promotedId_injective

def paymentUnder (id merchant : String) (d : Date) (amount : Float) : Transaction Float where
  id := .text id
  date := .day d
  amount := .real amount
  merchant := .text merchant
  category := .text "Other"
  account := .text "acc-1"
  type := .text "expense"
  status := .text "completed"

def streamingPayments : List (Transaction Float) := [
  paymentUnder "t-1" "netflix" ⟨738300, by decide⟩ 15.99,
  paymentUnder "t-2" "Gym" ⟨738330, by decide⟩ 30,
  paymentUnder "t-3" "Netflix" ⟨738330, by decide⟩ 15.99,
  paymentUnder "t-4" "NETFLIX Inc." ⟨738360, by decide⟩ 15.99]

theorem forall_streamingPayments {p : Transaction Float → Prop}
    (each : ∀ id merchant d amount, (When.day d).InEra → p (paymentUnder id merchant d amount)) :
    ∀ t ∈ streamingPayments, p t := by
  simp only [streamingPayments, List.forall_mem_cons]
  refine ⟨each _ _ _ _ ?_, each _ _ _ _ ?_, each _ _ _ _ ?_, each _ _ _ _ ?_, by simp⟩
  all_goals decide

theorem streamingPayments_isReadable : ∀ t ∈ streamingPayments, t.IsReadable :=
  forall_streamingPayments fun _ _ _ _ inEra => ⟨inEra, _, rfl⟩

open Detector in
theorem exists_group_streamingPayments {groups : List (RecurringGroup Float)}
    (detected : standard.detect streamingPayments = .ok groups) :
    ∃ g ∈ groups, g.isSubscription = true ∧ g.pattern.nextDate = .day ⟨738390, by decide⟩ ∧
      g.members.getLast?.map (·.description) = some (.text "NETFLIX Inc.") := by
  have ordered : timeline streamingPayments "netflix" = ofMerchant streamingPayments "netflix" := by
    apply timeline_of_ascending
    decide +kernel
  have sure : ((standard.report "netflix"
      (ofMerchant streamingPayments "netflix")).toOption.join.map
        fun g => (g.isSubscription, g.merchantKey, g.pattern.nextDate)) =
      some (true, "netflix", .day ⟨738390, by decide⟩) := by
    decide +kernel
  obtain ⟨g, found, facts⟩ := Option.map_eq_some_iff.mp sure
  have reported : standard.report "netflix" (ofMerchant streamingPayments "netflix") =
      .ok (some g) := by
    cases ran : (standard : Detector Float).report "netflix"
        (ofMerchant streamingPayments "netflix") with
    | error fault =>
      rw [ran] at found
      cases found
    | ok group =>
      rw [ran] at found
      exact congrArg Except.ok found
  obtain ⟨steady, key, nextDate⟩ : g.isSubscription = true ∧ g.merchantKey = "netflix" ∧
      g.pattern.nextDate = .day ⟨738390, by decide⟩ := by simpa using facts
  have hg : g ∈ groups := by
    rw [mem_detect (Transaction.forall_isLegible streamingPayments_isReadable) detected,
      key, ordered]
    exact ⟨by decide +kernel, reported⟩
  refine ⟨g, hg, steady, nextDate, ?_⟩
  rw [(of_mem_detect streamingPayments_isReadable detected hg).2, key, ordered]
  rfl

end RecurringPayments
