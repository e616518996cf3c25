import RecurringPayments.Proofs.Detection.Verdict

/-!
Changes to transactions that keep what detection lists of them. They change the categories of
groups and nothing else.
-/
namespace RecurringPayments

open Result

variable {α : Type}

def RecurringGroup.uncategorised (g : RecurringGroup α) : RecurringGroup α :=
  { g with category := .null }

def Transaction.Relabels (f : Transaction α → Transaction α) : Prop :=
  ∀ t, Member.ofTransaction (f t) = Member.ofTransaction t

namespace Transaction.Relabels

variable {f : Transaction α → Transaction α} (relabels : Transaction.Relabels f)
include relabels

theorem date (t : Transaction α) : (f t).date = t.date := congrArg Member.date (relabels t)

theorem amount (t : Transaction α) : (f t).amount = t.amount := congrArg Member.amount (relabels t)

theorem merchant (t : Transaction α) : (f t).merchant = t.merchant :=
  congrArg Member.description (relabels t)

theorem members (payments : List (Transaction α)) :
    (payments.map f).map Member.ofTransaction = payments.map Member.ofTransaction := by
  rw [List.map_map]
  exact List.map_congr_left fun t _ => relabels t

theorem instant (t : Transaction α) : (f t).instant = t.instant := by
  rw [Transaction.instant, Transaction.instant, relabels.date]

theorem instants (payments : List (Transaction α)) :
    (payments.map f).map (·.instant) = payments.map (·.instant) := by
  rw [List.map_map]
  exact List.map_congr_left fun t _ => relabels.instant t

variable [Scalar α]

theorem key (t : Transaction α) : (f t).key = t.key := by
  rw [Transaction.key, Transaction.key, relabels.merchant]

theorem sizes (payments : List (Transaction α)) :
    (payments.map f).map (fun t => Scalar.abs t.amountFigure) =
      payments.map fun t => Scalar.abs t.amountFigure := by
  rw [List.map_map]
  refine List.map_congr_left fun t _ => ?_
  rw [Function.comp_apply, amountFigure, amountFigure, relabels.amount]

theorem isReadable {ts : List (Transaction α)} (readable : ∀ t ∈ ts, t.IsReadable) :
    ∀ t ∈ ts.map f, t.IsReadable := by
  rw [List.forall_mem_map]
  intro t ht
  refine ⟨?_, ?_⟩
  · rw [relabels.date]
    exact (readable t ht).date
  · rw [relabels.amount]
    exact (readable t ht).amount

theorem timeline_map (ts : List (Transaction α)) (key : String) :
    timeline (ts.map f) key = (timeline ts key).map f :=
  RecurringPayments.timeline_map relabels.key
    (fun s _ t _ => by rw [relabels.instant, relabels.instant]) key

end Transaction.Relabels

namespace Detector

variable [Scalar α] {d : Detector α}

variable {f : Transaction α → Transaction α} (relabels : Transaction.Relabels f)
include relabels

theorem variation_map (payments : List (Transaction α)) :
    variation (payments.map f) = variation payments := by
  rw [variation, variation, relabels.sizes]

theorem describe_map (key : String) (payments : List (Transaction α)) (pattern : Pattern α)
    (isSubscription : Bool) :
    (describe key (payments.map f) pattern isSubscription).uncategorised =
      (describe key payments pattern isSubscription).uncategorised := by
  rw [describe, describe, relabels.members, relabels.sizes, variation_map relabels]
  rfl

theorem report_map (key : String) (payments : List (Transaction α)) :
    (d.report key (payments.map f)).map (Option.map (·.uncategorised)) =
      (d.report key payments).map (Option.map (·.uncategorised)) := by
  rw [report, report, relabels.instants, map_bind_eq, map_bind_eq]
  refine bind_congr fun found => ?_
  cases found with
  | none => rfl
  | some pattern =>
    have steady : d.looksSteady (payments.map f) pattern = d.looksSteady payments pattern := by
      rw [looksSteady, looksSteady, variation_map relabels]
    rw [groupIn, groupIn, steady, map_bind_eq, map_bind_eq]
    refine bind_congr fun isSubscription => ?_
    exact congrArg (fun g => Except.ok (some g)) (describe_map relabels key payments pattern _)

theorem detect_map {ts : List (Transaction α)} (readable : ∀ t ∈ ts, t.IsReadable) :
    (d.detect (ts.map f)).map (List.map (·.uncategorised)) =
      (d.detect ts).map (List.map (·.uncategorised)) := by
  have sure (g : RecurringGroup α) : g.uncategorised.pattern.confidence =
      g.pattern.confidence := rfl
  rw [map_detect (Transaction.forall_isLegible (relabels.isReadable readable)) sure,
    map_detect (Transaction.forall_isLegible readable) sure, merchants_map relabels.key]
  simp only [relabels.timeline_map, report_map relabels]

end Detector

end RecurringPayments
