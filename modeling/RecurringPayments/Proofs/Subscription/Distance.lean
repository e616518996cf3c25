import RecurringPayments.Proofs.Calendar.Succession
import RecurringPayments.Proofs.Result
import RecurringPayments.Subscription.Schedule

/-!
How far away a due date is: so many days in the calendar, whatever the times of day.
-/
namespace RecurringPayments

open Result

@[simp] theorem When.toDate_day (d : Date) : (When.day d).toDate = .ok d := rfl

@[simp] theorem When.toDate_moment (m : Moment) : (When.moment m).toDate = .ok m.date := rfl

namespace Schedule

theorem daysUntil_eq {target today : When} {due now : Date} (htarget : target.toDate = .ok due)
    (htoday : today.toDate = .ok now) : daysUntil target today = .ok (now.daysTo due) := by
  rw [daysUntil, htarget, ok_bind, htoday, ok_bind, pure_eq]

/-- Distances lead from date to date in the calendar, add up, and know no time of day. -/
theorem daysUntil_isAway {a b c : When} {x y z : Date} (ha : a.toDate = .ok x)
    (hb : b.toDate = .ok y) (hc : c.toDate = .ok z) :
    ∃ n m : Int, daysUntil a b = .ok n ∧ daysUntil b c = .ok m ∧ daysUntil a c = .ok (n + m) ∧
      x.IsAway n y ∧
      ∀ a' b' : When, a'.toDate = .ok x → b'.toDate = .ok y → daysUntil a' b' = .ok n := by
  refine ⟨y.daysTo x, z.daysTo y, daysUntil_eq ha hb, daysUntil_eq hb hc, ?_, y.isAway_daysTo x,
    fun _ _ => daysUntil_eq⟩
  rw [daysUntil_eq ha hc, add_comm, Date.daysTo_add_daysTo]

theorem daysUntil_isAway_march :
    daysUntil (.moment ⟨⟨738945, by decide⟩, 82800000000, none⟩) (.day ⟨738943, by decide⟩) =
      .ok 2 ∧
    ∃ n m : Int, daysUntil (.moment ⟨⟨738945, by decide⟩, 82800000000, none⟩)
        (.day ⟨738943, by decide⟩) = .ok n ∧
      daysUntil (.day ⟨738943, by decide⟩)
        (.moment ⟨⟨730118, by decide⟩, 3600000000, none⟩) = .ok m ∧
      daysUntil (.moment ⟨⟨738945, by decide⟩, 82800000000, none⟩)
        (.moment ⟨⟨730118, by decide⟩, 3600000000, none⟩) = .ok (n + m) ∧
      Date.IsAway ⟨738945, by decide⟩ n ⟨738943, by decide⟩ ∧
      ∀ a' b' : When, a'.toDate = .ok ⟨738945, by decide⟩ → b'.toDate = .ok ⟨738943, by decide⟩ →
        daysUntil a' b' = .ok n :=
  ⟨rfl, daysUntil_isAway rfl rfl rfl⟩

end Schedule

end RecurringPayments
