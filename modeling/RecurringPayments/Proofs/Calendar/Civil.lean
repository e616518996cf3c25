import RecurringPayments.Calendar.Date
import Mathlib

/-!
Days counted from the first one and days named by year, month and place in the month: reading the
name off a count gives the place at which the count stands.
-/
namespace RecurringPayments

namespace Calendar

theorem isLeap_iff (year : Nat) :
    isLeap year = true ↔ year % 4 = 0 ∧ (year % 100 ≠ 0 ∨ year % 400 = 0) := by
  simp [isLeap]

def yearLength (year : Nat) : Nat := 365 + (isLeap year).toNat

theorem yearLength_le (year : Nat) : 365 ≤ yearLength year ∧ yearLength year ≤ 366 := by
  have := Bool.toNat_le (isLeap year)
  rw [yearLength]
  omega

theorem succ_div_eq (n d : Nat) : (n + 1) / d = n / d + if (n + 1) % d = 0 then 1 else 0 := by
  rw [Nat.succ_div]
  simp only [Nat.dvd_iff_mod_eq_zero]

theorem daysBeforeYear_succ (year : Nat) (h : 1 ≤ year) :
    daysBeforeYear (year + 1) = daysBeforeYear year + yearLength year := by
  obtain ⟨n, rfl⟩ := Nat.exists_eq_add_of_le' h
  have leap : (isLeap (n + 1)).toNat =
      if (n + 1) % 4 = 0 ∧ ((n + 1) % 100 ≠ 0 ∨ (n + 1) % 400 = 0) then 1 else 0 := by
    simp only [← isLeap_iff]
    cases isLeap (n + 1) <;> rfl
  have hundreds : n / 100 ≤ n / 4 := Nat.div_le_div_left (by decide) (by decide)
  rw [yearLength, leap]
  simp only [daysBeforeYear, Nat.add_sub_cancel, succ_div_eq n]
  split_ifs <;> omega

theorem daysBeforeYear_bounds (year : Nat) :
    365 * (year - 1) ≤ daysBeforeYear year ∧ daysBeforeYear year ≤ 366 * (year - 1) := by
  rw [daysBeforeYear]
  omega

theorem daysBeforeYear_digits (eras : Nat) {centuries cycles years : Nat} (hc : centuries ≤ 3)
    (hk : cycles ≤ 24) (hy : years ≤ 3) :
    daysBeforeYear (eras * 400 + centuries * 100 + cycles * 4 + years + 1) =
      146097 * eras + 36524 * centuries + 1461 * cycles + 365 * years := by
  have fours : (eras * 400 + centuries * 100 + cycles * 4 + years) / 4 =
      100 * eras + 25 * centuries + cycles := by omega
  have hundreds : (eras * 400 + centuries * 100 + cycles * 4 + years) / 100 =
      4 * eras + centuries := by omega
  have fourHundreds : (eras * 400 + centuries * 100 + cycles * 4 + years) / 400 = eras := by omega
  rw [daysBeforeYear, Nat.add_sub_cancel, fours, hundreds, fourHundreds]
  omega

/-! ### The year of a day -/

/-- The year and the place in it, digit by digit. Only the last year of a cycle has a 366th day,
and not if the cycle is the last of a century that is not the last of its era. -/
theorem yearAndDay_digits (days : Nat) :
    ∃ eras centuries cycles years day, centuries ≤ 3 ∧ cycles ≤ 24 ∧ years ≤ 3 ∧
      yearAndDay days = (eras * 400 + centuries * 100 + cycles * 4 + years + 1, day) ∧
      days = 146097 * eras + 36524 * centuries + 1461 * cycles + 365 * years + day ∧
      (day < 365 ∨ day = 365 ∧ years = 3 ∧ (cycles = 24 → centuries = 3)) := by
  set inEra := days % 146097 with hera
  set century := min 3 (inEra / 36524) with hcentury
  set inCentury := inEra - century * 36524 with hin
  set inCycle := inCentury % 1461 with hcycle
  set year := min 3 (inCycle / 365) with hyear
  have era : inEra < 146097 := Nat.mod_lt _ (by decide)
  have total : inEra = century * 36524 + inCentury := by omega
  have inside : inCentury < 36524 ∨ century = 3 ∧ inCentury ≤ 36524 := by omega
  have cycle : inCentury = 1461 * (inCentury / 1461) + inCycle := (Nat.div_add_mod _ _).symm
  have short : inCycle < 1461 := Nat.mod_lt _ (by decide)
  have last : inCycle - year * 365 < 365 ∨ inCycle - year * 365 = 365 ∧ year = 3 := by omega
  refine ⟨days / 146097, century, inCentury / 1461, year, inCycle - year * 365, min_le_left _ _,
    by omega, min_le_left _ _, rfl, by omega, ?_⟩
  refine last.imp_right fun ⟨leap, fourth⟩ => ⟨leap, fourth, by omega⟩

theorem yearAndDay_pos (days : Nat) : 1 ≤ (yearAndDay days).1 := by
  obtain ⟨eras, centuries, cycles, years, day, -, -, -, eq, -⟩ := yearAndDay_digits days
  rw [eq]
  exact Nat.le_add_left 1 _

theorem yearAndDay_days (days : Nat) :
    daysBeforeYear (yearAndDay days).1 + (yearAndDay days).2 = days := by
  obtain ⟨eras, centuries, cycles, years, day, hc, hk, hy, eq, sum, -⟩ := yearAndDay_digits days
  rw [eq, daysBeforeYear_digits eras hc hk hy, ← sum]

theorem yearAndDay_lt (days : Nat) : (yearAndDay days).2 < yearLength (yearAndDay days).1 := by
  obtain ⟨eras, centuries, cycles, years, day, hc, hk, hy, eq, -, last⟩ := yearAndDay_digits days
  rw [eq]
  rcases last with common | ⟨rfl, rfl, century⟩
  · exact common.trans_le (yearLength_le _).1
  · have leap : isLeap (eras * 400 + centuries * 100 + cycles * 4 + 3 + 1) = true := by
      rw [isLeap_iff]
      omega
    rw [yearLength, leap]
    exact Nat.lt_succ_self 365

/-! ### The month of a day -/

theorem monthLength_bounds (year month : Nat) :
    28 ≤ monthLength year month ∧ monthLength year month ≤ 31 := by
  unfold monthLength
  split
  · split <;> decide
  all_goals decide

theorem daysInMonths_twelve (year : Nat) : daysInMonths year 12 = yearLength year := by
  simp only [daysInMonths, monthLength, yearLength]
  cases isLeap year <;> rfl

theorem monthAndDay_spec (year : Nat) {day k left : Nat}
    (h : daysInMonths year k + day < daysInMonths year (k + 1 + left)) :
    ∃ i r, monthAndDay year day (k + 1) left = (i + 1, r + 1) ∧ i ≤ k + left ∧
      r < monthLength year (i + 1) ∧ daysInMonths year i + r = daysInMonths year k + day := by
  induction left generalizing day k with
  | zero =>
    rw [Nat.add_zero, daysInMonths] at h
    exact ⟨k, day, rfl, le_rfl, by omega, rfl⟩
  | succ left ih =>
    rw [monthAndDay]
    split
    · rename_i inside
      exact ⟨k, day, rfl, Nat.le_add_right _ _, inside, rfl⟩
    · rename_i beyond
      have next : daysInMonths year (k + 1) + (day - monthLength year (k + 1)) =
          daysInMonths year k + day := by
        rw [daysInMonths]
        omega
      have inside : daysInMonths year (k + 1) + (day - monthLength year (k + 1)) <
          daysInMonths year (k + 1 + 1 + left) := by
        rw [next, show k + 1 + 1 + left = k + 1 + (left + 1) by omega]
        exact h
      obtain ⟨i, r, eq, le, lt, sum⟩ := ih inside
      exact ⟨i, r, eq, by omega, lt, sum.trans next⟩

end Calendar

open Calendar

namespace Date

theorem eq_of_days {d e : Date} (same : d.days = e.days) : d = e := by
  cases d
  cases e
  subst same
  rfl

theorem ofDays?_eq_some_iff {n : Int} {d : Date} : ofDays? n = some d ↔ (d.days : Int) = n := by
  have inCalendar := d.inCalendar
  rw [ofDays?]
  constructor
  · intro found
    split at found
    · rename_i inside
      cases found
      exact Int.toNat_of_nonneg inside.1
    · cases found
  · rintro rfl
    rw [dif_pos ⟨Int.natCast_nonneg _, inCalendar⟩]
    rfl

theorem civil (d : Date) :
    1 ≤ d.year ∧ (1 ≤ d.month ∧ d.month ≤ 12) ∧ (1 ≤ d.day ∧ d.day ≤ monthLength d.year d.month) ∧
      daysBeforeYear d.year + daysInMonths d.year (d.month - 1) + (d.day - 1) = d.days := by
  have place : daysInMonths d.year 0 + (yearAndDay d.days).2 <
      daysInMonths d.year (0 + 1 + 11) := by
    rw [daysInMonths, Nat.zero_add, daysInMonths_twelve]
    exact yearAndDay_lt d.days
  obtain ⟨i, r, eq, le, lt, sum⟩ := monthAndDay_spec d.year place
  have month : d.month = i + 1 := congrArg Prod.fst eq
  have day : d.day = r + 1 := congrArg Prod.snd eq
  have days : daysBeforeYear d.year + (yearAndDay d.days).2 = d.days := yearAndDay_days d.days
  rw [daysInMonths, Nat.zero_add] at sum
  rw [month, day]
  refine ⟨yearAndDay_pos d.days, ⟨by omega, by omega⟩, ⟨by omega, lt⟩, ?_⟩
  rw [Nat.add_sub_cancel, Nat.add_sub_cancel, Nat.add_assoc, sum, days]

theorem days_bounds (d : Date) : 365 * (d.year - 1) ≤ d.days ∧ d.days < 366 * d.year := by
  have pos : 1 ≤ d.year := yearAndDay_pos d.days
  have days : daysBeforeYear d.year + (yearAndDay d.days).2 = d.days := yearAndDay_days d.days
  have place : (yearAndDay d.days).2 < yearLength d.year := yearAndDay_lt d.days
  have before := daysBeforeYear_bounds d.year
  have length := yearLength_le d.year
  omega

end Date

end RecurringPayments
