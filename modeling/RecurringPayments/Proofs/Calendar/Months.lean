import RecurringPayments.Proofs.Calendar.Civil

/-!
Months counted from the first one of the calendar, and how far apart two dates lie that share their
day of the month, held to the last day where a month is too short for it.
-/
namespace RecurringPayments

open Calendar

namespace Calendar

def monthStart (month : Nat) : Nat :=
  daysBeforeYear (month / 12 + 1) + daysInMonths (month / 12 + 1) (month % 12)

def monthSize (month : Nat) : Nat := monthLength (month / 12 + 1) (month % 12 + 1)

theorem monthStart_succ (month : Nat) :
    monthStart (month + 1) = monthStart month + monthSize month := by
  by_cases december : month % 12 = 11
  · have year : (month + 1) / 12 = month / 12 + 1 := by omega
    have january : (month + 1) % 12 = 0 := by omega
    have whole := daysInMonths_twelve (month / 12 + 1)
    rw [daysInMonths] at whole
    rw [monthStart, monthStart, monthSize, year, january, december,
      daysBeforeYear_succ _ (by omega), daysInMonths, ← whole]
    omega
  · have year : (month + 1) / 12 = month / 12 := by omega
    have next : (month + 1) % 12 = month % 12 + 1 := by omega
    rw [monthStart, monthStart, monthSize, year, next, daysInMonths]
    omega

theorem monthStart_mono : Monotone monthStart :=
  monotone_nat_of_le_succ fun month => by
    rw [monthStart_succ]
    exact Nat.le_add_right _ _

section

variable {year month : Nat} (hy : 1 ≤ year) (hm : 1 ≤ month ∧ month ≤ 12)
include hy hm

theorem index_of_month :
    (12 * (year - 1) + (month - 1)) / 12 + 1 = year ∧
      (12 * (year - 1) + (month - 1)) % 12 + 1 = month := by
  omega

theorem monthSize_of_month :
    monthSize (12 * (year - 1) + (month - 1)) = monthLength year month := by
  obtain ⟨years, months⟩ := index_of_month hy hm
  rw [monthSize, years, months]

theorem monthStart_of_month : monthStart (12 * (year - 1) + (month - 1)) =
    daysBeforeYear year + daysInMonths year (month - 1) := by
  obtain ⟨years, months⟩ := index_of_month hy hm
  rw [monthStart, years, Nat.eq_sub_of_add_eq months]

end

theorem monthSize_spec (month : Nat) :
    (month % 12 = 1 → monthSize month = 28 + (isLeap (month / 12 + 1)).toNat) ∧
      (month % 12 = 3 ∨ month % 12 = 5 ∨ month % 12 = 8 ∨ month % 12 = 10 → monthSize month = 30) ∧
      (month % 12 = 0 ∨ month % 12 = 2 ∨ month % 12 = 4 ∨ month % 12 = 6 ∨ month % 12 = 7 ∨
        month % 12 = 9 ∨ month % 12 = 11 → monthSize month = 31) := by
  rw [monthSize]
  refine ⟨fun h => ?_, fun h => ?_, fun h => ?_⟩
  · rw [h, monthLength]
    cases isLeap (month / 12 + 1) <;> rfl
  · rcases h with h | h | h | h <;> rw [h] <;> rfl
  · rcases h with h | h | h | h | h | h | h <;> rw [h] <;> rfl

theorem monthSize_cases (month : Nat) :
    (month % 12 = 1 ∧ 28 ≤ monthSize month ∧ monthSize month ≤ 29) ∨
      ((month % 12 = 3 ∨ month % 12 = 5 ∨ month % 12 = 8 ∨ month % 12 = 10) ∧
        monthSize month = 30) ∨
      ((month % 12 = 0 ∨ month % 12 = 2 ∨ month % 12 = 4 ∨ month % 12 = 6 ∨ month % 12 = 7 ∨
        month % 12 = 9 ∨ month % 12 = 11) ∧ monthSize month = 31) := by
  obtain ⟨february, short, long⟩ := monthSize_spec month
  have leap : (isLeap (month / 12 + 1)).toNat ≤ 1 := Bool.toNat_le _
  have kind : month % 12 = 1 ∨
      (month % 12 = 3 ∨ month % 12 = 5 ∨ month % 12 = 8 ∨ month % 12 = 10) ∨
      (month % 12 = 0 ∨ month % 12 = 2 ∨ month % 12 = 4 ∨ month % 12 = 6 ∨ month % 12 = 7 ∨
        month % 12 = 9 ∨ month % 12 = 11) := by omega
  rcases kind with h | h | h
  · have size := february h
    exact .inl ⟨h, by omega, by omega⟩
  · exact .inr (.inl ⟨h, short h⟩)
  · exact .inr (.inr ⟨h, long h⟩)

theorem monthSize_bounds (month : Nat) : 28 ≤ monthSize month ∧ monthSize month ≤ 31 :=
  monthLength_bounds _ _

theorem not_isLeap_succ (year : Nat) :
    (isLeap year).toNat + (isLeap (year + 1)).toNat ≤ 1 := by
  cases h : isLeap year with
  | false =>
    rw [Bool.toNat_false, Nat.zero_add]
    exact Bool.toNat_le _
  | true =>
    have fourth := (isLeap_iff year).mp h
    have next : isLeap (year + 1) = false := by
      rw [← Bool.not_eq_true, isLeap_iff]
      omega
    rw [next]
    decide

theorem daysInMonths_eq (year : Nat) {months : Nat} (h : months < 12) :
    daysInMonths year months =
      daysInMonths 1 months + if 2 ≤ months then (isLeap year).toNat else 0 := by
  have common : isLeap 1 = false := rfl
  interval_cases months <;> simp only [daysInMonths, monthLength, common] <;>
    cases isLeap year <;> rfl

theorem monthStart_add_twelve (month : Nat) :
    monthStart (month + 12) + (if 2 ≤ month % 12 then (isLeap (month / 12 + 1)).toNat else 0) =
      monthStart month + 365 + (isLeap (month / 12 + 1)).toNat +
        if 2 ≤ month % 12 then (isLeap (month / 12 + 1 + 1)).toNat else 0 := by
  have year : (month + 12) / 12 = month / 12 + 1 := by omega
  have same : (month + 12) % 12 = month % 12 := by omega
  have inside : month % 12 < 12 := Nat.mod_lt _ (by decide)
  rw [monthStart, monthStart, year, same, daysBeforeYear_succ _ (by omega), yearLength,
    daysInMonths_eq (month / 12 + 1 + 1) inside, daysInMonths_eq (month / 12 + 1) inside]
  omega

end Calendar

namespace Date

def monthIndex (d : Date) : Nat := 12 * (d.year - 1) + (d.month - 1)

theorem monthSize_monthIndex (d : Date) : monthSize d.monthIndex = monthLength d.year d.month :=
  monthSize_of_month d.civil.1 d.civil.2.1

theorem days_eq (d : Date) : d.days = monthStart d.monthIndex + (d.day - 1) := by
  obtain ⟨year, month, -, days⟩ := d.civil
  rw [monthIndex, monthStart_of_month year month, days]

/-- A date so many months after another on the same day of the month, where a month that is too
short for the day gives its last one. -/
def IsMonthsAfter (months : Nat) (a b : Date) : Prop :=
  b.monthIndex = a.monthIndex + months ∧
    ∃ nominal, a.day = min nominal (monthLength a.year a.month) ∧
      b.day = min nominal (monthLength b.year b.month)

theorem IsMonthsAfter.days_eq {months : Nat} {a b : Date} (h : IsMonthsAfter months a b) :
    ∃ nominal, 1 ≤ nominal ∧
      b.days + monthStart a.monthIndex + min nominal (monthSize a.monthIndex) =
      a.days + monthStart (a.monthIndex + months) +
        min nominal (monthSize (a.monthIndex + months)) := by
  obtain ⟨index, nominal, dayA, dayB⟩ := h
  obtain ⟨-, -, ⟨posA, -⟩, -⟩ := a.civil
  obtain ⟨-, -, ⟨posB, -⟩, -⟩ := b.civil
  have daysA := a.days_eq
  have daysB := b.days_eq
  rw [← monthSize_monthIndex] at dayA dayB
  rw [index] at dayB daysB
  exact ⟨nominal, by omega, by omega⟩

theorem IsMonthsAfter.one {a b : Date} (h : IsMonthsAfter 1 a b) :
    a.days + 28 ≤ b.days ∧ b.days ≤ a.days + 31 := by
  obtain ⟨nominal, -, days⟩ := h.days_eq
  have next := monthStart_succ a.monthIndex
  have size := monthSize_bounds a.monthIndex
  have sizeNext := monthSize_bounds (a.monthIndex + 1)
  omega

theorem IsMonthsAfter.three {a b : Date} (h : IsMonthsAfter 3 a b) :
    a.days + 89 ≤ b.days ∧ b.days ≤ a.days + 92 := by
  obtain ⟨nominal, -, days⟩ := h.days_eq
  set i := a.monthIndex
  have first := monthStart_succ i
  have second : monthStart (i + 2) = _ := monthStart_succ (i + 1)
  have third : monthStart (i + 3) = _ := monthStart_succ (i + 2)
  have size₀ := monthSize_cases i
  have size₁ := monthSize_cases (i + 1)
  have size₂ := monthSize_cases (i + 2)
  have size₃ := monthSize_cases (i + 3)
  have month : i % 12 = 0 ∨ i % 12 = 1 ∨ i % 12 = 2 ∨ i % 12 = 3 ∨ i % 12 = 4 ∨ i % 12 = 5 ∨
      i % 12 = 6 ∨ i % 12 = 7 ∨ i % 12 = 8 ∨ i % 12 = 9 ∨ i % 12 = 10 ∨ i % 12 = 11 := by omega
  rcases month with m | m | m | m | m | m | m | m | m | m | m | m <;>
    simp only [Nat.add_mod i, m] at size₀ size₁ size₂ size₃ <;>
      norm_num at size₀ size₁ size₂ size₃ <;>
    omega

theorem IsMonthsAfter.twelve {a b : Date} (h : IsMonthsAfter 12 a b) :
    a.days + 365 ≤ b.days ∧ b.days ≤ a.days + 366 := by
  obtain ⟨nominal, -, days⟩ := h.days_eq
  set i := a.monthIndex
  have start := monthStart_add_twelve i
  have leaps := not_isLeap_succ (i / 12 + 1)
  have february := (monthSize_spec i).1
  have februaryNext := (monthSize_spec (i + 12)).1
  have year : (i + 12) / 12 = i / 12 + 1 := by omega
  rw [year] at februaryNext
  have size := monthSize_cases i
  have sizeNext := monthSize_cases (i + 12)
  have same : (i + 12) % 12 = i % 12 := by omega
  rw [same] at sizeNext februaryNext
  split_ifs at start <;> omega

end Date

end RecurringPayments
