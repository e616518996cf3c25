import RecurringPayments.Proofs.Calendar.Months

/-!
Days as the calendar names them, and the day that follows each. Dates are counted; counting on
from a date is going on in the calendar day by day, and a smaller count is an earlier name.
-/
namespace RecurringPayments

open Calendar

@[ext] structure DayName where
  year : Nat
  month : Nat
  day : Nat
  deriving DecidableEq, Repr

namespace DayName

structure IsCivil (n : DayName) : Prop where
  year : 1 ≤ n.year
  month : 1 ≤ n.month ∧ n.month ≤ 12
  day : 1 ≤ n.day ∧ n.day ≤ monthLength n.year n.month

def next (n : DayName) : DayName :=
  if n.day < monthLength n.year n.month then ⟨n.year, n.month, n.day + 1⟩
  else if n.month < 12 then ⟨n.year, n.month + 1, 1⟩
  else ⟨n.year + 1, 1, 1⟩

def Precedes (m n : DayName) : Prop :=
  m.year < n.year ∨ m.year = n.year ∧ (m.month < n.month ∨ m.month = n.month ∧ m.day < n.day)

def monthIndex (n : DayName) : Nat := 12 * (n.year - 1) + (n.month - 1)

def count (n : DayName) : Nat := monthStart n.monthIndex + (n.day - 1)

variable {m n : DayName}

/-! ### One day on -/

theorem IsCivil.isCivil_next (h : n.IsCivil) : n.next.IsCivil := by
  have year := h.year
  have month := h.month
  have first (year month : Nat) : 1 ≤ monthLength year month :=
    (monthLength_bounds year month).1.trans' (by decide)
  rw [next]
  split_ifs with inside before
  · exact ⟨year, month, Nat.le_add_left 1 _, inside⟩
  · exact ⟨year, ⟨Nat.le_add_left 1 _, before⟩, le_rfl, first _ _⟩
  · exact ⟨Nat.le_add_left 1 _, ⟨le_rfl, Nat.le_add_left 1 11⟩, le_rfl, first _ _⟩

theorem IsCivil.monthSize_eq (h : n.IsCivil) :
    monthSize n.monthIndex = monthLength n.year n.month :=
  monthSize_of_month h.year h.month

theorem IsCivil.count_next (h : n.IsCivil) : n.next.count = n.count + 1 := by
  have size := h.monthSize_eq
  have start := monthStart_succ n.monthIndex
  obtain ⟨year, ⟨january, december⟩, first, last⟩ := h
  rw [next]
  split_ifs with inside before
  · change monthStart n.monthIndex + (n.day + 1 - 1) = monthStart n.monthIndex + (n.day - 1) + 1
    omega
  · have index : monthIndex ⟨n.year, n.month + 1, 1⟩ = n.monthIndex + 1 := by
      simp only [monthIndex]
      omega
    simp only [count, index]
    omega
  · have index : monthIndex ⟨n.year + 1, 1, 1⟩ = n.monthIndex + 1 := by
      simp only [monthIndex]
      omega
    simp only [count, index]
    omega

theorem IsCivil.iterate_next (h : n.IsCivil) (days : Nat) :
    (next^[days] n).IsCivil ∧ (next^[days] n).count = n.count + days := by
  induction days with
  | zero => exact ⟨h, rfl⟩
  | succ days ih =>
    rw [Function.iterate_succ_apply']
    exact ⟨ih.1.isCivil_next, by rw [ih.1.count_next, ih.2, Nat.add_assoc]⟩

/-! ### Earlier and later -/

theorem IsCivil.count_lt (hm : m.IsCivil) (hn : n.IsCivil) (earlier : m.Precedes n) :
    m.count < n.count := by
  have months : m.monthIndex < n.monthIndex ∨ m.monthIndex = n.monthIndex ∧ m.day < n.day := by
    have yearM := hm.year
    have monthM := hm.month
    have monthN := hn.month
    rw [monthIndex, monthIndex]
    rcases earlier with year | ⟨year, month | ⟨month, day⟩⟩
    · exact .inl (by omega)
    · exact .inl (by omega)
    · exact .inr ⟨by rw [year, month], day⟩
  have day := hm.day
  have size := hm.monthSize_eq
  rcases months with before | ⟨same, days⟩
  · -- The month of the earlier day is over before that of the later one begins.
    have ended : monthStart (m.monthIndex + 1) ≤ monthStart n.monthIndex := monthStart_mono before
    rw [monthStart_succ] at ended
    rw [count, count]
    omega
  · rw [count, count, same]
    omega

theorem precedes_trichotomy (m n : DayName) : m.Precedes n ∨ m = n ∨ n.Precedes m := by
  rw [DayName.ext_iff, Precedes, Precedes]
  omega

theorem IsCivil.precedes_iff (hm : m.IsCivil) (hn : n.IsCivil) :
    m.Precedes n ↔ m.count < n.count := by
  refine ⟨hm.count_lt hn, fun less => ?_⟩
  rcases precedes_trichotomy m n with earlier | rfl | later
  · exact earlier
  · exact absurd less (lt_irrefl _)
  · exact absurd (hn.count_lt hm later) less.asymm

theorem IsCivil.eq_of_count (hm : m.IsCivil) (hn : n.IsCivil) (same : m.count = n.count) :
    m = n := by
  rcases precedes_trichotomy m n with earlier | equal | later
  · exact absurd same (hm.count_lt hn earlier).ne
  · exact equal
  · exact absurd same (hn.count_lt hm later).ne'

end DayName

/-! ### Dates -/

namespace Date

def name (d : Date) : DayName := ⟨d.year, d.month, d.day⟩

theorem isCivil_name (d : Date) : d.name.IsCivil :=
  ⟨d.civil.1, d.civil.2.1, d.civil.2.2.1⟩

theorem count_name (d : Date) : d.name.count = d.days := d.days_eq.symm

theorem name_inj {d e : Date} : d.name = e.name ↔ d = e := by
  refine ⟨fun same => eq_of_days ?_, congrArg name⟩
  rw [← d.count_name, same, e.count_name]

theorem precedes_iff (d e : Date) : d.name.Precedes e.name ↔ d.days < e.days := by
  rw [d.isCivil_name.precedes_iff e.isCivil_name, count_name, count_name]

theorem iterate_next_name {d e : Date} {days : Nat} (after : e.days = d.days + days) :
    DayName.next^[days] d.name = e.name := by
  obtain ⟨civil, count⟩ := d.isCivil_name.iterate_next days
  apply civil.eq_of_count e.isCivil_name
  rw [count, d.count_name, e.count_name, after]

theorem daysTo_add_daysTo (a b c : Date) : a.daysTo b + b.daysTo c = a.daysTo c :=
  sub_add_sub_cancel' _ _ _

theorem daysTo_inj {origin d e : Date} : origin.daysTo d = origin.daysTo e ↔ d = e := by
  refine ⟨fun same => eq_of_days ?_, congrArg origin.daysTo⟩
  exact Int.ofNat_inj.mp (sub_left_inj.mp same)

theorem addDays?_eq_some_iff {d e : Date} {n : Int} : d.addDays? n = some e ↔ d.daysTo e = n := by
  rw [addDays?, ofDays?_eq_some_iff, daysTo]
  exact sub_eq_iff_eq_add'.symm

/-- So many days lead from one date to the other, forwards or, if they are negative, backwards: in
the count, in the calendar, and in the order of the two. -/
structure IsAway (target : Date) (n : Int) (origin : Date) : Prop where
  reached : origin.addDays? n = some target
  counted : DayName.next^[n.toNat] origin.name = DayName.next^[(-n).toNat] target.name
  precedes_iff : n < 0 ↔ target.name.Precedes origin.name

theorem isAway_daysTo (origin target : Date) : target.IsAway (origin.daysTo target) origin where
  reached := addDays?_eq_some_iff.mpr rfl
  counted := by
    rw [daysTo]
    rcases le_total origin.days target.days with forwards | backwards
    · have none : (-((target.days : Int) - origin.days)).toNat = 0 := by omega
      rw [none]
      exact iterate_next_name (by omega)
    · have none : ((target.days : Int) - origin.days).toNat = 0 := by omega
      rw [none]
      exact (iterate_next_name (by omega)).symm
  precedes_iff := by
    rw [precedes_iff, daysTo]
    omega

end Date

end RecurringPayments
