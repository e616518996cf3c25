import RecurringPayments.Detection.Cadence
import RecurringPayments.Proofs.Calendar.Civil

/-!
Dates on the line of time: instants of the years that detection is meant for, and the whole days
between neighbours. In these years the distances fit their word, so nothing wraps around.
-/
namespace RecurringPayments

namespace When

def date? : When → Option Date
  | .day d => some d
  | .moment m => some m.date
  | .never | .text _ => none

def moment? : When → Option Moment
  | .day d => some ⟨d, 0, none⟩
  | .moment m => some m
  | .never | .text _ => none

def instant? : When → Option Int
  | .day d => some (Moment.mk d 0 none).instant
  | .moment m => if m.zone = none then some m.instant else none
  | .never | .text _ => none

/-- A date, or a time of some date without a zone, in the years 1970 to 2200. -/
def InEra : When → Prop
  | .day d => 1970 ≤ d.year ∧ d.year ≤ 2200
  | .moment m =>
    (1970 ≤ m.date.year ∧ m.date.year ≤ 2200) ∧ m.micros < microsPerDay ∧ m.zone = none
  | .never | .text _ => False

instance : DecidablePred InEra := fun w => by
  cases w <;> unfold InEra <;> infer_instance

end When

theorem When.exists_moment_of_instant? {w : When} {i : Int} (h : w.instant? = some i) :
    ∃ m, w.moment? = some m ∧ m.zone = none ∧ m.instant = i := by
  cases w with
  | never => cases h
  | text s => cases h
  | day d => exact ⟨_, rfl, rfl, Option.some.inj h⟩
  | moment m =>
    rw [instant?] at h
    split_ifs at h with bare
    exact ⟨m, rfl, bare, Option.some.inj h⟩

/-- Bounds of the instants of the era. They are wider than its years, so that a date foretold from
the last of these still lies within. -/
def EraInstant (i : Int) : Prop := 718685 * (microsPerDay : Int) ≤ i ∧ i < 805200 * microsPerDay

theorem Date.era_bounds {d : Date} (h : 1970 ≤ d.year ∧ d.year ≤ 2200) :
    718685 ≤ d.days ∧ d.days < 804000 := by
  have bounds := d.days_bounds
  have counted := Calendar.yearAndDay_days d.days
  have place := Calendar.yearAndDay_lt d.days
  have length := Calendar.yearLength_le d.year
  rw [Calendar.daysBeforeYear] at counted
  rw [Date.year] at h bounds length
  omega

namespace When

theorem InEra.spec {w : When} (h : w.InEra) :
    ∃ d i, w.date? = some d ∧ w.instant? = some i ∧ EraInstant i ∧
      Int.fdiv i microsPerDay = d.days ∧ 718685 ≤ d.days ∧ d.days < 804000 := by
  have perDay : (microsPerDay : Int) = 86400000000 := rfl
  cases w with
  | never => exact h.elim
  | text s => exact h.elim
  | day d =>
    have bounds := Date.era_bounds h
    have midnight : (Moment.mk d 0 none).instant = d.days * 86400000000 := by
      rw [Moment.instant, perDay, Int.natCast_zero, add_zero]
    refine ⟨d, _, rfl, rfl, ?_, ?_, bounds⟩
    · rw [midnight, EraInstant, perDay]
      omega
    · rw [midnight, Int.fdiv_eq_ediv_of_nonneg _ (by omega), perDay]
      omega
  | moment m =>
    have bounds := Date.era_bounds h.1
    have clock : m.micros < 86400000000 := h.2.1
    refine ⟨m.date, _, rfl, if_pos h.2.2, ?_, ?_, bounds⟩
    · rw [EraInstant, Moment.instant, perDay]
      omega
    · rw [Moment.instant, Int.fdiv_eq_ediv_of_nonneg _ (by omega), perDay]
      omega

end When

namespace Cadence

def dayGaps : List Int → List Nat
  | a :: b :: rest => ⌈((b - a : Int) : ℚ) / microsPerDay⌉₊ :: dayGaps (b :: rest)
  | _ => []

theorem dayGaps_length (instants : List Int) :
    (dayGaps instants).length = instants.length - 1 := by
  induction instants with
  | nil => rfl
  | cons a rest ih =>
    cases rest with
    | nil => rfl
    | cons b rest =>
      rw [dayGaps, List.length_cons, ih]
      simp

theorem dayGaps_concat {instants : List Int} {last : Int} (h : instants.getLast? = some last)
    (next : Int) : dayGaps (instants ++ [next]) =
      dayGaps instants ++ [⌈((next - last : Int) : ℚ) / microsPerDay⌉₊] := by
  induction instants with
  | nil => cases h
  | cons a rest ih =>
    cases rest with
    | nil =>
      obtain rfl : a = last := Option.some.inj h
      rfl
    | cons b rest =>
      rw [List.getLast?_cons_cons] at h
      have tail := ih h
      rw [List.cons_append] at tail ⊢
      rw [List.cons_append, dayGaps, tail, dayGaps, List.cons_append]

theorem getLast?_map_some (instants : List Int) :
    (instants.map some).getLast?.join = instants.getLast? := by
  rw [List.getLast?_map]
  cases instants.getLast? <;> rfl

theorem le_of_getLast? {instants : List Int} (ascending : instants.Pairwise (· ≤ ·)) {last : Int}
    (ends : instants.getLast? = some last) : ∀ i ∈ instants, i ≤ last := by
  intro i hi
  rw [List.getLast?_eq_some_getLast (List.ne_nil_of_mem hi), Option.some_inj] at ends
  exact ends ▸ ascending.rel_getLast hi

theorem inWord_eq {a b : Int} (ha : EraInstant a) (hb : EraInstant b) :
    inWord ((b - a) * 1000) = (b - a) * 1000 := by
  have perDay : (microsPerDay : Int) = 86400000000 := rfl
  rw [EraInstant, perDay] at ha hb
  rw [inWord, UInt64.size]
  apply Int.bmod_eq_of_le
  · omega
  · omega

theorem ceil_eq (n d : Nat) (h : 0 < d) : ⌈(n : ℚ) / d⌉₊ = (n + (d - 1)) / d := by
  have pos : (0 : ℚ) < d := by exact_mod_cast h
  refine le_antisymm ?_ ?_
  · rw [Nat.ceil_le, div_le_iff₀ pos]
    have cover : n ≤ (n + (d - 1)) / d * d := by
      have := Nat.div_add_mod (n + (d - 1)) d
      have := Nat.mod_lt (n + (d - 1)) h
      rw [mul_comm]
      omega
    exact_mod_cast cover
  · apply Nat.le_of_lt_succ
    rw [Nat.div_lt_iff_lt_mul h]
    have cover : n ≤ ⌈(n : ℚ) / d⌉₊ * d := by
      have := Nat.le_ceil ((n : ℚ) / d)
      rw [div_le_iff₀ pos] at this
      exact_mod_cast this
    rw [Nat.succ_mul]
    omega

theorem gapDays_eq {a b : Int} (ha : EraInstant a) (hb : EraInstant b) (h : a ≤ b) :
    gapDays a b = ⌈((b - a : Int) : ℚ) / microsPerDay⌉₊ := by
  obtain ⟨n, hn⟩ := Int.eq_ofNat_of_zero_le (sub_nonneg.mpr h)
  have cast : ((b - a : Int) : ℚ) / microsPerDay = (n : ℚ) / (microsPerDay : Nat) := by
    rw [hn]
    rfl
  rw [gapDays, inWord_eq ha hb, cast, ceil_eq n microsPerDay (by decide), hn, nanosPerDay,
    microsPerDay]
  omega

variable {α : Type} [Scalar α]

theorem gaps_eq {instants : List Int} (era : ∀ i ∈ instants, EraInstant i)
    (ascending : instants.Pairwise (· ≤ ·)) :
    (gaps (instants.map some) : List α) = (dayGaps instants).map fun n : Nat => Scalar.ofInt n := by
  induction instants with
  | nil => rfl
  | cons a rest ih =>
    cases rest with
    | nil => rfl
    | cons b rest =>
      rw [List.pairwise_cons] at ascending
      rw [List.forall_mem_cons] at era
      have tail := ih era.2 ascending.2
      have next : EraInstant b := era.2 b List.mem_cons_self
      rw [List.map_cons] at tail
      rw [List.map_cons, List.map_cons, gaps, tail, gap,
        gapDays_eq era.1 next (ascending.1 b List.mem_cons_self), dayGaps, List.map_cons]

end Cadence

end RecurringPayments
