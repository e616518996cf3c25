import RecurringPayments.Proofs.Detection.Schedule
import RecurringPayments.Proofs.Number.Spread

/-!
The day that a pattern foretells. In exact arithmetic the gap up to it is the mean gap rounded to a
whole day, and a window between whole days holds the one as it holds the other. With this gap added
the mean stays in the window, and the gaps are spread no wider than any bound that matters.
-/
namespace RecurringPayments

open LawfulScalar Result

/-- All windows but the daily one begin at six days or later, and end after at most 370. -/
theorem Thresholds.standard_bounds (c : EReal) :
    ∀ w ∈ (Thresholds.standard c).windows, w.name ≠ "daily" →
    ∃ low high : Nat, 6 ≤ low ∧ high ≤ 370 ∧ w = .ofDays w.name low high := by
  simp only [Thresholds.standard, List.forall_mem_cons]
  refine ⟨fun h => absurd rfl h, fun _ => ⟨6, 8, ?_⟩, fun _ => ⟨13, 15, ?_⟩, fun _ => ⟨28, 32, ?_⟩,
    fun _ => ⟨88, 95, ?_⟩, fun _ => ⟨360, 370, ?_⟩, by simp⟩
  all_goals exact ⟨by decide, by decide, rfl⟩

/-! ### One gap more -/

namespace Cadence

theorem roundHalfUp?_eq (x : ℝ) : roundHalfUp? x = some ⌊x + 1 / 2⌋ := by
  rw [roundHalfUp?, Exact.half_eq]
  rfl

theorem ceil_midnight {last : Int} {next : Date} {n : Nat} (positive : 0 < n)
    (days : (next.days : Int) = Int.fdiv last microsPerDay + n) :
    ⌈((midnight next - last : Int) : ℚ) / microsPerDay⌉₊ = n := by
  have perDay : (0 : Int) < microsPerDay := by decide
  have perDay' : (0 : ℚ) < microsPerDay := by exact_mod_cast perDay
  have split := Int.mul_fdiv_add_fmod last microsPerDay
  have low := Int.fmod_nonneg_of_pos last perDay
  have high := Int.fmod_lt_of_pos last perDay
  have distance : midnight next - last = n * microsPerDay - Int.fmod last microsPerDay := by
    rw [midnight_eq, days]
    linarith
  have low' : (0 : ℚ) ≤ (Int.fmod last microsPerDay : Int) := by exact_mod_cast low
  have high' : ((Int.fmod last microsPerDay : Int) : ℚ) < microsPerDay := by exact_mod_cast high
  rw [distance, Nat.ceil_eq_iff positive.ne', lt_div_iff₀ perDay', div_le_iff₀ perDay',
    Nat.cast_sub positive]
  push_cast
  constructor <;> linarith

theorem gapFigures_concat {instants : List Int} {last : Int}
    (ends : instants.getLast? = some last) {next : Date} {n : Nat} (positive : 0 < n)
    (days : (next.days : Int) = Int.fdiv last microsPerDay + n) :
    (gapFigures (instants ++ [midnight next]) : List ℝ) = gapFigures instants ++ [(n : ℝ)] := by
  have figure : (Scalar.ofInt (n : Int) : ℝ) = n := Int.cast_natCast n
  rw [gapFigures, gapFigures, dayGaps_concat ends, ceil_midnight positive days, List.map_append,
    List.map_singleton, figure]

/-- A day foretold from gaps whose mean lies between two whole numbers of days, six or more. -/
structure Foretells (low high : Nat) (instants : List Int) (next : Date) : Prop where
  two : 2 ≤ instants.length
  six : 6 ≤ low
  within : (low : ℝ) ≤ meanGap instants ∧ meanGap instants ≤ (high : ℝ)
  next : ∃ (last n : Int), instants.getLast? = some last ∧
    (next.days : Int) = Int.fdiv last microsPerDay + n ∧
    roundHalfUp? (meanGap instants : ℝ) = some n

namespace Foretells

variable {low high : Nat} {instants : List Int} {next : Date} (h : Foretells low high instants next)
include h

theorem exists_gap : ∃ n : Nat, low ≤ n ∧ n ≤ high ∧ |(n : ℝ) - meanGap instants| ≤ 1 / 2 ∧
    (∃ last, instants.getLast? = some last ∧ (next.days : Int) = Int.fdiv last microsPerDay + n) ∧
    (gapFigures (instants ++ [midnight next]) : List ℝ) = gapFigures instants ++ [(n : ℝ)] := by
  obtain ⟨last, n, ends, days, rounded⟩ := h.next
  obtain ⟨least, most⟩ := h.within
  rw [roundHalfUp?_eq, Option.some_inj] at rounded
  obtain ⟨floor_le, lt_floor⟩ := Int.floor_eq_iff.mp rounded
  have above : (low : Int) ≤ n := by
    rw [← rounded, Int.le_floor]
    push_cast
    linarith
  have below : n < (high : Int) + 1 := by
    rw [← rounded, Int.floor_lt]
    push_cast
    linarith
  lift n to Nat using (Int.natCast_nonneg low).trans above
  have six := h.six
  rw [Int.cast_natCast] at floor_le lt_floor
  refine ⟨n, by omega, by omega, ?_, ⟨last, ends, days⟩, gapFigures_concat ends (by omega) days⟩
  rw [abs_le]
  constructor <;> linarith

theorem within_concat : (low : ℝ) ≤ meanGap (instants ++ [midnight next]) ∧
    meanGap (instants ++ [midnight next]) ≤ (high : ℝ) := by
  obtain ⟨n, above, below, -, -, figures⟩ := h.exists_gap
  rw [meanGap, figures]
  exact Exact.mean_concat_bounds (gapFigures_ne_nil h.two) h.within
    ⟨by exact_mod_cast above, by exact_mod_cast below⟩

theorem lt_timing_concat {c : ℝ} (hc : 0 ≤ c ∧ c ≤ 3 / 4) (sure : c < timing instants) :
    c < timing (instants ++ [midnight next]) := by
  obtain ⟨n, above, -, close, -, figures⟩ := h.exists_gap
  have six : (6 : ℝ) ≤ low := by exact_mod_cast h.six
  have mean : (0 : ℝ) < meanGap instants := by linarith [h.within.1]
  have mean' : (0 : ℝ) < meanGap (instants ++ [midnight next]) := by linarith [h.within_concat.1]
  have gap : (6 : ℝ) ≤ n := six.trans (by exact_mod_cast above)
  rw [timing, Exact.lt_confidence_iff mean (Exact.deviation_nonneg _) hc.1] at sure
  rw [timing, Exact.lt_confidence_iff mean' (Exact.deviation_nonneg _) hc.1, meanGap, figures]
  have quarter : (1 / 4 : ℝ) ≤ 1 - c := by linarith [hc.2]
  have half : ((n : ℝ) - meanGap instants) ^ 2 ≤ (1 / 2) ^ 2 :=
    sq_le_sq' (abs_le.mp close).1 (abs_le.mp close).2
  refine Exact.deviation_concat_lt (gapFigures_ne_nil h.two) (by linarith) mean
    (by linarith) ?_ sure
  calc (1 + (1 - c) ^ 2) * ((n : ℝ) - meanGap instants) ^ 2
      ≤ (1 + (1 - c) ^ 2) * (1 / 2) ^ 2 := by gcongr
    _ ≤ ((1 - c) * 6) ^ 2 := by nlinarith only [quarter]
    _ ≤ ((1 - c) * n) ^ 2 := by gcongr

theorem later (ascending : instants.Pairwise (· ≤ ·)) : ∀ i ∈ instants, i < midnight next := by
  obtain ⟨n, above, -, -, ⟨last, ends, days⟩, -⟩ := h.exists_gap
  have six := h.six
  have split := Int.mul_fdiv_add_fmod last microsPerDay
  have clock := Int.fmod_lt_of_pos last (b := microsPerDay) (by decide)
  have begins : last < midnight next := by
    have perDay : (microsPerDay : Int) = 86400000000 := rfl
    rw [midnight_eq, days]
    rw [perDay] at split clock ⊢
    omega
  exact fun i hi => (le_of_getLast? ascending ends i hi).trans_lt begins

theorem ascending_concat (ascending : instants.Pairwise (· ≤ ·)) :
    (instants ++ [midnight next]).Pairwise (· ≤ ·) := by
  refine List.pairwise_append.mpr ⟨ascending, List.pairwise_singleton _ _, fun i hi j hj => ?_⟩
  rw [List.mem_singleton.mp hj]
  exact (h.later ascending i hi).le

theorem era (bounded : high ≤ 370)
    (dates : ∀ i ∈ instants, 718685 ≤ Int.fdiv i microsPerDay ∧ Int.fdiv i microsPerDay < 804000) :
    EraInstant (midnight next) := by
  obtain ⟨n, -, below, -, ⟨last, ends, days⟩, -⟩ := h.exists_gap
  have day := dates last (List.mem_of_getLast? ends)
  have perDay : (microsPerDay : Int) = 86400000000 := rfl
  rw [EraInstant, midnight_eq, days]
  rw [perDay] at day ⊢
  omega

end Foretells

theorem Foretells.days_lt {low high : Nat} {instants : List Int} {next next' : Date}
    (h : Foretells low high (instants ++ [midnight next]) next') : next.days < next'.days := by
  obtain ⟨n, above, -, -, ⟨last, ends, days⟩, -⟩ := h.exists_gap
  have six := h.six
  rw [List.getLast?_concat, Option.some_inj] at ends
  rw [← ends, midnight_eq, Int.mul_fdiv_cancel _ (by decide)] at days
  omega

end Cadence

/-! ### The pattern -/

section

variable {c : EReal} {p : Pattern ℝ} {instants : List Int} (hp : p.IsOf (.standard c) instants)
  (two : 2 ≤ instants.length) (notDaily : p.frequency ≠ "daily")
include hp two notDaily

theorem Pattern.IsOf.exists_foretells : ∃ (low high : Nat) (next : Date),
    high ≤ 370 ∧ .ofDays p.frequency low high ∈ (Thresholds.standard c).windows ∧
      p.nextDate = .day next ∧ Cadence.Foretells low high instants next := by
  obtain ⟨w, found, name⟩ := Option.map_eq_some_iff.mp hp.frequency
  obtain ⟨listed, holds⟩ := Thresholds.windowOf?_eq_some found
  obtain ⟨low, high, six, bounded, window⟩ :=
    Thresholds.standard_bounds c w listed (name ▸ notDaily)
  obtain ⟨last, n, day, next, ends, onDay, rounded, days, nextDate, -⟩ := hp.dates
  rw [name] at window
  rw [window] at listed holds
  rw [Window.holds_iff, Window.ofDays, EReal.coe_le_coe_iff, EReal.coe_le_coe_iff, Int.cast_natCast,
    Int.cast_natCast] at holds
  exact ⟨low, high, next, bounded, listed, nextDate, two, six, holds, last, n, ends,
    onDay ▸ days, rounded⟩

end

end RecurringPayments
