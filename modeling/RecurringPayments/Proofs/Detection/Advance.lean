import RecurringPayments.Proofs.Detection.Foretelling
import RecurringPayments.Proofs.Detection.Verdict

/-!
What detection foretells lies ahead. The daily window begins at a mean gap of zero, but nothing is
foretold from gaps close to zero: in exact arithmetic a confidence above zero takes gaps that
deviate from their mean by less than it, and whole days that do so lie above half a day on
average. So the mean gap rounds to a day at least.
-/
namespace RecurringPayments

open LawfulScalar Result

theorem Cadence.half_lt_meanGap {instants : List Int}
    (gaps : (gapFigures instants : List ℝ) ≠ []) (sure : 0 < (timing instants : ℝ)) :
    1 / 2 < (meanGap instants : ℝ) := by
  obtain ⟨-, even⟩ := Exact.of_confidence_pos (Exact.deviation_nonneg _) sure
  refine Exact.half_lt_mean gaps (fun x hx => ?_) even
  obtain ⟨n, -, rfl⟩ := List.mem_map.mp hx
  exact ⟨n, Int.cast_natCast n⟩

/-- The members of a group end no earlier than they begin, and the day foretold comes after the day
of each of them. -/
structure RecurringGroup.LooksAhead {α : Type} (g : RecurringGroup α) : Prop where
  inOrder : ∃ first last i j, g.members.head? = some first ∧ g.members.getLast? = some last ∧
    first.date.instant? = some i ∧ last.date.instant? = some j ∧ i ≤ j
  ahead : ∃ next, g.pattern.nextDate = .day next ∧
    ∀ m ∈ g.members, ∃ day, m.date.date? = some day ∧ day.days < next.days

namespace Detector

section

variable {d : Detector ℝ} {c : EReal} (minConfidence : d.minConfidence.number? = some c)
  (nonneg : 0 ≤ c)
include minConfidence nonneg

theorem confidence_pos_of_verdict {instants : List Int} {p : Pattern ℝ}
    (decided : d.verdict instants = .ok (some p)) : 0 < p.confidence := by
  have confidence : (Value.real p.confidence).number? = some (p.confidence : EReal) := rfl
  have weighed := Value.isAtMost_number confidence minConfidence
  rw [(of_verdict decided).2, Except.ok.injEq, eq_comm, decide_eq_false_iff_not, not_le] at weighed
  exact EReal.coe_pos.mp (nonneg.trans_lt weighed)

theorem exists_ahead {instants : List Int} (era : ∀ i ∈ instants, EraInstant i)
    (ascending : instants.Pairwise (· ≤ ·)) {p : Pattern ℝ}
    (decided : d.verdict instants = .ok (some p)) :
    ∃ last next, instants.getLast? = some last ∧ p.nextDate = .day next ∧
      Int.fdiv last microsPerDay < next.days := by
  obtain ⟨gaps, confidence, last, n, day, next, ends, rounded, onDay, after, nextDate⟩ :=
    of_inferPattern (of_verdict decided).1
  have figures : (Cadence.gaps (instants.map some) : List ℝ) = Cadence.gapFigures instants :=
    Cadence.gaps_eq era ascending
  rw [figures] at gaps confidence rounded
  have sure : 0 < (Cadence.timing instants : ℝ) :=
    (confidence_pos_of_verdict minConfidence nonneg decided).trans_eq confidence
  have half := Cadence.half_lt_meanGap gaps sure
  have advance : 1 ≤ n := by
    change Cadence.roundHalfUp? (Cadence.meanGap instants : ℝ) = some n at rounded
    rw [Cadence.roundHalfUp?_eq, Option.some_inj] at rounded
    rw [← rounded, Int.le_floor]
    push_cast
    linarith
  have days : (next.days : Int) = day.days + n := Date.ofDays?_eq_some_iff.mp after
  rw [Date.ofDays?_eq_some_iff.mp onDay] at days
  rw [Cadence.getLast?_map_some] at ends
  exact ⟨last, next, ends, nextDate, by omega⟩

theorem looksAhead_describe {payments : List (Transaction ℝ)}
    (readable : ∀ t ∈ payments, t.IsReadable)
    (ascending : payments.Pairwise fun s t => s.instant ≤ t.instant) {p : Pattern ℝ}
    (decided : d.verdict (payments.map (·.instant)) = .ok (some p)) (key : String) (steady : Bool) :
    (describe key payments p steady).LooksAhead := by
  have sorted : (payments.map (·.instant)).Pairwise (· ≤ ·) := List.pairwise_map.mpr ascending
  obtain ⟨i, next, ends, nextDate, later⟩ :=
    exists_ahead minConfidence nonneg (era_instants readable) sorted decided
  have latest := Cadence.le_of_getLast? sorted ends
  rw [List.forall_mem_map] at latest
  rw [List.getLast?_map, Option.map_eq_some_iff] at ends
  obtain ⟨last, ends, rfl⟩ := ends
  have lastIn := List.mem_of_getLast? ends
  constructor
  · obtain ⟨first, rest, rfl⟩ := List.exists_cons_of_ne_nil (List.ne_nil_of_mem lastIn)
    refine ⟨.ofTransaction first, .ofTransaction last, first.instant, last.instant, rfl, ?_,
      (readable first (.head _)).instant?_eq.1, (readable last lastIn).instant?_eq.1,
      latest first (.head _)⟩
    rw [describe, List.getLast?_map, ends]
    rfl
  · refine ⟨next, nextDate, ?_⟩
    rw [describe, List.forall_mem_map]
    intro t ht
    obtain ⟨day, i, onDay, instant, -, date, -⟩ := (readable t ht).date.spec
    refine ⟨day, onDay, ?_⟩
    have same : t.instant = i := by rw [Transaction.instant, instant, Option.getD_some]
    have sooner : Int.fdiv i microsPerDay ≤ Int.fdiv last.instant microsPerDay := by
      rw [Int.fdiv_eq_ediv_of_nonneg _ (by decide), Int.fdiv_eq_ediv_of_nonneg _ (by decide)]
      exact Int.ediv_le_ediv (by decide) (same ▸ latest t ht)
    omega

end

/-- In exact arithmetic, under any configuration whose least confidence is not below zero: in each
group reported on readable transactions the payments are in order, and the next one is foretold for
a day after all of them. Under numeric thresholds and windows of at most 20000 days there is a
report. -/
theorem detect_looksAhead {d : Detector ℝ} {c : EReal}
    (minConfidence : d.minConfidence.number? = some c) (nonneg : 0 ≤ c) {ts : List (Transaction ℝ)}
    (readable : ∀ t ∈ ts, t.IsReadable) :
    (∀ groups, d.detect ts = .ok groups → ∀ g ∈ groups, g.LooksAhead) ∧
      ∀ h, d.HasThresholds h → (∀ w ∈ h.windows, w.high ≤ 20000) →
        ∃ groups, d.detect ts = .ok groups := by
  constructor
  · intro groups detected g hg
    obtain ⟨decided, described⟩ := of_mem_detect readable detected hg
    rw [described]
    exact looksAhead_describe minConfidence nonneg
      (fun t ht => readable t (mem_timeline.mp ht).1) (timeline_isTimeline ts _).ascending decided
      _ _
  · intro h hd bounded
    obtain ⟨groups, detected, -⟩ := exists_report hd bounded readable
    exact ⟨groups, detected⟩

noncomputable def lenient : Detector ℝ := { standard with minConfidence := .int 0 }

theorem lenient_hasThresholds : lenient.HasThresholds (.standard (((0 : Int) : ℝ) : EReal)) where
  minOccurrences := rfl
  minConfidence := rfl
  maxVariance := rfl
  minSubscriptionConfidence := rfl
  windows := RecurringPayments.standard_hasThresholds.windows

/-- Payments on three days in a row, two of them on the second day. -/
def coffeePayments : List (Transaction ℝ) :=
  [payment "Coffee" ⟨739701, by decide⟩ 4, payment "Coffee" ⟨739702, by decide⟩ 4,
    payment "Coffee" ⟨739702, by decide⟩ 4, payment "Coffee" ⟨739703, by decide⟩ 4]

theorem readable_coffeePayments : ∀ t ∈ coffeePayments, t.IsReadable := by
  simp only [coffeePayments, List.forall_mem_cons]
  refine ⟨payment_isReadable ?_ _ rfl, payment_isReadable ?_ _ rfl, payment_isReadable ?_ _ rfl,
    payment_isReadable ?_ _ rfl, by simp⟩
  all_goals decide

theorem timeline_coffeePayments : timeline coffeePayments "coffee" = coffeePayments := by
  have ascending : (ofMerchant coffeePayments "coffee").Pairwise
      fun s t => s.instant ≤ t.instant := by decide
  exact timeline_of_ascending ascending

theorem gapFigures_coffeePayments :
    (Cadence.gapFigures ((timeline coffeePayments "coffee").map (·.instant)) : List ℝ) =
      [1, 0, 1] := by
  have instants : coffeePayments.map (·.instant) =
      [⟨739701, by decide⟩, ⟨739702, by decide⟩, ⟨739702, by decide⟩, ⟨739703, by decide⟩].map
        Cadence.midnight := rfl
  have figure (n : Nat) : (Scalar.ofInt (n : Int) : ℝ) = n := Int.cast_natCast n
  rw [timeline_coffeePayments, instants, Cadence.gapFigures, Cadence.dayGaps_midnight (by decide),
    Cadence.dayGaps_midnight (by decide), Cadence.dayGaps_midnight (by decide)]
  simp [Cadence.dayGaps, figure]

theorem meanGap_coffeePayments :
    (Cadence.meanGap ((timeline coffeePayments "coffee").map (·.instant)) : ℝ) = 2 / 3 := by
  rw [Cadence.meanGap, gapFigures_coffeePayments, Exact.mean_eq]
  norm_num

theorem windowOf?_coffeePayments (c : EReal) : (Thresholds.standard c).windowOf?
    (Cadence.meanGap ((timeline coffeePayments "coffee").map (·.instant)) : ℝ) =
      some (.ofDays "daily" 0 2) := by
  rw [meanGap_coffeePayments]
  exact Thresholds.windowOf?_standard (by simp [Thresholds.standard]) (by norm_num) (by norm_num)

theorem timing_coffeePayments :
    0 < (Cadence.timing ((timeline coffeePayments "coffee").map (·.instant)) : ℝ) := by
  have mean : mean ([1, 0, 1] : List ℝ) = 2 / 3 := by
    rw [← gapFigures_coffeePayments]
    exact meanGap_coffeePayments
  have even : deviation ([1, 0, 1] : List ℝ) < 1 * RecurringPayments.mean [1, 0, 1] := by
    rw [Exact.deviation_lt_iff (by simp) one_pos (by norm_num [mean])]
    norm_num
  rw [Cadence.timing, Cadence.meanGap, gapFigures_coffeePayments,
    Exact.lt_confidence_iff (by norm_num [mean]) (Exact.deviation_nonneg _) le_rfl, sub_zero]
  exact even

theorem recur_coffeePayments :
    (Thresholds.standard (((0 : Int) : ℝ) : EReal)).Recur (timeline coffeePayments "coffee") := by
  refine ⟨?_, ?_, Thresholds.exists_holds_iff.mpr ⟨_, windowOf?_coffeePayments _⟩, _, rfl, ?_⟩
  · rw [timeline_coffeePayments]
    decide
  · rw [timeline_coffeePayments]
    exact EReal.coe_le_coe_iff.mpr (by norm_num [coffeePayments])
  · refine EReal.coe_lt_coe_iff.mpr ?_
    rw [Int.cast_zero]
    exact timing_coffeePayments

theorem detect_looksAhead_coffeePayments :
    ∃ groups, lenient.detect coffeePayments = .ok groups ∧
      ∃ g ∈ groups, g.merchantKey = "coffee" ∧ g.pattern.frequency = "daily" ∧ g.LooksAhead := by
  have nonneg : (0 : EReal) ≤ (((0 : Int) : ℝ) : EReal) := by simp
  obtain ⟨ahead, -⟩ := detect_looksAhead lenient_hasThresholds.minConfidence nonneg
    readable_coffeePayments
  obtain ⟨groups, detected, report⟩ := exists_report lenient_hasThresholds
    (Thresholds.standard_bounded _) readable_coffeePayments
  obtain ⟨g, hg, key⟩ := (report.reported "coffee").mpr recur_coffeePayments
  refine ⟨groups, detected, g, hg, key, ?_, ahead groups detected g hg⟩
  have named := (report.described g hg).pattern.frequency
  rw [key, windowOf?_coffeePayments, Option.map_some, Option.some_inj] at named
  exact named.symm

end Detector

end RecurringPayments
