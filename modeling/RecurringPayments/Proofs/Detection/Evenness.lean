import RecurringPayments.Proofs.Detection.Foretelling
import RecurringPayments.Proofs.Detection.Shift

/-!
Evenly spaced payments. In exact arithmetic a deviation of zero takes gaps that are all the same, so
detection is sure of exactly these merchants; and where the gaps are all the same, the gap itself is
the mean gap that is looked up among the windows and added to the last date.
-/
namespace RecurringPayments

open LawfulScalar Result

namespace Cadence

def IsRegular (gap : Nat) (instants : List Int) : Prop := ∀ n ∈ dayGaps instants, n = gap

section

variable {instants : List Int} (two : 2 ≤ instants.length)

theorem isRegular_iff {gap : Nat} :
    IsRegular gap instants ↔ ∀ x ∈ (gapFigures instants : List ℝ), x = gap := by
  rw [IsRegular, gapFigures, List.forall_mem_map]
  refine forall₂_congr fun n _ => ?_
  change _ ↔ ((n : Int) : ℝ) = gap
  rw [Int.cast_natCast, Nat.cast_inj]

include two

theorem meanGap_of_isRegular {gap : Nat} (regular : IsRegular gap instants) :
    (meanGap instants : ℝ) = gap :=
  Exact.mean_of_forall_eq (gapFigures_ne_nil two) (isRegular_iff.mp regular)

theorem timing_of_isRegular {gap : Nat} (positive : 0 < gap) (regular : IsRegular gap instants) :
    (timing instants : ℝ) = 1 := by
  have mean := meanGap_of_isRegular two regular
  have mean_pos : (0 : ℝ) < meanGap instants := by
    rw [mean]
    exact_mod_cast positive
  rw [timing, Exact.confidence_eq_one_iff mean_pos (Exact.deviation_nonneg _),
    Exact.deviation_eq_zero_iff (gapFigures_ne_nil two)]
  exact fun x hx => (isRegular_iff.mp regular x hx).trans mean.symm

theorem timing_eq_one_iff :
    (timing instants : ℝ) = 1 ↔ ∃ gap, 0 < gap ∧ IsRegular gap instants := by
  constructor
  · intro sure
    have some : (gapFigures instants : List ℝ) ≠ [] := gapFigures_ne_nil two
    obtain ⟨mean_pos, -⟩ := Exact.of_confidence_pos (Exact.deviation_nonneg _)
      (zero_lt_one.trans_eq sure.symm)
    rw [timing, Exact.confidence_eq_one_iff mean_pos (Exact.deviation_nonneg _),
      Exact.deviation_eq_zero_iff some] at sure
    -- Any of the gaps will do, since each is the mean.
    obtain ⟨x, rest, figures⟩ := List.exists_cons_of_ne_nil some
    have first : x ∈ (gapFigures instants : List ℝ) := figures ▸ List.mem_cons_self
    obtain ⟨gap, -, rfl⟩ := List.mem_map.mp first
    have mean : meanGap instants = (gap : ℝ) := (sure _ first).symm.trans (Int.cast_natCast gap)
    rw [mean, Nat.cast_pos] at mean_pos
    exact ⟨gap, mean_pos, isRegular_iff.mpr fun y hy => (sure y hy).trans mean⟩
  · rintro ⟨gap, positive, regular⟩
    exact timing_of_isRegular two positive regular

theorem roundHalfUp?_of_isRegular {gap : Nat} (regular : IsRegular gap instants) :
    roundHalfUp? (meanGap instants : ℝ) = some (gap : Int) := by
  have whole : ⌊(gap : ℝ) + 1 / 2⌋ = (gap : Int) := by
    rw [Int.floor_eq_iff, Int.cast_natCast]
    constructor <;> linarith
  rw [meanGap_of_isRegular two regular, roundHalfUp?_eq, whole]

end

end Cadence

def RecurringGroup.IsDueAfter {α : Type} (days : Nat) (g : RecurringGroup α) : Prop :=
  ∃ last next, Member.lastDate? g.members = some last ∧ g.pattern.nextDate = .day next ∧
    next.days = last.days + days

theorem RecurringGroup.IsOf.of_isRegular {g : RecurringGroup ℝ} {h : Thresholds} {key : String}
    {payments : List (Transaction ℝ)} (hg : g.IsOf h key payments)
    (readable : ∀ t ∈ payments, t.IsReadable) (two : 2 ≤ payments.length) {gap : Nat}
    (positive : 0 < gap) (regular : Cadence.IsRegular gap (payments.map (·.instant))) :
    (h.windowOf? (gap : ℝ)).map (·.name) = some g.pattern.frequency ∧ g.pattern.confidence = 1 ∧
      g.IsDueAfter gap := by
  have two' : 2 ≤ (payments.map (·.instant)).length := by rwa [List.length_map]
  obtain ⟨last, n, day, next, ends, onDay, rounded, days, nextDate, -⟩ := hg.pattern.dates
  obtain ⟨day', lastDate, onDay'⟩ := Transaction.exists_lastDate? readable ends
  obtain rfl : day' = day := Date.eq_of_days (by exact_mod_cast onDay'.trans onDay.symm)
  rw [Cadence.roundHalfUp?_of_isRegular two' regular, Option.some_inj] at rounded
  refine ⟨?_, ?_, day', next, by rw [hg.members, lastDate], nextDate, by omega⟩
  · rw [← Cadence.meanGap_of_isRegular two' regular]
    exact hg.pattern.frequency
  · rw [hg.pattern.confidence]
    exact Cadence.timing_of_isRegular two' positive regular

namespace Detector

/-- How sure a report is of its groups, and what it says of evenly spaced payments. -/
structure JudgesEvenness (h : Thresholds) (ts : List (Transaction ℝ))
    (groups : List (RecurringGroup ℝ)) : Prop where
  sure : ∀ g ∈ groups, h.minConfidence < (g.pattern.confidence : EReal) ∧ g.pattern.confidence ≤ 1
  certain : ∀ g ∈ groups, g.pattern.confidence = 1 ↔
    ∃ gap, 0 < gap ∧ Cadence.IsRegular gap ((timeline ts g.merchantKey).map (·.instant))
  regular : ∀ key gap, 0 < gap →
    max 2 h.minOccurrences ≤ (((ofMerchant ts key).length : ℝ) : EReal) →
    Cadence.IsRegular gap ((timeline ts key).map (·.instant)) →
      ((∃ g ∈ groups, g.merchantKey = key) ↔
        ∃ w ∈ h.windows, w.low ≤ ((gap : ℝ) : EReal) ∧ ((gap : ℝ) : EReal) ≤ w.high) ∧
      ∀ g ∈ groups, g.merchantKey = key →
        (h.windowOf? (gap : ℝ)).map (·.name) = some g.pattern.frequency ∧
          g.pattern.confidence = 1 ∧ g.IsDueAfter gap

section

variable {d : Detector ℝ} {h : Thresholds} (below : h.minConfidence < 1) {ts : List (Transaction ℝ)}
  {key : String} {gap : Nat} (positive : 0 < gap)
  (enough : max 2 h.minOccurrences ≤ (((ofMerchant ts key).length : ℝ) : EReal))
  (regular : Cadence.IsRegular gap ((timeline ts key).map (·.instant)))

include below positive enough regular in
theorem recur_iff_of_isRegular : h.Recur (timeline ts key) ↔
    ∃ w ∈ h.windows, w.low ≤ ((gap : ℝ) : EReal) ∧ ((gap : ℝ) : EReal) ≤ w.high := by
  rw [← length_timeline] at enough
  obtain ⟨two, enough⟩ := max_le_iff.mp enough
  have many : 2 ≤ (timeline ts key).length := by exact_mod_cast EReal.coe_le_coe_iff.mp two
  have two' : 2 ≤ ((timeline ts key).map (·.instant)).length := by rwa [List.length_map]
  have held (w : Window) : w.Holds (Cadence.meanGap ((timeline ts key).map (·.instant)) : ℝ) ↔
      w.low ≤ ((gap : ℝ) : EReal) ∧ ((gap : ℝ) : EReal) ≤ w.high := by
    rw [Window.holds_iff, Cadence.meanGap_of_isRegular two' regular]
  constructor
  · rintro ⟨-, -, ⟨w, hw, holds⟩, -⟩
    exact ⟨w, hw, (held w).mp holds⟩
  · rintro ⟨w, hw, inside⟩
    refine ⟨many, enough, ⟨w, hw, (held w).mpr inside⟩, _, rfl, ?_⟩
    rwa [Cadence.timing_of_isRegular two' positive regular]

end

/-- In exact arithmetic, under numeric thresholds, windows of at most 20000 days and a least
confidence below one: every group is surer than the least confidence, and at most as sure as one,
which it is exactly if its payments are evenly spaced; and a merchant with enough evenly spaced
payments is reported exactly if a window holds their gap, in the first such window, as sure as one,
and due again after that gap. -/
theorem detect_judgesEvenness {d : Detector ℝ} {h : Thresholds} (hd : d.HasThresholds h)
    (below : h.minConfidence < 1)
    (bounded : ∀ w ∈ h.windows, w.high ≤ 20000) {ts : List (Transaction ℝ)}
    (readable : ∀ t ∈ ts, t.IsReadable) :
    ∃ groups, d.detect ts = .ok groups ∧ JudgesEvenness h ts groups := by
  obtain ⟨groups, detected, report⟩ := exists_report hd bounded readable
  have listed (key : String) : ∀ t ∈ timeline ts key, t.IsReadable :=
    fun t ht => readable t (mem_timeline.mp ht).1
  refine ⟨groups, detected, fun g hg => ?_, fun g hg => ?_,
    fun key gap positive enough regular => ?_⟩
  · obtain ⟨c, hc, sure⟩ := ((report.reported _).mp ⟨g, hg, rfl⟩).sure
    obtain ⟨c', hc', -, most⟩ := Cadence.value?_timing (α := ℝ)
      ((timeline ts g.merchantKey).map (·.instant))
    rw [(report.described g hg).pattern.confidence]
    rw [← Option.some_inj.mp hc] at sure
    rw [← Option.some_inj.mp hc'] at most
    exact ⟨sure, by exact_mod_cast most⟩
  · have two := ((report.reported _).mp ⟨g, hg, rfl⟩).two
    rw [(report.described g hg).pattern.confidence]
    exact Cadence.timing_eq_one_iff (by rwa [List.length_map])
  · refine ⟨(report.reported key).trans (recur_iff_of_isRegular below positive enough regular), ?_⟩
    rintro g hg rfl
    exact (report.described g hg).of_isRegular (listed _) ((report.reported _).mp ⟨g, hg, rfl⟩).two
      positive regular

def paidAt (id merchant : String) (d : Date) (minutes : Nat) (amount : Value ℝ) : Transaction ℝ :=
  { payment merchant d 0 with
    id := .text id
    date := .moment ⟨d, minutes * 60000000, none⟩
    amount }

/-- Three visits a week apart, each earlier in the day than the one before, for three amounts; and
two rides that are ten days apart. -/
def gymPaymentsFor (first second third : Value ℝ) : List (Transaction ℝ) := [
  paidAt "a" "Gym" ⟨740016, by decide⟩ 1080 first,
  paidAt "b" "Taxi" ⟨740017, by decide⟩ 600 (.int 12),
  paidAt "c" "GYM Inc." ⟨740023, by decide⟩ 570 second,
  paidAt "d" "Taxi" ⟨740027, by decide⟩ 600 (.int 15),
  paidAt "e" " gym" ⟨740030, by decide⟩ 0 third]

noncomputable def gymPayments : List (Transaction ℝ) :=
  gymPaymentsFor (.int 30) (.int (-30)) (.real (Scalar.ofInt 30))

theorem readable_gymPayments : ∀ t ∈ gymPayments, t.IsReadable := by
  have paid {id merchant : String} {d : Date} (era : (When.day d).InEra) {minutes : Nat}
      (clock : minutes * 60000000 < microsPerDay) {amount : Value ℝ}
      (number : ∃ x, amount.scalar = .ok x) : (paidAt id merchant d minutes amount).IsReadable :=
    ⟨⟨era, clock, rfl⟩, number⟩
  simp only [gymPayments, gymPaymentsFor, List.forall_mem_cons]
  refine ⟨paid ?_ ?_ ⟨_, rfl⟩, paid ?_ ?_ ⟨_, rfl⟩, paid ?_ ?_ ⟨_, rfl⟩, paid ?_ ?_ ⟨_, rfl⟩,
    paid ?_ ?_ ⟨_, rfl⟩, by simp⟩
  all_goals decide

theorem timeline_gymPayments {key : String} (listed : key = "gym" ∨ key = "taxi") :
    timeline gymPayments key = ofMerchant gymPayments key := by
  apply timeline_of_ascending
  rcases listed with rfl | rfl <;> decide

theorem isRegular_gymPayments :
    Cadence.IsRegular 7 ((timeline gymPayments "gym").map (·.instant)) ∧
      Cadence.IsRegular 10 ((timeline gymPayments "taxi").map (·.instant)) := by
  have visits : (ofMerchant gymPayments "gym").map (·.instant) =
      [740016 * 86400000000 + 64800000000, 740023 * 86400000000 + 34200000000,
        740030 * 86400000000] := rfl
  have rides : (ofMerchant gymPayments "taxi").map (·.instant) =
      [740017 * 86400000000 + 36000000000, 740027 * 86400000000 + 36000000000] := rfl
  rw [timeline_gymPayments (.inl rfl), timeline_gymPayments (.inr rfl), visits, rides]
  simp only [Cadence.IsRegular, Cadence.dayGaps, List.forall_mem_cons]
  refine ⟨⟨?_, ?_, by simp⟩, ?_, by simp⟩
  all_goals
    rw [Nat.ceil_eq_iff (by decide)]
    norm_num [microsPerDay]

theorem sixTenths_lt_one : ((6 / 10 : ℝ) : EReal) < 1 := by
  rw [← EReal.coe_one, EReal.coe_lt_coe_iff]
  norm_num

theorem enough_standard {c : EReal} {n : Nat} (two : 2 ≤ n) :
    max 2 (Thresholds.standard c).minOccurrences ≤ ((n : ℝ) : EReal) :=
  max_le (EReal.coe_le_coe_iff.mpr (by exact_mod_cast two))
    (EReal.coe_le_coe_iff.mpr (by exact_mod_cast two))

theorem exists_window_week (c : EReal) : ∃ w ∈ (Thresholds.standard c).windows,
    w.low ≤ (((7 : Nat) : ℝ) : EReal) ∧ (((7 : Nat) : ℝ) : EReal) ≤ w.high :=
  ⟨.ofDays "weekly" 6 8, by simp [Thresholds.standard], EReal.coe_le_coe_iff.mpr (by norm_num),
    EReal.coe_le_coe_iff.mpr (by norm_num)⟩

theorem recur_gymPayments :
    (Thresholds.standard ((6 / 10 : ℝ) : EReal)).Recur (timeline gymPayments "gym") :=
  (recur_iff_of_isRegular sixTenths_lt_one (by decide) (enough_standard (n := 3) (by decide))
    isRegular_gymPayments.1).mpr (exists_window_week _)

theorem exists_group_gymPayments {groups : List (RecurringGroup ℝ)}
    (detected : standard.detect gymPayments = .ok groups) :
    ∃ g ∈ groups, g.merchantKey = "gym" := by
  obtain ⟨reports, again, report⟩ := exists_report RecurringPayments.standard_hasThresholds
    (Thresholds.standard_bounded _) readable_gymPayments
  obtain rfl : reports = groups := Except.ok.inj (again.symm.trans detected)
  exact (report.reported "gym").mpr recur_gymPayments

theorem detect_judgesEvenness_gymPayments :
    ∃ groups, standard.detect gymPayments = .ok groups ∧
      JudgesEvenness (.standard ((6 / 10 : ℝ) : EReal)) gymPayments groups ∧
      (∃ g ∈ groups, g.merchantKey = "gym" ∧ g.pattern.frequency = "weekly" ∧
        g.pattern.confidence = 1 ∧ g.IsDueAfter 7) ∧
      ∀ g ∈ groups, g.merchantKey ≠ "taxi" := by
  obtain ⟨groups, detected, judged⟩ := detect_judgesEvenness
    RecurringPayments.standard_hasThresholds sixTenths_lt_one (Thresholds.standard_bounded _)
    readable_gymPayments
  obtain ⟨weekly, ten⟩ := isRegular_gymPayments
  obtain ⟨-, described⟩ := judged.regular "gym" 7 (by decide)
    (enough_standard (n := 3) (by decide)) weekly
  obtain ⟨rides, -⟩ := judged.regular "taxi" 10 (by decide) (enough_standard (n := 2) le_rfl) ten
  obtain ⟨g, hg, key⟩ := exists_group_gymPayments detected
  obtain ⟨named, sure, due⟩ := described g hg key
  have week : (Thresholds.standard ((6 / 10 : ℝ) : EReal)).windowOf? ((7 : Nat) : ℝ) =
      some (.ofDays "weekly" 6 8) :=
    Thresholds.windowOf?_standard (by simp [Thresholds.standard]) (by norm_num) (by norm_num)
  rw [week, Option.map_some, Option.some_inj] at named
  refine ⟨groups, detected, judged, ⟨g, hg, key, named.symm, sure, due⟩, fun g' hg' taxi => ?_⟩
  obtain ⟨w, hw, low, high⟩ := rides.mp ⟨g', hg', taxi⟩
  have apart : ∀ w ∈ (Thresholds.standard ((6 / 10 : ℝ) : EReal)).windows,
      w.high < (((10 : Nat) : ℝ) : EReal) ∨ (((10 : Nat) : ℝ) : EReal) < w.low := by
    simp only [Thresholds.standard, List.forall_mem_cons, Window.ofDays, EReal.coe_lt_coe_iff]
    norm_num
  exact (apart w hw).elim (absurd high ∘ not_le.mpr) (absurd low ∘ not_le.mpr)

end Detector

end RecurringPayments
