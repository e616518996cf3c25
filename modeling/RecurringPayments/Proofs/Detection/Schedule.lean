import RecurringPayments.Proofs.Calendar.Months
import RecurringPayments.Proofs.Detection.Report
import RecurringPayments.Proofs.Number.Exact

/-!
A merchant that charges on the same day every month, every third month or every year, held to the
last day of a month that is too short, is found under the standard configuration: calendar months
are uneven, but never by more than three days.
-/
namespace RecurringPayments

open LawfulScalar Result

namespace Window

theorem holds_iff (w : Window) (x : ℝ) : w.Holds x ↔ w.low ≤ x ∧ x ≤ w.high := by
  constructor
  · rintro ⟨m, hm, bounds⟩
    rw [← Option.some_inj.mp hm] at bounds
    exact bounds
  · intro bounds
    exact ⟨x, rfl, bounds⟩

theorem find?_of_apart {windows : List Window}
    (apart : windows.Pairwise fun v w => v.high < w.low) {w : Window} (hw : w ∈ windows) {x : ℝ}
    (holds : w.Holds x) : windows.find? (fun w => decide (w.Holds x)) = some w := by
  induction windows with
  | nil => cases hw
  | cons v rest ih =>
    rw [List.pairwise_cons] at apart
    rcases List.mem_cons.mp hw with rfl | later
    · exact List.find?_cons_of_pos (by simpa using holds)
    · have beyond : ¬ v.Holds x := by
        rw [holds_iff] at holds ⊢
        exact fun inside => absurd (apart.1 w later) (not_lt.mpr (holds.1.trans inside.2))
      rw [List.find?_cons_of_neg (by simpa using beyond)]
      exact ih apart.2 later

end Window

namespace Thresholds

theorem standard_apart (c : EReal) :
    (standard c).windows.Pairwise fun v w => v.high < w.low := by
  have before {name name' : String} {low high low' high' : Int} (h : high < low') :
      (Window.ofDays name low high).high < (Window.ofDays name' low' high').low :=
    EReal.coe_lt_coe_iff.mpr (by exact_mod_cast h)
  simp only [standard, List.pairwise_cons, List.forall_mem_cons]
  simp [before]

theorem windowOf?_standard {c : EReal} {name : String} {low high : Int}
    (listed : .ofDays name low high ∈ (standard c).windows) {x : ℝ} (above : (low : ℝ) ≤ x)
    (below : x ≤ high) : (standard c).windowOf? x = some (.ofDays name low high) := by
  refine Window.find?_of_apart (standard_apart c) listed ((Window.holds_iff _ _).mpr ?_)
  rw [Window.ofDays, EReal.coe_le_coe_iff, EReal.coe_le_coe_iff]
  exact ⟨above, below⟩

end Thresholds

/-! ### Gaps in exact arithmetic -/

namespace Cadence

def GapsWithin (low high : Nat) (a b : Date) : Prop :=
  a.days + low ≤ b.days ∧ b.days ≤ a.days + high

def midnight (d : Date) : Int := (Moment.mk d 0 none).instant

theorem midnight_eq (d : Date) : midnight d = (d.days : Int) * microsPerDay := by
  rw [midnight, Moment.instant, Int.natCast_zero, add_zero]

theorem midnight_le_iff {a b : Date} : midnight a ≤ midnight b ↔ a.days ≤ b.days := by
  have perDay : (microsPerDay : Int) = 86400000000 := rfl
  rw [midnight_eq, midnight_eq, perDay]
  omega

theorem dayGaps_midnight {a b : Date} (later : a.days ≤ b.days) (rest : List Date) :
    dayGaps ((a :: b :: rest).map midnight) =
      (b.days - a.days) :: dayGaps ((b :: rest).map midnight) := by
  have perDay : (0 : ℚ) < microsPerDay := by norm_num [microsPerDay]
  have distance : ((midnight b - midnight a : Int) : ℚ) / microsPerDay =
      (b.days - a.days : Nat) := by
    rw [midnight_eq, midnight_eq, ← sub_mul, Int.cast_mul, Int.cast_natCast,
      mul_div_cancel_right₀ _ perDay.ne', Nat.cast_sub later]
    push_cast
    rfl
  rw [List.map_cons, List.map_cons, dayGaps, distance, Nat.ceil_natCast]

theorem dayGaps_within {low high : Nat} {dates : List Date}
    (chain : dates.IsChain (GapsWithin low high)) :
    ∀ n ∈ dayGaps (dates.map midnight), low ≤ n ∧ n ≤ high := by
  induction dates with
  | nil => simp [dayGaps]
  | cons a rest ih =>
    cases rest with
    | nil => simp [dayGaps]
    | cons b rest =>
      rw [List.isChain_cons_cons] at chain
      obtain ⟨⟨least, most⟩, tail⟩ := chain
      rw [dayGaps_midnight (by omega), List.forall_mem_cons]
      exact ⟨⟨by omega, by omega⟩, ih tail⟩

section

variable {low high : Nat} {dates : List Date} (chain : dates.IsChain (GapsWithin low high))

include chain in
theorem gapFigures_within : ∀ x ∈ (gapFigures (dates.map midnight) : List ℝ),
    (low : ℝ) ≤ x ∧ x ≤ high := by
  intro x hx
  obtain ⟨n, hn, rfl⟩ := List.mem_map.mp hx
  obtain ⟨least, most⟩ := dayGaps_within chain n hn
  change (low : ℝ) ≤ ((n : ℤ) : ℝ) ∧ ((n : ℤ) : ℝ) ≤ high
  exact ⟨by exact_mod_cast least, by exact_mod_cast most⟩

variable (two : 2 ≤ dates.length)

include two in
theorem gapFigures_midnights_ne_nil : (gapFigures (dates.map midnight) : List ℝ) ≠ [] :=
  gapFigures_ne_nil (by rwa [List.length_map])

include chain two

theorem meanGap_within : (low : ℝ) ≤ meanGap (dates.map midnight) ∧
    (meanGap (dates.map midnight) : ℝ) ≤ high :=
  Exact.mean_bounds (gapFigures_midnights_ne_nil two) (fun x hx => (gapFigures_within chain x hx).1)
    fun x hx => (gapFigures_within chain x hx).2

/-- Gaps that differ by no more than a fifth of the least leave the timing nine tenths sure. -/
theorem timing_ge (positive : 0 < low) (even : 5 * high ≤ 6 * low) :
    (9 / 10 : ℝ) ≤ timing (dates.map midnight) := by
  obtain ⟨least, -⟩ := meanGap_within chain two
  have spread : deviation (gapFigures (dates.map midnight) : List ℝ) ≤ ((high : ℝ) - low) / 2 :=
    Exact.deviation_le (gapFigures_midnights_ne_nil two)
      (fun x hx => (gapFigures_within chain x hx).1)
      fun x hx => (gapFigures_within chain x hx).2
  have pos : (0 : ℝ) < low := by exact_mod_cast positive
  have fifth : (5 : ℝ) * high ≤ 6 * low := by exact_mod_cast even
  have mean : (0 : ℝ) < meanGap (dates.map midnight) := pos.trans_le least
  rw [timing, Exact.confidence_eq mean (Exact.deviation_nonneg _)]
  refine le_max_of_le_right ?_
  have relative : deviation (gapFigures (dates.map midnight) : List ℝ) /
      meanGap (dates.map midnight) ≤
      1 / 10 := by
    rw [div_le_iff₀ mean]
    linarith
  linarith

end

theorem pairwise_midnight {low high : Nat} {dates : List Date}
    (chain : dates.IsChain (GapsWithin low high)) : (dates.map midnight).Pairwise (· ≤ ·) := by
  rw [← List.isChain_iff_pairwise]
  exact List.isChain_map_of_isChain midnight
    (fun a b ⟨least, _⟩ => midnight_le_iff.mpr (by omega)) chain

end Cadence

theorem instants_timeline_of_ascending {α : Type} [Scalar α]
    {ts : List (Transaction α)} {key : String}
    {dates : List Date} (ascending : (dates.map Cadence.midnight).Pairwise (· ≤ ·))
    (charged : ((ofMerchant ts key).map (·.date)).Perm (dates.map When.day)) :
    (timeline ts key).map (·.instant) = dates.map Cadence.midnight := by
  have listed : ((timeline ts key).map (·.instant)).Perm ((ofMerchant ts key).map (·.instant)) :=
    (timeline_isTimeline ts key).perm.map _
  have read := charged.map fun w => w.instant?.getD 0
  rw [List.map_map, List.map_map] at read
  exact List.Perm.eq_of_pairwise (fun _ _ _ _ => le_antisymm) (instants_ascending ts key)
    ascending (listed.trans read)

theorem instants_timeline {α : Type} [Scalar α] {ts : List (Transaction α)} {key : String}
    {low high : Nat} {dates : List Date} (chain : dates.IsChain (Cadence.GapsWithin low high))
    (charged : ((ofMerchant ts key).map (·.date)).Perm (dates.map When.day)) :
    (timeline ts key).map (·.instant) = dates.map Cadence.midnight :=
  instants_timeline_of_ascending (Cadence.pairwise_midnight chain) charged

/-! ### Billing periods -/

/-- The months between two charges, and how the frequency is named. -/
def billingPeriods : List (Nat × String) := [(1, "monthly"), (3, "quarterly"), (12, "yearly")]

theorem billingPeriod_spec {months : Nat} {frequency : String}
    (period : (months, frequency) ∈ billingPeriods) :
    ∃ low high, 0 < low ∧ high ≤ low + 3 ∧ 5 * high ≤ 6 * low ∧ 2 * high + 1 ≤ 2 ^ 53 ∧
      (∀ a b, Date.IsMonthsAfter months a b → Cadence.GapsWithin low high a b) ∧
      ∀ (c : EReal) (x : ℝ), (low : ℝ) ≤ x → x ≤ high →
        ((Thresholds.standard c).windowOf? x).map (·.name) = some frequency := by
  simp only [billingPeriods, List.mem_cons, Prod.mk.injEq, List.not_mem_nil, or_false] at period
  have named (name : String) (low high : Int) {least most : Nat} {c : EReal} {x : ℝ}
      (listed : .ofDays name low high ∈ (Thresholds.standard c).windows) (hl : low ≤ least)
      (hh : most ≤ high) (above : (least : ℝ) ≤ x) (below : x ≤ most) :
      ((Thresholds.standard c).windowOf? x).map (·.name) = some name := by
    rw [Thresholds.windowOf?_standard listed (le_trans (by exact_mod_cast hl) above)
      (below.trans (by exact_mod_cast hh))]
    rfl
  rcases period with ⟨rfl, rfl⟩ | ⟨rfl, rfl⟩ | ⟨rfl, rfl⟩
  · exact ⟨28, 31, by decide, by decide, by decide, by decide, fun a b h => h.one,
      fun c x => named _ 28 32 (by simp [Thresholds.standard]) (by decide) (by decide)⟩
  · exact ⟨89, 92, by decide, by decide, by decide, by decide, fun a b h => h.three,
      fun c x => named _ 88 95 (by simp [Thresholds.standard]) (by decide) (by decide)⟩
  · exact ⟨365, 366, by decide, by decide, by decide, by decide, fun a b h => h.twelve,
      fun c x => named _ 360 370 (by simp [Thresholds.standard]) (by decide)
        (by decide)⟩

/-! ### Detection -/

section

variable {months : Nat} {frequency : String} (period : (months, frequency) ∈ billingPeriods)
  {ts : List (Transaction ℝ)} (readable : ∀ t ∈ ts, t.IsReadable) {key : String} {dates : List Date}
  (two : 2 ≤ dates.length) (chain : dates.IsChain (Date.IsMonthsAfter months))
  (charged : ((ofMerchant ts key).map (·.date)).Perm (dates.map When.day))

theorem standard_hasThresholds :
    (Detector.standard : Detector ℝ).HasThresholds (.standard ((6 / 10 : ℝ) : EReal)) := by
  refine Detector.standard_hasThresholds ?_
  change some ((1 * (((6 : ℕ) : ℝ) * 10 ^ (-1 : ℤ)) : ℝ) : EReal) = _
  norm_num

include period two chain charged in
theorem billing_recurs :
    (Thresholds.standard ((6 / 10 : ℝ) : EReal)).Recur (timeline ts key) := by
  obtain ⟨low, high, positive, -, even, -, within, window⟩ := billingPeriod_spec period
  have gaps : dates.IsChain (Cadence.GapsWithin low high) := chain.imp fun a b h => within a b h
  have instants := instants_timeline gaps charged
  have count : (timeline ts key).length = dates.length := by
    have := congrArg List.length instants
    rwa [List.length_map, List.length_map] at this
  obtain ⟨least, most⟩ := Cadence.meanGap_within gaps two
  refine ⟨count ▸ two, ?_, ?_, ?_⟩
  · rw [count]
    exact EReal.coe_le_coe_iff.mpr (by exact_mod_cast two)
  · rw [instants, Thresholds.exists_holds_iff]
    obtain ⟨w, found, -⟩ := Option.map_eq_some_iff.mp (window ((6 / 10 : ℝ) : EReal) _ least most)
    exact ⟨w, found⟩
  · rw [instants]
    refine ⟨_, rfl, EReal.coe_lt_coe_iff.mpr ?_⟩
    have sure := Cadence.timing_ge gaps two positive even
    linarith

include period readable two chain charged in
/-- In exact arithmetic, under the standard configuration: a merchant that charges every month,
every third month or every year on the same day of the month, held to the last day of a shorter
month, is reported with that frequency, at least nine tenths sure, and the day predicted for the
next charge is within three days of the true one. Other merchants may charge in between, and the
order of the list does not matter. -/
theorem detect_standard_billing {d : Detector ℝ}
    (standard : Detector.ofSettings (Settings.none : Settings ℝ) = .ok d) :
    ∃ groups, d.detect ts = .ok groups ∧ ∃ g ∈ groups, g.merchantKey = key ∧
      g.pattern.frequency = frequency ∧ 9 / 10 ≤ g.pattern.confidence ∧
      ∃ predicted, g.pattern.nextDate = .day predicted ∧
        ∀ last next, dates.getLast? = some last → Date.IsMonthsAfter months last next →
          |predicted.daysTo next| ≤ 3 := by
  obtain ⟨low, high, positive, close, even, small, within, window⟩ := billingPeriod_spec period
  have gaps : dates.IsChain (Cadence.GapsWithin low high) := chain.imp fun a b h => within a b h
  have instants := instants_timeline gaps charged
  obtain ⟨least, most⟩ := Cadence.meanGap_within gaps two
  obtain rfl : Detector.standard = d := by
    rw [Detector.ofSettings_none] at standard
    exact Except.ok.inj standard
  obtain ⟨groups, detected, report⟩ := Detector.exists_report standard_hasThresholds
    (Thresholds.standard_bounded _) readable
  obtain ⟨g, hg, rfl⟩ := (report.reported key).mpr (billing_recurs period two chain charged)
  have pattern := (report.described g hg).pattern
  rw [instants] at pattern
  obtain ⟨lastInstant, n, day, predicted, getLast, onDay, rounded, days, nextDate, -⟩ :=
    pattern.dates
  have mean : value? (Cadence.meanGap (dates.map Cadence.midnight) : ℝ) =
      some ((Cadence.meanGap (dates.map Cadence.midnight) : ℝ) : EReal) := rfl
  obtain ⟨m, rounded', lower, upper⟩ := Cadence.roundHalfUp?_between mean least most small
  obtain rfl : n = m := Option.some_inj.mp (rounded.symm.trans rounded')
  refine ⟨groups, detected, g, hg, rfl, ?_, ?_, predicted, nextDate, fun last next hlast true => ?_⟩
  · have frequency := pattern.frequency
    rw [window _ _ least most, Option.some_inj] at frequency
    exact frequency.symm
  · rw [pattern.confidence]
    exact Cadence.timing_ge gaps two positive even
  · obtain ⟨soonest, latest⟩ := within last next true
    rw [List.getLast?_map, hlast, Option.map_some, Option.some_inj] at getLast
    rw [← getLast, Cadence.midnight_eq, Int.mul_fdiv_cancel _ (by decide)] at onDay
    rw [Date.daysTo, abs_le]
    omega

end

noncomputable def rentPayments : List (Transaction ℝ) := [
  Detector.payment "Rent" ⟨738944, by decide⟩ 900, Detector.payment "Rent" ⟨738915, by decide⟩ 900,
  Detector.payment "Rent" ⟨738975, by decide⟩ 900]

theorem detect_standard_billing_rentPayments :
    ∃ groups, (Detector.standard : Detector ℝ).detect rentPayments = .ok groups ∧
      ∃ g ∈ groups, g.merchantKey = "rent" ∧ g.pattern.frequency = "monthly" ∧
        9 / 10 ≤ g.pattern.confidence ∧
        ∃ predicted, g.pattern.nextDate = .day predicted ∧
          |predicted.daysTo ⟨739005, by decide⟩| ≤ 3 := by
  have readable : ∀ t ∈ rentPayments, t.IsReadable := by
    simp only [rentPayments, List.forall_mem_cons]
    refine ⟨Detector.payment_isReadable ?_ _ rfl, Detector.payment_isReadable ?_ _ rfl,
      Detector.payment_isReadable ?_ _ rfl, by simp⟩
    all_goals decide
  have chain : [⟨738915, by decide⟩, ⟨738944, by decide⟩, ⟨738975, by decide⟩].IsChain
      (Date.IsMonthsAfter 1) := by
    simp only [List.isChain_cons_cons, List.isChain_singleton, and_true]
    exact ⟨⟨by decide, 31, by decide, by decide⟩, ⟨by decide, 31, by decide, by decide⟩⟩
  have charged : ((ofMerchant rentPayments "rent").map (·.date)).Perm
      ([⟨738915, by decide⟩, ⟨738944, by decide⟩, ⟨738975, by decide⟩].map When.day) := by
    exact .swap _ _ _
  obtain ⟨groups, detected, g, hg, named, frequency, sure, predicted, nextDate, near⟩ :=
    detect_standard_billing (.head _) readable (by decide) chain charged Detector.ofSettings_none
  exact ⟨groups, detected, g, hg, named, frequency, sure, predicted, nextDate,
    near _ _ rfl ⟨by decide, 31, by decide, by decide⟩⟩

end RecurringPayments
