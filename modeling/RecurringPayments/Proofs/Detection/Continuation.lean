import RecurringPayments.Proofs.Detection.Foretelling
import RecurringPayments.Proofs.Detection.Order

/-!
Predictions that come true. Under the standard configuration a payment on the foretold day, of the
average size, leaves its merchant reported as before, and foretells a later day.
-/
namespace RecurringPayments

open LawfulScalar Result

/-! ### The timeline -/

section

variable {α : Type} [Scalar α] {before after : List (Transaction α)} {t : Transaction α}
  {key : String}

theorem ofMerchant_insert_of_ne (other : t.key ≠ key) :
    ofMerchant (before ++ t :: after) key = ofMerchant (before ++ after) key := by
  rw [ofMerchant, ofMerchant, List.filter_append, List.filter_append,
    List.filter_cons_of_neg (by simpa using other)]

theorem timeline_insert_of_later (own : t.key = key)
    (later : ∀ s ∈ timeline (before ++ after) key, s.instant < t.instant) :
    timeline (before ++ t :: after) key = timeline (before ++ after) key ++ [t] := by
  have sorted := timeline_isTimeline (before ++ after) key
  have sorted' := timeline_isTimeline (before ++ t :: after) key
  refine StableSort.eq_of_filter_rank sorted'.ascending ?_ fun i => ?_
  · refine List.pairwise_append.mpr ⟨sorted.ascending, List.pairwise_singleton _ _, ?_⟩
    intro s hs u hu
    rw [List.mem_singleton.mp hu]
    exact (later s hs).le
  · rw [sorted'.stable, List.filter_append, sorted.stable, ofMerchant, ofMerchant,
      List.filter_append,
      List.filter_append, List.filter_append, List.filter_cons_of_pos (by simpa using own),
      List.filter_append]
    by_cases at_i : t.instant = i
    · -- No other payment is as late, so the new one stands alone in both lists.
      have alone (part : List (Transaction α)) (inside : ∀ s ∈ part, s ∈ before ++ after) :
          (part.filter fun s => s.key == key).filter (fun s => decide (s.instant = i)) = [] := by
        refine List.filter_eq_nil_iff.mpr fun s hs same => ?_
        obtain ⟨listed, same_key⟩ := List.mem_filter.mp hs
        have earlier := later s (mem_timeline.mpr ⟨inside s listed, eq_of_beq same_key⟩)
        rw [at_i, of_decide_eq_true same] at earlier
        exact earlier.false
      rw [List.filter_cons_of_pos (by simpa using at_i),
        List.filter_cons_of_pos (by simpa using at_i),
        alone before fun s hs => List.mem_append_left _ hs,
        alone after fun s hs => List.mem_append_right _ hs]
      rfl
    · rw [List.filter_cons_of_neg (by simpa using at_i),
        List.filter_cons_of_neg (by simpa using at_i), List.filter_nil, List.append_nil]

end

/-! ### The report -/

/-- A group beside the one that foretold its latest payment. -/
structure RecurringGroup.Continues {α : Type} (g' g : RecurringGroup α) : Prop where
  merchantKey : g'.merchantKey = g.merchantKey
  frequency : g'.pattern.frequency = g.pattern.frequency
  averageAmount : g'.averageAmount = g.averageAmount
  isSubscription : g.isSubscription = true → g'.isSubscription = true
  nextDate : ∃ next next', g.pattern.nextDate = .day next ∧ g'.pattern.nextDate = .day next' ∧
    next.days < next'.days

namespace Detector

section

variable {α : Type} [Scalar α] [LawfulScalar α] {d : Detector α} {h : Thresholds}

theorem exists_verdict (hd : d.HasThresholds h) {instants : List Int}
    (era : ∀ i ∈ instants, EraInstant i) (ascending : instants.Pairwise (· ≤ ·))
    (two : 2 ≤ instants.length) (enough : h.minOccurrences ≤ ((instants.length : ℝ) : EReal))
    {w : Window} (hw : h.windowOf? (Cadence.meanGap instants : α) = some w)
    (bounded : w.high ≤ 20000)
    (sure : ∃ c, value? (Cadence.timing instants : α) = some c ∧ h.minConfidence < c) :
    ∃ p, d.verdict instants = .ok (some p) ∧ p.IsOf h instants := by
  obtain ⟨p, found, hp⟩ := inferPattern_of_window hd era ascending two hw bounded
  obtain ⟨c, hc, above⟩ := sure
  have count : (Value.int instants.length : Value α).number? =
      some ((instants.length : ℝ) : EReal) := by
    rw [Value.number?, Int.cast_natCast]
  have few := Value.isBelow_number count hd.minOccurrences
  rw [decide_eq_false (not_lt.mpr enough)] at few
  have confidence : (Value.real p.confidence).number? = some c := by
    rw [hp.confidence]
    exact hc
  have unsure := Value.isAtMost_number confidence hd.minConfidence
  rw [decide_eq_false (not_le.mpr above)] at unsure
  refine ⟨p, ?_, hp⟩
  rw [verdict, few, ok_bind, if_neg Bool.false_ne_true, surePattern, found, ok_bind]
  simp only [unsure, ok_bind]
  rfl

end

theorem isBelow_coe {v w : Value ℝ} {x y : ℝ} (hv : v.number? = some (x : EReal))
    (hw : w.number? = some (y : EReal)) : v.isBelow w = .ok (decide (x < y)) := by
  rw [Value.isBelow_number hv hw, Except.ok.injEq, decide_eq_decide, EReal.coe_lt_coe_iff]

theorem number?_hundredths (digits : Nat) :
    (Settings.figure digits 2 : Value ℝ).number? = some ((digits / 100 : ℝ) : EReal) := by
  change some ((1 * ((digits : ℝ) * 10 ^ (-2 : ℤ)) : ℝ) : EReal) = _
  norm_num [div_eq_mul_inv]

theorem looksSteady_standard (payments : List (Transaction ℝ)) (p : Pattern ℝ) :
    (standard : Detector ℝ).looksSteady payments p =
      .ok (decide (variation payments < 15 / 100) && decide (75 / 100 < p.confidence)) := by
  have variance : (standard : Detector ℝ).maxVariance = Settings.figure 15 2 := rfl
  have confidence : (standard : Detector ℝ).minSubscriptionConfidence = Settings.figure 75 2 := rfl
  have even := isBelow_coe (v := .real (variation payments)) rfl (number?_hundredths 15)
  have sure := isBelow_coe (w := .real p.confidence) (number?_hundredths 75) rfl
  rw [Nat.cast_ofNat] at even sure
  rw [looksSteady, variance, even, ok_bind, confidence, sure]
  cases decide (variation payments < 15 / 100) <;> rfl

/-- Instants that recur, continued on the day that they foretell, recur in the same frequency, no
less surely where it matters, and foretell a later day. -/
theorem exists_verdict_concat {instants : List Int} (era : ∀ i ∈ instants, EraInstant i)
    (dates : ∀ i ∈ instants, 718685 ≤ Int.fdiv i microsPerDay ∧ Int.fdiv i microsPerDay < 804000)
    (ascending : instants.Pairwise (· ≤ ·)) (two : 2 ≤ instants.length) {p : Pattern ℝ}
    (hp : p.IsOf (.standard ((6 / 10 : ℝ) : EReal)) instants) (sure : 6 / 10 < p.confidence)
    (notDaily : p.frequency ≠ "daily") :
    ∃ next p', p.nextDate = .day next ∧ (∀ i ∈ instants, i < Cadence.midnight next) ∧
      (standard : Detector ℝ).verdict (instants ++ [Cadence.midnight next]) = .ok (some p') ∧
      p'.frequency = p.frequency ∧ (75 / 100 < p.confidence → 75 / 100 < p'.confidence) ∧
      ∃ next', p'.nextDate = .day next' ∧ next.days < next'.days := by
  obtain ⟨low, high, next, bounded, listed, nextDate, foretells⟩ := hp.exists_foretells two notDaily
  have window := Thresholds.windowOf?_standard listed (by exact_mod_cast foretells.within_concat.1)
    (by exact_mod_cast foretells.within_concat.2)
  rw [hp.confidence] at sure ⊢
  have surer : (6 / 10 : ℝ) < Cadence.timing (instants ++ [Cadence.midnight next]) :=
    foretells.lt_timing_concat (by norm_num) sure
  have era' : ∀ i ∈ instants ++ [Cadence.midnight next], EraInstant i :=
    List.forall_mem_append.mpr ⟨era, List.forall_mem_singleton.mpr (foretells.era bounded dates)⟩
  have long : 2 ≤ (instants ++ [Cadence.midnight next]).length := by
    rw [List.length_append]
    exact two.trans (Nat.le_add_right _ _)
  have enough : (Thresholds.standard ((6 / 10 : ℝ) : EReal)).minOccurrences ≤
      (((instants ++ [Cadence.midnight next]).length : ℝ) : EReal) :=
    EReal.coe_le_coe_iff.mpr (by exact_mod_cast long)
  obtain ⟨p', decided, hp'⟩ := exists_verdict RecurringPayments.standard_hasThresholds era'
    (foretells.ascending_concat ascending) long enough window
    (Thresholds.standard_bounded _ _ listed) ⟨_, rfl, EReal.coe_lt_coe_iff.mpr surer⟩
  have frequency : p'.frequency = p.frequency := by
    have named := hp'.frequency
    rw [window, Option.map_some, Option.some_inj] at named
    exact named.symm
  obtain ⟨low', high', next', -, -, nextDate', foretells'⟩ :=
    hp'.exists_foretells long (frequency ▸ notDaily)
  refine ⟨next, p', nextDate, foretells.later ascending, decided, frequency, fun surest => ?_,
    next', nextDate', foretells'.days_lt⟩
  rw [hp'.confidence]
  exact foretells.lt_timing_concat (by norm_num) surest

section

variable {payments : List (Transaction ℝ)} {t : Transaction ℝ} (nonempty : payments ≠ [])
  (size : |t.amountFigure| = mean (payments.map fun s => Scalar.abs s.amountFigure))
include nonempty size

theorem mean_sizes_concat : mean ((payments ++ [t]).map fun s => Scalar.abs s.amountFigure) =
    mean (payments.map fun s => Scalar.abs s.amountFigure) := by
  rw [List.map_append, List.map_singleton]
  change mean (_ ++ [|t.amountFigure|]) = _
  rw [size, Exact.mean_concat_self (List.map_eq_nil_iff.not.mpr nonempty)]

theorem variation_concat_le : variation (payments ++ [t]) ≤ variation payments := by
  rw [variation, mean_sizes_concat nonempty size, List.map_append, List.map_singleton]
  change relativeVariation (_ ++ [|t.amountFigure|]) _ ≤ _
  rw [size]
  exact Exact.relativeVariation_concat_le (List.map_eq_nil_iff.not.mpr nonempty)

end

theorem exists_report_concat {key : String} {payments : List (Transaction ℝ)}
    (readable : ∀ s ∈ payments, s.IsReadable)
    (ascending : payments.Pairwise fun s u => s.instant ≤ u.instant)
    (recur : (Thresholds.standard ((6 / 10 : ℝ) : EReal)).Recur payments) {g : RecurringGroup ℝ}
    (described : g.IsOf (.standard ((6 / 10 : ℝ) : EReal)) key payments)
    (reported : standard.report key payments = .ok (some g))
    (notDaily : g.pattern.frequency ≠ "daily") {t : Transaction ℝ}
    (due : t.date = g.pattern.nextDate) (size : |t.amountFigure| = g.averageAmount) :
    (∀ s ∈ payments, s.instant < t.instant) ∧
      ∃ g', standard.report key (payments ++ [t]) = .ok (some g') ∧ g'.Continues g := by
  have dates : ∀ i ∈ payments.map (·.instant),
      718685 ≤ Int.fdiv i microsPerDay ∧ Int.fdiv i microsPerDay < 804000 := by
    rw [List.forall_mem_map]
    exact fun s hs => (readable s hs).day_bounds
  have sorted : (payments.map (·.instant)).Pairwise (· ≤ ·) := by
    rwa [List.pairwise_map]
  have two : 2 ≤ (payments.map (·.instant)).length := by
    rw [List.length_map]
    exact recur.two
  have nonempty : payments ≠ [] := List.ne_nil_of_length_pos (Nat.two_pos.trans_le recur.two)
  have sure : 6 / 10 < g.pattern.confidence := by
    obtain ⟨c, hc, above⟩ := recur.sure
    rw [described.pattern.confidence]
    rw [← Option.some_inj.mp hc] at above
    exact EReal.coe_lt_coe_iff.mp above
  obtain ⟨next, p, nextDate, later, decided, frequency, surer, next', nextDate', after⟩ :=
    exists_verdict_concat (era_instants readable) dates sorted two described.pattern sure notDaily
  have instant : t.instant = Cadence.midnight next := by
    rw [Transaction.instant, due, nextDate]
    rfl
  have decided' : standard.verdict ((payments ++ [t]).map (·.instant)) = .ok (some p) := by
    rw [List.map_append, List.map_singleton, instant]
    exact decided
  rw [described.averageAmount] at size
  refine ⟨fun s hs => instant ▸ later _ (List.mem_map_of_mem hs),
    describe key (payments ++ [t]) p _, report_eq_some_iff.mpr
      ⟨decided', looksSteady_standard (payments ++ [t]) p, rfl⟩, ?_⟩
  obtain ⟨-, steady, -⟩ := report_eq_some_iff.mp reported
  rw [looksSteady_standard, Except.ok.injEq] at steady
  exact {
    merchantKey := described.merchantKey.symm
    frequency
    averageAmount := (mean_sizes_concat nonempty size).trans described.averageAmount.symm
    isSubscription := fun subscribed => by
      rw [subscribed, Bool.and_eq_true, decide_eq_true_iff, decide_eq_true_iff] at steady
      exact (Bool.and_eq_true _ _).mpr
        ⟨decide_eq_true ((variation_concat_le nonempty size).trans_lt steady.1),
          decide_eq_true (surer steady.2)⟩
    nextDate := ⟨next, next', nextDate, nextDate', after⟩ }

/-- Predictions confirm themselves. In exact arithmetic, under the standard configuration: let a
merchant be reported with a frequency other than daily. With one more payment of this merchant, on
the day foretold and of the average size, wherever the list has it, the merchant is reported again,
with the same frequency and average, still as a subscription if it was one, and a later day is
foretold. -/
theorem detect_predicted {d : Detector ℝ}
    (standard : Detector.ofSettings (Settings.none : Settings ℝ) = .ok d)
    {before after : List (Transaction ℝ)} (readable : ∀ s ∈ before ++ after, s.IsReadable)
    {groups : List (RecurringGroup ℝ)} (detected : d.detect (before ++ after) = .ok groups)
    {g : RecurringGroup ℝ} (hg : g ∈ groups) (notDaily : g.pattern.frequency ≠ "daily")
    {t : Transaction ℝ} (own : t.key = g.merchantKey) (due : t.date = g.pattern.nextDate) {x : ℝ}
    (amount : t.amount.scalar = .ok x) (size : |x| = g.averageAmount) :
    ∃ groups', d.detect (before ++ t :: after) = .ok groups' ∧ ∃ g' ∈ groups', g'.Continues g := by
  obtain rfl : Detector.standard = d := by
    rw [ofSettings_none] at standard
    exact Except.ok.inj standard
  obtain ⟨all, detected', report⟩ := exists_report RecurringPayments.standard_hasThresholds
    (Thresholds.standard_bounded _) readable
  obtain rfl : groups = all := Except.ok.inj (detected.symm.trans detected')
  have legible := Transaction.forall_isLegible readable
  obtain ⟨listed, reported⟩ := (mem_detect legible detected g).mp hg
  have figure : |t.amountFigure| = g.averageAmount := by
    rw [Transaction.amountFigure, amount]
    exact size
  obtain ⟨later, g', reported', continues⟩ := exists_report_concat
    (fun s hs => readable s (mem_timeline.mp hs).1) (timeline_isTimeline _ _).ascending
    ((report.reported _).mp ⟨g, hg, rfl⟩) (report.described g hg) reported notDaily due figure
  rw [← timeline_insert_of_later own later] at reported'
  obtain ⟨next, -, nextDate, -⟩ := continues.nextDate
  have legible' : ∀ s ∈ before ++ t :: after, s.IsLegible := by
    intro s hs
    rcases List.mem_cons.mp (List.perm_middle.mem_iff.mp hs) with rfl | old
    · refine ⟨?_, x, amount⟩
      rw [Transaction.instant, due, nextDate]
      rfl
    · exact legible s old
  obtain ⟨groups', done⟩ :
      ∃ groups', Detector.standard.detect (before ++ t :: after) = .ok groups' := by
    refine (exists_detect_iff legible').mpr fun key hkey => ?_
    by_cases same : t.key = key
    · obtain rfl : g.merchantKey = key := own.symm.trans same
      exact ⟨_, reported'⟩
    · rw [mem_merchants, ofMerchant_insert_of_ne same, ← mem_merchants] at hkey
      rw [timeline, ofMerchant_insert_of_ne same]
      exact (exists_detect_iff legible).mp ⟨groups, detected⟩ key hkey
  refine ⟨groups', done, g', (mem_detect legible' done g').mpr ?_, continues⟩
  rw [continues.merchantKey, merchants, List.mem_eraseDups, List.mem_map]
  exact ⟨⟨t, List.mem_append_right _ List.mem_cons_self, own⟩, reported'⟩

noncomputable def powerPayments : List (Transaction ℝ) :=
  [payment "Power" ⟨739616, by decide⟩ 60, payment "Gym" ⟨739630, by decide⟩ 30,
    payment "POWER" ⟨739646, by decide⟩ 60]

theorem readable_powerPayments : ∀ s ∈ powerPayments, s.IsReadable := by
  simp only [powerPayments, List.forall_mem_cons]
  refine ⟨payment_isReadable ?_ _ rfl, payment_isReadable ?_ _ rfl, payment_isReadable ?_ _ rfl,
    by simp⟩
  all_goals decide

theorem timeline_powerPayments : timeline powerPayments "power" =
    [payment "Power" ⟨739616, by decide⟩ 60, payment "POWER" ⟨739646, by decide⟩ 60] := by
  refine timeline_of_ascending (List.pairwise_pair.mpr ?_)
  decide

theorem gapFigures_powerPayments :
    (Cadence.gapFigures ((timeline powerPayments "power").map (·.instant)) : List ℝ) = [30] := by
  have gap : (Cadence.gapFigures ([Cadence.midnight ⟨739616, by decide⟩] ++
      [Cadence.midnight ⟨739646, by decide⟩]) : List ℝ) =
        Cadence.gapFigures [Cadence.midnight ⟨739616, by decide⟩] ++ [((30 : Nat) : ℝ)] :=
    Cadence.gapFigures_concat rfl (by decide) (by decide)
  rw [timeline_powerPayments]
  refine gap.trans ?_
  norm_num [Cadence.gapFigures, Cadence.dayGaps]

theorem meanGap_powerPayments :
    (Cadence.meanGap ((timeline powerPayments "power").map (·.instant)) : ℝ) = 30 := by
  rw [Cadence.meanGap, gapFigures_powerPayments, Exact.mean_eq]
  norm_num

theorem timing_powerPayments :
    (Cadence.timing ((timeline powerPayments "power").map (·.instant)) : ℝ) = 1 := by
  have even : deviation ([30] : List ℝ) = 0 := by
    rw [Exact.deviation_eq, Exact.mean_eq]
    norm_num
  rw [Cadence.timing, meanGap_powerPayments, gapFigures_powerPayments, even,
    Exact.confidence_eq (by norm_num) le_rfl]
  norm_num

theorem windowOf?_powerPayments (c : EReal) : (Thresholds.standard c).windowOf?
    (Cadence.meanGap ((timeline powerPayments "power").map (·.instant)) : ℝ) =
      some (.ofDays "monthly" 28 32) := by
  rw [meanGap_powerPayments]
  exact Thresholds.windowOf?_standard (by simp [Thresholds.standard]) (by norm_num) (by norm_num)

theorem recur_powerPayments :
    (Thresholds.standard ((6 / 10 : ℝ) : EReal)).Recur (timeline powerPayments "power") := by
  refine ⟨?_, ?_, Thresholds.exists_holds_iff.mpr ⟨_, windowOf?_powerPayments _⟩, _, rfl, ?_⟩
  · rw [timeline_powerPayments]
    decide
  · rw [timeline_powerPayments]
    exact le_rfl
  · rw [timing_powerPayments]
    exact EReal.coe_lt_coe_iff.mpr (by norm_num)

theorem nextDate_powerPayments {p : Pattern ℝ} {h : Thresholds}
    (hp : p.IsOf h ((timeline powerPayments "power").map (·.instant))) :
    p.nextDate = .day ⟨739676, by decide⟩ := by
  obtain ⟨last, n, day, next, ends, onDay, rounded, days, nextDate, -⟩ := hp.dates
  rw [meanGap_powerPayments, Cadence.roundHalfUp?_eq, Option.some_inj] at rounded
  have thirty : n = 30 := by
    rw [← rounded, Int.floor_eq_iff]
    norm_num
  have latest : last = Cadence.midnight ⟨739646, by decide⟩ := by
    rw [timeline_powerPayments] at ends
    exact (Option.some.inj ends).symm
  rw [latest, Cadence.midnight_eq, Int.mul_fdiv_cancel _ (by decide)] at onDay
  rw [onDay, thirty] at days
  have same : next.days = 739676 := by exact_mod_cast days
  rw [nextDate, When.day.injEq]
  obtain ⟨count, inside⟩ := next
  subst same
  rfl

theorem average_powerPayments :
    mean ((timeline powerPayments "power").map fun s => Scalar.abs s.amountFigure) = 60 := by
  have figure (merchant : String) (d : Date) :
      Scalar.abs (payment merchant d 60 : Transaction ℝ).amountFigure = |((60 : Int) : ℝ)| := rfl
  rw [timeline_powerPayments, List.map_cons, List.map_singleton, figure, figure, Exact.mean_eq]
  norm_num

theorem detect_predicted_powerPayments :
    ∃ groups groups', standard.detect powerPayments = .ok groups ∧
      standard.detect (payment "power" ⟨739676, by decide⟩ 60 :: powerPayments) = .ok groups' ∧
      ∃ g ∈ groups, g.merchantKey = "power" ∧ ∃ g' ∈ groups', g'.Continues g := by
  obtain ⟨groups, detected, report⟩ := exists_report RecurringPayments.standard_hasThresholds
    (Thresholds.standard_bounded _) readable_powerPayments
  obtain ⟨g, hg, key⟩ := (report.reported "power").mpr recur_powerPayments
  have described := report.described g hg
  rw [key] at described
  have monthly : g.pattern.frequency ≠ "daily" := by
    have named := described.pattern.frequency
    rw [windowOf?_powerPayments, Option.map_some, Option.some_inj] at named
    rw [← named]
    decide
  have own : (payment "power" ⟨739676, by decide⟩ 60 : Transaction ℝ).key = g.merchantKey := by
    rw [key]
    decide +kernel
  have due := nextDate_powerPayments described.pattern
  have size : |((60 : Int) : ℝ)| = g.averageAmount := by
    rw [described.averageAmount, average_powerPayments]
    norm_num
  obtain ⟨groups', detected', again⟩ := @detect_predicted _ ofSettings_none [] _
    readable_powerPayments _ detected _ hg monthly _ own due.symm _ rfl size
  exact ⟨groups, groups', detected, detected', g, hg, key, again⟩

end Detector

end RecurringPayments
