import RecurringPayments.Proofs.Detection.Span
import RecurringPayments.Proofs.Number.Quotient

/-!
Gaps between dates of any year. Differences in time are counted in a word that comes round after
some 584 years, so of a long gap only its distance to the nearest multiple of these is left. Up to
half as many the gaps are the days between the dates, and the true mean of a reported merchant's
gaps lies in a window; beyond, centuries can pass for a month.
-/
namespace RecurringPayments

open LawfulScalar Result

namespace Cadence

/-! ### Distances in the word -/

def wordDays : ℚ := UInt64.size / nanosPerDay

/-- What is counted of a distance in days: that to the nearest multiple of what the word holds, a
part of a day in full. -/
def foldedDays (days : Nat) : Nat := ⌈|(days : ℚ) - round (days / wordDays) * wordDays|⌉₊

def longestGap : Nat := 106752

theorem inWord_eq_sub_round (n : Int) :
    inWord n = n - round ((n : ℚ) / UInt64.size) * UInt64.size := by
  have nearest : round ((n : ℚ) / UInt64.size) =
      (2 * n + UInt64.size) / (2 * UInt64.size : Nat) := by
    rw [round_eq, ← Rat.floor_intCast_div_natCast]
    congr 1
    rw [UInt64.size]
    push_cast
    ring
  rw [nearest, inWord, Int.bmod_def, UInt64.size]
  omega

theorem wordDays_eq : wordDays = 18446744073709551616 / 86400000000000 := by
  norm_num [wordDays, UInt64.size, nanosPerDay]

theorem gapDays_midnight {a b : Date} (later : a.days ≤ b.days) :
    gapDays (midnight a) (midnight b) = foldedDays (b.days - a.days) := by
  have perDay : (0 : ℚ) < nanosPerDay := by norm_num [nanosPerDay]
  have distance : (midnight b - midnight a) * 1000 =
      ((b.days - a.days : Nat) : Int) * nanosPerDay := by
    rw [midnight_eq, midnight_eq, microsPerDay, nanosPerDay]
    omega
  have turns : ((((b.days - a.days : Nat) : Int) * nanosPerDay : Int) : ℚ) / UInt64.size =
      (b.days - a.days : Nat) / wordDays := by
    rw [wordDays, div_div_eq_mul_div]
    push_cast
    rfl
  rw [gapDays, distance, inWord_eq_sub_round, turns, ← ceil_eq _ nanosPerDay (by decide),
    foldedDays, Nat.cast_natAbs, Int.cast_abs, ← abs_of_pos perDay, ← abs_div]
  congr 2
  rw [wordDays]
  push_cast
  field_simp

theorem foldedDays_le (days : Nat) : foldedDays days ≤ longestGap := by
  have positive : (0 : ℚ) < wordDays := by norm_num [wordDays_eq]
  have part := abs_sub_round ((days : ℚ) / wordDays)
  rw [foldedDays, Nat.ceil_le]
  calc |(days : ℚ) - round (days / wordDays) * wordDays|
      = |days / wordDays - round (days / wordDays)| * wordDays := by
        rw [← abs_of_pos positive, ← abs_mul, abs_of_pos positive, sub_mul,
          div_mul_cancel₀ _ positive.ne']
    _ ≤ 1 / 2 * wordDays := by gcongr
    _ ≤ longestGap := by norm_num [wordDays_eq, longestGap]

/-- Half the word is no whole number of days, but the part of a day that is missing at the longest
gap is counted in full. -/
theorem foldedDays_eq_self_iff (days : Nat) : foldedDays days = days ↔ days ≤ longestGap := by
  refine ⟨fun same => same ▸ foldedDays_le days, fun short => ?_⟩
  have positive : (0 : ℚ) < wordDays := by norm_num [wordDays_eq]
  rcases short.lt_or_eq with less | rfl
  · have nearest : round ((days : ℚ) / wordDays) = 0 := by
      have bound : (days : ℚ) ≤ 106751 := by exact_mod_cast Nat.le_of_lt_succ less
      rw [round_eq_zero_iff, Set.mem_Ico, div_lt_iff₀ positive]
      refine ⟨le_trans (by norm_num) (by positivity : (0 : ℚ) ≤ days / wordDays), ?_⟩
      norm_num [wordDays_eq]
      linarith
    rw [foldedDays, nearest, Int.cast_zero, zero_mul, sub_zero, Nat.abs_cast, Nat.ceil_natCast]
  · have nearest : round (((longestGap : Nat) : ℚ) / wordDays) = 1 := by
      rw [round_eq, Int.floor_eq_iff]
      norm_num [wordDays_eq, longestGap]
    rw [foldedDays, nearest, Nat.ceil_eq_iff (by decide)]
    norm_num [wordDays_eq, longestGap, abs_of_neg]

/-! ### The gaps of dates -/

def daysBetween : List Date → List Nat
  | a :: b :: rest => (b.days - a.days) :: daysBetween (b :: rest)
  | _ => []

theorem length_daysBetween (dates : List Date) : (daysBetween dates).length = dates.length - 1 := by
  induction dates with
  | nil => rfl
  | cons a rest ih =>
    cases rest with
    | nil => rfl
    | cons b rest =>
      rw [daysBetween, List.length_cons, ih]
      rfl

section

variable {dates : List Date} (ascending : dates.Pairwise fun a b => a.days ≤ b.days)
include ascending

theorem sum_daysBetween_lt : (daysBetween dates).sum < calendarDays := by
  cases dates with
  | nil => decide
  | cons first rest =>
    suffices h : first.days + (daysBetween (first :: rest)).sum < calendarDays by omega
    induction rest generalizing first with
    | nil => exact first.inCalendar
    | cons next rest ih =>
      rw [List.pairwise_cons] at ascending
      have later := ascending.1 next List.mem_cons_self
      have tail := ih next ascending.2
      rw [daysBetween, List.sum_cons]
      omega

theorem pairwise_midnight_of_ascending : (dates.map midnight).Pairwise (· ≤ ·) := by
  rw [List.pairwise_map]
  exact ascending.imp midnight_le_iff.mpr

theorem gaps_midnight {α : Type} [Scalar α] : (gaps ((dates.map midnight).map some) : List α) =
    (daysBetween dates).map fun n => Scalar.ofInt (foldedDays n) := by
  induction dates with
  | nil => rfl
  | cons a rest ih =>
    cases rest with
    | nil => rfl
    | cons b rest =>
      rw [List.pairwise_cons] at ascending
      have tail := ih ascending.2
      rw [List.map_cons, List.map_cons] at tail
      rw [List.map_cons, List.map_cons, List.map_cons, List.map_cons, gaps, tail, gap,
        gapDays_midnight (ascending.1 b List.mem_cons_self), daysBetween, List.map_cons]

theorem gaps_midnight_eq_iff : (gaps ((dates.map midnight).map some) : List Float) =
    (daysBetween dates).map (fun n : Nat => Scalar.ofInt n) ↔
      ∀ n ∈ daysBetween dates, n ≤ longestGap := by
  have total := sum_daysBetween_lt ascending
  have calendar : calendarDays = 3652059 := rfl
  have longest : longestGap = 106752 := rfl
  rw [gaps_midnight ascending, List.map_inj_left]
  refine forall₂_congr fun n hn => ?_
  rw [← foldedDays_eq_self_iff]
  refine ⟨fun same => ?_, fun same => by rw [same]⟩
  have bound := List.single_le_sum (fun _ _ => Nat.zero_le _) n hn
  have bound' := foldedDays_le n
  have value := Binary64.value?_ofInt (n := foldedDays n) (by omega)
  rw [same, Binary64.value?_ofInt (by omega), Option.some_inj, EReal.coe_eq_coe_iff] at value
  exact (Nat.cast_injective value).symm

end

def meanDays (α : Type) [Scalar α] (dates : List Date) : α :=
  mean ((daysBetween dates).map fun n : Nat => Scalar.ofInt n)

theorem meanDays_real (dates : List Date) :
    meanDays ℝ dates = (daysBetween dates).sum / (daysBetween dates).length := by
  have figures : ((daysBetween dates).map fun n : Nat => Scalar.ofInt n : List ℝ) =
      (daysBetween dates).map fun n : Nat => (n : ℝ) := rfl
  rw [meanDays, figures, Exact.mean_eq, List.length_map, Nat.cast_list_sum]

end Cadence

/-! ### Windows between whole numbers of days -/

open Cadence

theorem Window.holds_meanDays {dates : List Date} (two : 2 ≤ dates.length)
    (few : dates.length ≤ 2 ^ 52) (ascending : dates.Pairwise fun a b => a.days ≤ b.days)
    {name : String} {low high : Int} (holds : (ofDays name low high).Holds (meanDays Float dates)) :
    (ofDays name low high).Holds (meanDays ℝ dates) := by
  obtain ⟨v, hv, least, most⟩ := holds
  have count := length_daysBetween dates
  have nonempty : daysBetween dates ≠ [] := by
    rw [← List.length_pos_iff]
    omega
  have small : (daysBetween dates).sum < 2 ^ 22 :=
    (sum_daysBetween_lt ascending).trans (by decide)
  have sides := mean_sides nonempty (by omega) small hv
  rw [holds_iff, meanDays_real]
  exact ⟨EReal.coe_le_coe_iff.mpr ((sides low).1 least),
    EReal.coe_le_coe_iff.mpr ((sides high).2 most)⟩

/-! ### Reported merchants -/

namespace Detector

theorem classify_foldedGaps {α : Type} [Scalar α] {d : Detector α} {ts : List (Transaction α)}
    {groups : List (RecurringGroup α)} (detected : d.detect ts = .ok groups) {g : RecurringGroup α}
    (hg : g ∈ groups) {dates : List Date} (ascending : dates.Pairwise fun a b => a.days ≤ b.days)
    (charged : ((ofMerchant ts g.merchantKey).map (·.date)).Perm (dates.map When.day)) :
    2 ≤ dates.length ∧
      d.classify (mean ((daysBetween dates).map fun n => Scalar.ofInt (foldedDays n))) =
        .ok (some g.pattern.frequency) := by
  have dated : ∀ t ∈ ofMerchant ts g.merchantKey, t.date.instant? = some t.instant := by
    intro t ht
    obtain ⟨day, -, plain⟩ := List.mem_map.mp (charged.mem_iff.mp (List.mem_map_of_mem ht))
    exact Transaction.instant?_of_plain plain.symm
  have found := inferPattern_timeline detected hg dated
  rw [instants_timeline_of_ascending (pairwise_midnight_of_ascending ascending) charged] at found
  have classified := classify_of_inferPattern found
  have some := (of_inferPattern found).1
  rw [gaps_midnight ascending] at classified some
  have count := length_daysBetween dates
  rw [ne_eq, List.map_eq_nil_iff, ← ne_eq, ← List.length_pos_iff] at some
  exact ⟨by omega, classified⟩

theorem exists_window_of_classify {α : Type} [Scalar α] [LawfulScalar α] {d : Detector α}
    {windows : List Window} {entries : List (Value α × Value α)}
    (configured : d.windows = .mapping entries)
    (numeric : List.Forall₂ Window.IsReadFrom windows entries) {x : α} {frequency : String}
    (classified : d.classify x = .ok (some frequency)) :
    ∃ w ∈ windows, w.name = frequency ∧ w.Holds x := by
  rw [classify, configured, Settings.entriesOf, ok_bind, firstWindow?_eq numeric, Except.ok.injEq,
    Option.map_eq_some_iff] at classified
  obtain ⟨w, first, named⟩ := classified
  exact ⟨w, List.mem_of_find?_eq_some first, named, by simpa using List.find?_some first⟩

/-- In floating point, under whatever numeric windows, for dates of any years in ascending order:
the gaps counted are the days between the dates, folded into the word, and they are these days
exactly if no neighbours lie further apart than the longest gap. A merchant that pays on such
dates is reported only if a window holds the mean of the folded gaps. If none is folded, that is
the mean of the days; and a window between whole numbers of days holds it before it is rounded,
too, for as many payments as are counted exactly. -/
theorem reports_foldedGaps {d : Detector Float} {windows : List Window}
    {entries : List (Value Float × Value Float)} (configured : d.windows = .mapping entries)
    (numeric : List.Forall₂ Window.IsReadFrom windows entries) {dates : List Date}
    (ascending : dates.Pairwise fun a b => a.days ≤ b.days) :
    (gaps ((dates.map midnight).map some) : List Float) =
        (daysBetween dates).map (fun n => Scalar.ofInt (foldedDays n)) ∧
      ((gaps ((dates.map midnight).map some) : List Float) =
          (daysBetween dates).map (fun n : Nat => Scalar.ofInt n) ↔
        ∀ n ∈ daysBetween dates, n ≤ longestGap) ∧
      ∀ (ts : List (Transaction Float)) (groups : List (RecurringGroup Float)),
        d.detect ts = .ok groups → ∀ g ∈ groups,
        ((ofMerchant ts g.merchantKey).map (·.date)).Perm (dates.map When.day) →
        ∃ w ∈ windows, w.name = g.pattern.frequency ∧
          w.Holds (mean ((daysBetween dates).map fun n => Scalar.ofInt (foldedDays n)) : Float) ∧
          ((∀ n ∈ daysBetween dates, n ≤ longestGap) →
            w.Holds (meanDays Float dates) ∧
            (dates.length ≤ 2 ^ 52 → (∃ low high : Int, w = .ofDays w.name low high) →
              w.Holds (meanDays ℝ dates))) := by
  refine ⟨gaps_midnight ascending, gaps_midnight_eq_iff ascending,
    fun ts groups detected g hg charged => ?_⟩
  obtain ⟨two, classified⟩ := classify_foldedGaps detected hg ascending charged
  obtain ⟨w, hw, named, holds⟩ := exists_window_of_classify configured numeric classified
  refine ⟨w, hw, named, holds, fun short => ?_⟩
  have exact : w.Holds (meanDays Float dates) := by
    rwa [← gaps_midnight ascending, (gaps_midnight_eq_iff ascending).mpr short] at holds
  refine ⟨exact, fun few ⟨low, high, whole⟩ => ?_⟩
  rw [whole] at exact ⊢
  exact Window.holds_meanDays two few ascending exact

theorem reports_foldedGaps_monthlyPayments :
    ∃ groups, (standard : Detector Float).detect monthlyPayments = .ok groups ∧
      ∃ g ∈ groups, g.merchantKey = "netflix" ∧
        ∃ w ∈ (Thresholds.standard 0).windows, w.name = g.pattern.frequency ∧
          w.Holds (meanDays ℝ [⟨738156, by decide⟩, ⟨738186, by decide⟩, ⟨738216, by decide⟩]) := by
  obtain ⟨c, hd⟩ := floatStandard_hasThresholds
  obtain ⟨groups, detected, -⟩ :=
    exists_report hd (Thresholds.standard_bounded _) readable_monthlyPayments
  obtain ⟨g, hg, key⟩ := exists_group_monthlyPayments detected
  obtain ⟨entries, configured, numeric⟩ := hd.windows
  have charged : ((ofMerchant monthlyPayments g.merchantKey).map (·.date)).Perm
      ([⟨738156, by decide⟩, ⟨738186, by decide⟩, ⟨738216, by decide⟩].map When.day) := by
    rw [key]
    exact .refl _
  have ascending : [⟨738156, by decide⟩, ⟨738186, by decide⟩, ⟨738216, by decide⟩].Pairwise
      fun a b : Date => a.days ≤ b.days := by decide
  obtain ⟨-, -, reported⟩ := reports_foldedGaps configured numeric ascending
  obtain ⟨w, hw, named, -, unfolded⟩ := reported _ groups detected g hg charged
  have whole : ∃ low high : Int, w = .ofDays w.name low high := by
    simp only [Thresholds.standard, List.mem_cons, List.not_mem_nil, or_false] at hw
    rcases hw with rfl | rfl | rfl | rfl | rfl | rfl
    all_goals exact ⟨_, _, rfl⟩
  exact ⟨groups, detected, g, hg, key, w, hw, named,
    (unfolded (by decide)).2 (by decide) whole⟩

def centuriesApart : List Date := [⟨584022, by decide⟩, ⟨797555, by decide⟩]

theorem gaps_centuriesApart :
    (gaps ((centuriesApart.map midnight).map some) : List Float) = [Scalar.ofInt 30] ∧
      daysBetween centuriesApart = [213533] := by
  have gap : gapDays 50459500800000000 68908752000000000 = 30 := rfl
  refine ⟨?_, rfl⟩
  change [Scalar.ofInt (gapDays 50459500800000000 68908752000000000)] = _
  rw [gap]
  rfl

theorem not_holds_centuriesApart :
    ∀ w ∈ (Thresholds.standard 0).windows, ¬ w.Holds (meanDays ℝ centuriesApart) := by
  have days : meanDays ℝ centuriesApart = 213533 := by
    rw [meanDays_real, gaps_centuriesApart.2]
    norm_num
  have beyond (name : String) (low high : Int) (h : high < 213533) :
      ¬ (Window.ofDays name low high).Holds (meanDays ℝ centuriesApart) := by
    rw [Window.holds_iff, days]
    exact fun holds => absurd (EReal.coe_le_coe_iff.mp holds.2) (not_le.mpr (by exact_mod_cast h))
  simp only [Thresholds.standard, List.forall_mem_cons]
  refine ⟨beyond _ _ _ ?_, beyond _ _ _ ?_, beyond _ _ _ ?_, beyond _ _ _ ?_, beyond _ _ _ ?_,
    beyond _ _ _ ?_, by simp⟩
  all_goals decide

theorem exists_mem_detect_of_report {α : Type} [Scalar α] {d : Detector α}
    {ts : List (Transaction α)}
    (legible : ∀ t ∈ ts, t.IsLegible) {key : String} (only : merchants ts = [key])
    {g : RecurringGroup α} (reported : d.report key (timeline ts key) = .ok (some g)) :
    ∃ groups, d.detect ts = .ok groups ∧ g ∈ groups ∧ g.merchantKey = key := by
  have named : g.merchantKey = key := by
    rw [(report_eq_some_iff.mp reported).2.2, describe]
  have each : ∀ k ∈ merchants ts, ∃ found, d.report k (timeline ts k) = .ok found := by
    intro k hk
    rw [only, List.mem_singleton] at hk
    exact ⟨_, hk ▸ reported⟩
  obtain ⟨groups, detected⟩ := (exists_detect_iff legible).mpr each
  refine ⟨groups, detected, (mem_detect legible detected g).mpr ?_, named⟩
  rw [named, only]
  exact ⟨List.mem_singleton_self _, reported⟩

def centuryPayments : List (Transaction Float) :=
  centuriesApart.map fun day => payment "Netflix" day 16

theorem report_centuryPayments :
    ∃ g, (standard : Detector Float).report "netflix" (timeline centuryPayments "netflix") =
      .ok (some g) ∧ g.pattern.frequency = "monthly" := by
  have ordered : timeline centuryPayments "netflix" = ofMerchant centuryPayments "netflix" :=
    timeline_of_ascending (by decide +kernel)
  have monthly : ((standard.report "netflix"
      (ofMerchant centuryPayments "netflix")).toOption.join.map
      (·.pattern.frequency)) = some "monthly" := by decide +kernel
  rw [ordered]
  obtain ⟨g, found, named⟩ := Option.map_eq_some_iff.mp monthly
  refine ⟨g, ?_, named⟩
  cases reported : standard.report "netflix" (ofMerchant centuryPayments "netflix") with
  | error fault =>
    rw [reported] at found
    cases found
  | ok group =>
    rw [reported] at found
    exact congrArg Except.ok found

theorem reports_centuryPayments :
    (∃ groups, (standard : Detector Float).detect centuryPayments = .ok groups ∧
      ∃ g ∈ groups, g.merchantKey = "netflix" ∧ g.pattern.frequency = "monthly") ∧
    (gaps ((centuriesApart.map midnight).map some) : List Float) = [Scalar.ofInt 30] ∧
    daysBetween centuriesApart = [213533] ∧
    ∀ w ∈ (Thresholds.standard 0).windows, ¬ w.Holds (meanDays ℝ centuriesApart) := by
  have legible : ∀ t ∈ centuryPayments, t.IsLegible := by
    rw [centuryPayments, List.forall_mem_map]
    exact fun day _ => payment_isLegible day _ rfl
  obtain ⟨g, reported, monthly⟩ := report_centuryPayments
  obtain ⟨groups, detected, hg, key⟩ :=
    exists_mem_detect_of_report legible (by decide +kernel) reported
  exact ⟨⟨groups, detected, g, hg, key, monthly⟩, gaps_centuriesApart.1, gaps_centuriesApart.2,
    not_holds_centuriesApart⟩

end Detector

end RecurringPayments
