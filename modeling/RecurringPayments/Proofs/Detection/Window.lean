import RecurringPayments.Detection.Detect
import RecurringPayments.Proofs.Detection.Timeline
import RecurringPayments.Proofs.Value.Numeric

/-!
The cadence of ascending instants under numeric thresholds: the first window that holds the mean
gap names the frequency, and a mean gap held by a window of at most 20000 days leads to a next date
inside the calendar.
-/
namespace RecurringPayments

open LawfulScalar Result

variable {α : Type} [Scalar α] [LawfulScalar α]

/-! ### Thresholds as numbers -/

structure Window where
  name : String
  low : EReal
  high : EReal

/-- Both ends are included. An undefined figure lies in no window. -/
def Window.Holds (w : Window) (x : α) : Prop := ∃ m, value? x = some m ∧ w.low ≤ m ∧ m ≤ w.high

noncomputable instance (w : Window) (x : α) : Decidable (w.Holds x) := Classical.dec _

structure Window.IsReadFrom (w : Window) (entry : Value α × Value α) : Prop where
  name : entry.1.plain = w.name
  low : ∃ v, Settings.entryOf entry.2 "min_gap_days" = .ok v ∧ v.number? = some w.low
  high : ∃ v, Settings.entryOf entry.2 "max_gap_days" = .ok v ∧ v.number? = some w.high

structure Thresholds where
  minOccurrences : EReal
  minConfidence : EReal
  windows : List Window

noncomputable def Thresholds.windowOf? (h : Thresholds) (x : α) : Option Window :=
  h.windows.find? fun w => decide (w.Holds x)

theorem Thresholds.windowOf?_eq_some {h : Thresholds} {x : α} {w : Window}
    (hw : h.windowOf? x = some w) : w ∈ h.windows ∧ w.Holds x := by
  rw [windowOf?] at hw
  exact ⟨List.mem_of_find?_eq_some hw, by simpa using List.find?_some hw⟩

theorem Thresholds.exists_holds_iff {h : Thresholds} {x : α} :
    (∃ w ∈ h.windows, w.Holds x) ↔ ∃ w, h.windowOf? x = some w := by
  rw [← Option.isSome_iff_exists, windowOf?, List.find?_isSome]
  simp only [decide_eq_true_iff]

/-- The detector's thresholds are numeric, and these are their numbers. -/
structure Detector.HasThresholds (d : Detector α) (h : Thresholds) : Prop where
  minOccurrences : d.minOccurrences.number? = some h.minOccurrences
  minConfidence : d.minConfidence.number? = some h.minConfidence
  maxVariance : d.maxVariance.isOrdered = true
  minSubscriptionConfidence : d.minSubscriptionConfidence.isOrdered = true
  windows : ∃ entries, d.windows = .mapping entries ∧
    List.Forall₂ Window.IsReadFrom h.windows entries

namespace Detector

theorem isReadFrom_spec {w : Window} {entry : Value α × Value α} (h : w.IsReadFrom entry) (x : α) :
    ∃ low high a b, Settings.entryOf entry.2 "min_gap_days" = .ok low ∧
      low.isAtMost (.real x) = .ok a ∧ Settings.entryOf entry.2 "max_gap_days" = .ok high ∧
      (Value.real x).isAtMost high = .ok b ∧ (a && b) = decide (w.Holds x) := by
  obtain ⟨low, lowEntry, lowNumber⟩ := h.low
  obtain ⟨high, highEntry, highNumber⟩ := h.high
  cases hx : value? x with
  | none =>
    have ordered : ((Value.real x).isOrdered && high.isOrdered) = true := by
      rw [Value.isOrdered_of_number highNumber]
      rfl
    have above : (Value.real x).isAtMost high = .ok false := by
      rw [Value.isAtMost, Value.compare, if_pos ordered, Value.order?_real_left highNumber, hx]
      rfl
    refine ⟨low, high, _, _, lowEntry, Value.isAtMost_undefined_right lowNumber hx,
      highEntry, above, ?_⟩
    rw [Bool.and_self, eq_comm, decide_eq_false_iff_not]
    rintro ⟨m, hm, -⟩
    rw [hx] at hm
    cases hm
  | some m =>
    have figure : (Value.real x).number? = some m := hx
    refine ⟨low, high, _, _, lowEntry, Value.isAtMost_number lowNumber figure, highEntry,
      Value.isAtMost_number figure highNumber, ?_⟩
    rw [← Bool.decide_and, decide_eq_decide]
    constructor
    · rintro ⟨below, above⟩
      exact ⟨m, hx, below, above⟩
    · rintro ⟨n, hn, below, above⟩
      rw [hx, Option.some_inj] at hn
      subst hn
      exact ⟨below, above⟩

theorem firstWindow?_eq {entries : List (Value α × Value α)} {windows : List Window}
    (h : List.Forall₂ Window.IsReadFrom windows entries) (x : α) :
    firstWindow? x entries =
      .ok ((windows.find? fun w => decide (w.Holds x)).map (·.name)) := by
  induction h with
  | nil => rfl
  | @cons w entry windows entries first rest ih =>
    obtain ⟨low, high, a, b, lowEntry, atLeast, highEntry, atMost, both⟩ := isReadFrom_spec first x
    rw [firstWindow?, lowEntry, ok_bind, atLeast, ok_bind, List.find?_cons, ← both]
    cases a with
    | false => exact ih
    | true =>
      rw [if_pos rfl, highEntry, ok_bind, atMost, ok_bind, Bool.true_and]
      cases b with
      | false => exact ih
      | true =>
        rw [if_pos rfl, first.name]
        rfl

theorem classify_eq {d : Detector α} {h : Thresholds} (hd : d.HasThresholds h) (x : α) :
    d.classify x = .ok ((h.windowOf? x).map (·.name)) := by
  obtain ⟨entries, windows, read⟩ := hd.windows
  rw [classify, windows, Settings.entriesOf, ok_bind, firstWindow?_eq read]
  rfl

end Detector

/-! ### The mean gap -/

namespace Cadence

def gapFigures (instants : List Int) : List α :=
  (dayGaps instants).map fun n : Nat => Scalar.ofInt n

omit [LawfulScalar α] in
theorem gapFigures_eq_nil_iff {instants : List Int} :
    (gapFigures instants : List α) = [] ↔ instants.length < 2 := by
  rw [gapFigures, List.map_eq_nil_iff, ← List.length_eq_zero_iff, dayGaps_length]
  omega

omit [LawfulScalar α] in
theorem gapFigures_ne_nil {instants : List Int} (two : 2 ≤ instants.length) :
    (gapFigures instants : List α) ≠ [] := by
  rw [ne_eq, gapFigures_eq_nil_iff]
  exact not_lt.mpr two

def meanGap (instants : List Int) : α := mean (gapFigures instants)

def timing (instants : List Int) : α :=
  confidence (meanGap instants) (deviation (gapFigures instants))

theorem isNegative_mean {xs : List α} (h : ∀ x ∈ xs, Scalar.isNegative x = false) :
    Scalar.isNegative (mean xs) = false := by
  have sum : Scalar.isNegative (laneSum xs) = false :=
    laneSum_induction (isNegative_ofInt 0) (fun _ _ => isNegative_add) xs h
  exact isNegative_div sum (isNegative_ofInt xs.length)

theorem isNegative_meanGap (instants : List Int) :
    Scalar.isNegative (meanGap instants : α) = false := by
  refine isNegative_mean fun x hx => ?_
  obtain ⟨n, -, rfl⟩ := List.mem_map.mp hx
  exact isNegative_ofInt n

theorem value?_confidence (m deviation : α) :
    ∃ a, value? (confidence m deviation) = some a ∧ 0 ≤ a ∧ a ≤ 1 := by
  rw [confidence]
  split
  · exact ⟨_, value?_zero, le_rfl, by norm_num⟩
  · exact Scalar.value?_clamped _

theorem value?_timing (instants : List Int) :
    ∃ c, value? (timing instants : α) = some c ∧ 0 ≤ c ∧ c ≤ 1 :=
  value?_confidence _ _

theorem roundHalfUp?_between {x : α} {r : ℝ} (hx : value? x = some (r : EReal)) {low high : Nat}
    (hl : (low : ℝ) ≤ r) (hh : r ≤ high) (small : 2 * high + 1 ≤ 2 ^ 53) :
    ∃ n : Int, roundHalfUp? x = some n ∧ (low : ℤ) ≤ n ∧ n ≤ high := by
  have nonneg : (0 : ℝ) ≤ r := (Nat.cast_nonneg low).trans hl
  obtain ⟨v, hv, faithful⟩ := add_faithful hx value?_half nonneg (by norm_num)
  have lowHigh : low ≤ high := by exact_mod_cast hl.trans hh
  obtain ⟨y, hy⟩ := exists_half (α := α) (2 * low + 1) (by omega)
  obtain ⟨z, hz⟩ := exists_half (α := α) (2 * high + 1) small
  have below := (faithful _ ⟨y, hy⟩).2 (EReal.coe_le_coe_iff.mpr (by push_cast; linarith))
  have above := (faithful _ ⟨z, hz⟩).1 (EReal.coe_le_coe_iff.mpr (by push_cast; linarith))
  lift v to ℝ using ⟨(above.trans_lt (EReal.coe_lt_top _)).ne,
    ((EReal.bot_lt_coe _).trans_le below).ne'⟩
  rw [EReal.coe_le_coe_iff] at below above
  push_cast at below above
  refine ⟨⌊v⌋, floor?_eq hv, ?_, ?_⟩
  · rw [Int.le_floor]
    push_cast
    linarith
  · have : ⌊v⌋ < (high : ℤ) + 1 := by
      rw [Int.floor_lt]
      push_cast
      linarith
    omega

theorem roundHalfUp?_meanGap {instants : List Int} {w : Window}
    (holds : w.Holds (meanGap instants : α))
    (bounded : w.high ≤ 20000) :
    ∃ n : Int, roundHalfUp? (meanGap instants : α) = some n ∧ 0 ≤ n ∧ n ≤ 20000 := by
  obtain ⟨m, hm, -, high⟩ := holds
  have nonneg : 0 ≤ m := nonneg (isNegative_meanGap instants) hm
  have most : m ≤ ((20000 : ℝ) : EReal) := high.trans bounded
  lift m to ℝ using ⟨(most.trans_lt (EReal.coe_lt_top _)).ne,
    (EReal.bot_lt_zero.trans_le nonneg).ne'⟩
  rw [EReal.coe_nonneg] at nonneg
  rw [EReal.coe_le_coe_iff] at most
  have between := @roundHalfUp?_between _ _ _ _ _ hm 0 20000 (by simpa using nonneg)
    (by simpa using most) (by norm_num)
  exact_mod_cast between

end Cadence

/-! ### The pattern -/

/-- The pattern that the mean gap of ascending instants leads to. -/
structure Pattern.IsOf (p : Pattern α) (h : Thresholds) (instants : List Int) : Prop where
  frequency : (h.windowOf? (Cadence.meanGap instants : α)).map (·.name) = some p.frequency
  interval : p.interval = 1
  confidence : p.confidence = Cadence.timing instants
  dates : ∃ (last : Int) (n : Int) (day next : Date), instants.getLast? = some last ∧
    (day.days : Int) = Int.fdiv last microsPerDay ∧
    Cadence.roundHalfUp? (Cadence.meanGap instants : α) = some n ∧
    (next.days : Int) = day.days + n ∧ p.nextDate = .day next ∧
    p.dayOfWeek = (if isWeekAnchored p.frequency then some (day.weekday : Int) else none) ∧
    p.dayOfMonth = (if isMonthAnchored p.frequency then some (day.day : Int) else none)

theorem Date.exists_ofDays? {n : Int} (h : 0 ≤ n ∧ n < calendarDays) :
    ∃ d, Date.ofDays? n = some d ∧ (d.days : Int) = n := by
  have inside : n.toNat < calendarDays := by omega
  have days : ((⟨n.toNat, inside⟩ : Date).days : Int) = n := Int.toNat_of_nonneg h.1
  exact ⟨_, Date.ofDays?_eq_some_iff.mpr days, days⟩

theorem exists_next {last : Int} (hlast : EraInstant last) {n : Int} (low : 0 ≤ n)
    (high : n ≤ 20000) :
    ∃ day next : Date, Date.ofDays? (Int.fdiv last microsPerDay) = some day ∧
      (day.days : Int) = Int.fdiv last microsPerDay ∧ day.addDays? n = some next ∧
      (next.days : Int) = day.days + n := by
  have perDay : (microsPerDay : Int) = 86400000000 := rfl
  have all : (calendarDays : Int) = 3652059 := rfl
  rw [EraInstant, perDay] at hlast
  rw [Int.fdiv_eq_ediv_of_nonneg _ (by omega), perDay]
  obtain ⟨day, ofDays, days⟩ := @Date.exists_ofDays? (last / 86400000000) (by omega)
  obtain ⟨next, addDays, nextDays⟩ := @Date.exists_ofDays? (day.days + n) (by omega)
  exact ⟨day, next, ofDays, days, addDays, nextDays⟩

namespace Detector

variable {d : Detector α} {h : Thresholds} (hd : d.HasThresholds h) {instants : List Int}
  (era : ∀ i ∈ instants, EraInstant i) (ascending : instants.Pairwise (· ≤ ·))
include hd era ascending

theorem inferPattern_of_none
    (absent : instants.length < 2 ∨ h.windowOf? (Cadence.meanGap instants : α) = none) :
    d.inferPattern (instants.map some) = .ok none := by
  have figures : (Cadence.gaps (instants.map some) : List α) = Cadence.gapFigures instants :=
    Cadence.gaps_eq era ascending
  rw [inferPattern, figures]
  by_cases few : (Cadence.gapFigures instants : List α).isEmpty = true
  · rw [if_pos few]
    rfl
  · have long : ¬ instants.length < 2 := by
      rwa [List.isEmpty_iff, Cadence.gapFigures_eq_nil_iff] at few
    have noWindow : d.classify (Cadence.meanGap instants : α) = .ok none := by
      rw [classify_eq hd, absent.resolve_left long]
      rfl
    rw [if_neg few]
    change (d.classify (Cadence.meanGap instants : α) >>= _) = _
    rw [noWindow]
    rfl

theorem inferPattern_of_window (two : 2 ≤ instants.length) {w : Window}
    (hw : h.windowOf? (Cadence.meanGap instants : α) = some w) (bounded : w.high ≤ 20000) :
    ∃ p, d.inferPattern (instants.map some) = .ok (some p) ∧ p.IsOf h instants := by
  have figures : (Cadence.gaps (instants.map some) : List α) = Cadence.gapFigures instants :=
    Cadence.gaps_eq era ascending
  have nonzero : (Cadence.gapFigures instants : List α).isEmpty = false := by
    rw [← Bool.not_eq_true, List.isEmpty_iff]
    exact Cadence.gapFigures_ne_nil two
  have window : d.classify (Cadence.meanGap instants : α) = .ok (some w.name) := by
    rw [classify_eq hd, hw]
    rfl
  have holds : w.Holds (Cadence.meanGap instants : α) := (Thresholds.windowOf?_eq_some hw).2
  obtain ⟨n, rounded, low, high⟩ := Cadence.roundHalfUp?_meanGap holds bounded
  have nonempty : instants ≠ [] := by
    rintro rfl
    simp at two
  have last : instants.getLast? = some (instants.getLast nonempty) :=
    List.getLast?_eq_some_getLast nonempty
  obtain ⟨day, next, ofDays, days, addDays, nextDays⟩ :=
    exists_next (era _ (List.getLast_mem nonempty)) low high
  have lastJoin : (instants.map some).getLast?.join = some (instants.getLast nonempty) :=
    (Cadence.getLast?_map_some instants).trans last
  let p : Pattern α := {
    frequency := w.name
    interval := 1
    nextDate := .day next
    confidence := Cadence.timing instants
    dayOfWeek := if isWeekAnchored w.name then some day.weekday else none
    dayOfMonth := if isMonthAnchored w.name then some day.day else none }
  have named : (h.windowOf? (Cadence.meanGap instants : α)).map (·.name) = some p.frequency := by
    rw [hw]
    rfl
  refine ⟨p, ?_, named, rfl, rfl, _, n, day, next, last, days, rounded, nextDays, rfl, rfl, rfl⟩
  rw [inferPattern, figures, nonzero]
  change (d.classify (Cadence.meanGap instants : α) >>= _) = _
  have round : Cadence.roundHalfUp? (mean (Cadence.gapFigures instants : List α)) =
      some n := rounded
  rw [window, ok_bind]
  simp only [lastJoin, round, ofDays, addDays]
  rfl

end Detector

end RecurringPayments
