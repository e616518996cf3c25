import RecurringPayments.Proofs.Number.Defined
import RecurringPayments.Proofs.Report.Bills

/-!
The levels under which confidences are shown. Where they form a ladder, a surer figure is never
graded lower; and where the thresholds of detection stand on the ladder, what is reported is of the
grade its threshold stands on, at least.
-/
namespace RecurringPayments

open LawfulScalar Result

variable {α : Type} [Scalar α]

/-! ### Grades -/

inductive Grade where
  | low
  | medium
  | high
  | veryHigh

namespace Grade

def name : Grade → String
  | low => "low"
  | medium => "medium"
  | high => "high"
  | veryHigh => "very_high"

def rank : Grade → Fin 4
  | low => 0
  | medium => 1
  | high => 2
  | veryHigh => 3

theorem rank_injective : Function.Injective rank := by
  intro g h
  cases g <;> cases h <;> simp [rank]

instance : LinearOrder Grade := .lift' rank rank_injective

theorem low_le (g : Grade) : low ≤ g := Fin.zero_le (rank g)

end Grade

/-- A range of confidences, its lower end included. -/
structure Level where
  grade : Grade
  low : EReal
  high : EReal

namespace Level

def Holds (l : Level) (c : EReal) : Prop := l.low ≤ c ∧ c < l.high

noncomputable instance (l : Level) (c : EReal) : Decidable (l.Holds c) := Classical.dec _

noncomputable def gradeOf (levels : List Level) (c : EReal) : Grade :=
  ((levels.find? fun l => decide (l.Holds c)).map (·.grade)).getD .low

/-- Levels below a top, in descending grades, each of which ends where the one before it begins. -/
inductive IsLadder : EReal → List Level → Prop
  | nil (top : EReal) : IsLadder top []
  | cons {top : EReal} {l : Level} {levels : List Level} (edge : l.high = top)
      (lower : ∀ m ∈ levels, m.grade ≤ l.grade) (rest : IsLadder l.low levels) :
      IsLadder top (l :: levels)

section

variable {l : Level} {levels : List Level} {c c' : EReal}

theorem gradeOf_cons_of_holds (holds : l.Holds c) : gradeOf (l :: levels) c = l.grade := by
  rw [gradeOf, List.find?_cons, decide_eq_true holds]
  rfl

theorem gradeOf_cons_of_lt (below : c < l.low) : gradeOf (l :: levels) c = gradeOf levels c := by
  have outside : ¬ l.Holds c := fun holds => not_lt.mpr holds.1 below
  rw [gradeOf, List.find?_cons, decide_eq_false outside, gradeOf]

theorem gradeOf_le {g : Grade} (lower : ∀ m ∈ levels, m.grade ≤ g) : gradeOf levels c ≤ g := by
  rw [gradeOf]
  cases found : levels.find? fun l => decide (l.Holds c) with
  | none => exact Grade.low_le g
  | some m => exact lower m (List.mem_of_find?_eq_some found)

variable {top : EReal} (ladder : IsLadder top levels)
include ladder

theorem gradeOf_mono (le : c ≤ c') (below : c' < top) : gradeOf levels c ≤ gradeOf levels c' := by
  induction ladder with
  | nil => exact le_rfl
  | @cons top l levels edge lower rest ih =>
    rw [← edge] at below
    rcases le_or_gt l.low c' with inside | under'
    · rw [gradeOf_cons_of_holds ⟨inside, below⟩]
      rcases le_or_gt l.low c with inside' | under
      · rw [gradeOf_cons_of_holds ⟨inside', le.trans_lt below⟩]
      · rw [gradeOf_cons_of_lt under]
        exact gradeOf_le lower
    · rw [gradeOf_cons_of_lt under', gradeOf_cons_of_lt (le.trans_lt under')]
      exact ih under'

theorem le_gradeOf {m : Level} (hm : m ∈ levels) (reached : m.low ≤ c) (below : c < top) :
    m.grade ≤ gradeOf levels c := by
  induction ladder with
  | nil => cases hm
  | @cons top l levels edge lower rest ih =>
    rw [← edge] at below
    rcases le_or_gt l.low c with inside | under
    · rw [gradeOf_cons_of_holds ⟨inside, below⟩]
      rcases List.mem_cons.mp hm with rfl | later
      · exact le_rfl
      · exact lower m later
    · rw [gradeOf_cons_of_lt under]
      rcases List.mem_cons.mp hm with rfl | later
      · exact absurd reached (not_le.mpr under)
      · exact ih later under

end

/-! ### Levels of a configuration -/

variable [LawfulScalar α]

structure IsReadFrom (l : Level) (entry : Value α × Value α) : Prop where
  name : entry.1 = .text l.grade.name
  low : ∃ v, Settings.entryOf entry.2 "min_score" = .ok v ∧ v.number? = some l.low
  high : ∃ v, Settings.entryOf entry.2 "max_score" = .ok v ∧ v.number? = some l.high

end Level

namespace Detector

variable [LawfulScalar α]

theorem firstLevel?_eq {entries : List (Value α × Value α)} {levels : List Level}
    (read : List.Forall₂ Level.IsReadFrom levels entries) {confidence : Value α} {c : EReal}
    (number : confidence.number? = some c) :
    firstLevel? confidence entries =
      .ok ((levels.find? fun l => decide (l.Holds c)).map fun l => .text l.grade.name) := by
  induction read with
  | nil => rfl
  | @cons l entry levels entries first rest ih =>
    obtain ⟨low, lowEntry, lowNumber⟩ := first.low
    obtain ⟨high, highEntry, highNumber⟩ := first.high
    have holds : decide (l.Holds c) = (decide (l.low ≤ c) && decide (c < l.high)) := by
      rw [← Bool.decide_and, decide_eq_decide]
      rfl
    rw [firstLevel?, lowEntry, ok_bind, Value.isAtMost_number lowNumber number, ok_bind,
      List.find?_cons, holds]
    cases decide (l.low ≤ c) with
    | false => exact ih
    | true =>
      rw [if_pos rfl, highEntry, ok_bind, Value.isBelow_number number highNumber, ok_bind,
        Bool.true_and]
      cases decide (c < l.high) with
      | false => exact ih
      | true =>
        rw [if_pos rfl, first.name]
        rfl

/-- The thresholds of a detector stand on the ladder of its levels: on or above a level of the
medium grade, and for what looks like a subscription on or above one of the high grade. -/
structure StandsOn (d : Detector α) (levels : List Level) : Prop where
  entries : ∃ entries, d.levels = .mapping entries ∧ List.Forall₂ Level.IsReadFrom levels entries
  ladder : ∃ top, 1 < top ∧ Level.IsLadder top levels
  reported : ∃ least, d.minConfidence.number? = some least ∧
    ∃ l ∈ levels, .medium ≤ l.grade ∧ l.low ≤ least
  steady : ∃ least, d.minSubscriptionConfidence.number? = some least ∧
    ∃ l ∈ levels, .high ≤ l.grade ∧ l.low ≤ least

theorem confidenceLevel_eq {d : Detector α} {levels : List Level} (stands : d.StandsOn levels)
    {confidence : Value α} {c : EReal} (number : confidence.number? = some c) :
    d.confidenceLevel confidence = .ok (.text (Level.gradeOf levels c).name) := by
  obtain ⟨entries, own, read⟩ := stands.entries
  rw [confidenceLevel, own, Settings.entriesOf, ok_bind, firstLevel?_eq read number, ok_bind,
    Level.gradeOf]
  cases levels.find? fun l => decide (l.Holds c) <;> rfl

/-! ### Reported groups -/

structure Grades (d : Detector α) (groups : List (RecurringGroup α))
    (grade : RecurringGroup α → Grade) : Prop where
  shown : ∀ g ∈ groups, d.confidenceLevel (.real g.pattern.confidence) = .ok (.text (grade g).name)
  reported : ∀ g ∈ groups, .medium ≤ grade g
  steady : ∀ g ∈ groups, g.isSubscription = true → .high ≤ grade g
  surer : ∀ g ∈ groups, ∀ h ∈ groups,
    Scalar.lt g.pattern.confidence h.pattern.confidence = true → grade g ≤ grade h
  descending : groups.Pairwise fun above below => grade below ≤ grade above

section

variable {d : Detector α} {ts : List (Transaction α)} {groups : List (RecurringGroup α)}
  (detected : d.detect ts = .ok groups)
include detected

theorem sureness_bounds {g : RecurringGroup α} (hg : g ∈ groups) :
    value? g.pattern.confidence = some (sureness g) ∧ 0 ≤ sureness g ∧ sureness g ≤ 1 := by
  obtain ⟨charges, -, built⟩ := exists_isBuiltFrom detected hg
  have even := (of_inferPattern built.pattern).2.1
  obtain ⟨c, value, bounds⟩ := Cadence.value?_confidence (α := α)
    (mean (Cadence.gaps _)) (deviation (Cadence.gaps _))
  rw [← even] at value
  have own : sureness g = c := by
    rw [sureness, value]
    rfl
  rw [own]
  exact ⟨value, bounds⟩

theorem pairwise_sureness : groups.Pairwise fun above below => sureness below ≤ sureness above := by
  have value {g : RecurringGroup α} (hg : g ∈ groups) := (sureness_bounds detected hg).1
  rw [detect] at detected
  split at detected
  · cases detected
    exact .nil
  · obtain ⟨charges, -, detected⟩ := bind_eq_ok_iff.mp detected
    obtain ⟨found, -, sorted⟩ := bind_eq_ok_iff.mp detected
    cases sorted
    have ranked : ∀ g ∈ found, ∀ h ∈ found, isNoLessSure g h =
        decide (OrderDual.toDual (sureness g) ≤ OrderDual.toDual (sureness h)) := by
      intro g hg h hh
      rw [isNoLessSure, Bool.eq_iff_iff, Bool.not_eq_true', ← Bool.not_eq_true,
        Scalar.lt_iff (value (List.mem_mergeSort.mpr hg)) (value (List.mem_mergeSort.mpr hh)),
        not_lt, decide_eq_true_iff, OrderDual.toDual_le_toDual]
    exact StableSort.pairwise_rank ranked

theorem grades_of_standsOn {levels : List Level} (stands : d.StandsOn levels) :
    d.Grades groups fun g => Level.gradeOf levels (sureness g) := by
  obtain ⟨top, above, ladder⟩ := stands.ladder
  have number {g : RecurringGroup α} (hg : g ∈ groups) :
      (Value.real g.pattern.confidence).number? = some (sureness g) :=
    (sureness_bounds detected hg).1
  have below {g : RecurringGroup α} (hg : g ∈ groups) : sureness g < top :=
    (sureness_bounds detected hg).2.2.trans_lt above
  constructor
  case shown => exact fun g hg => confidenceLevel_eq stands (number hg)
  case reported =>
    intro g hg
    obtain ⟨least, threshold, l, hl, grade, low⟩ := stands.reported
    have passed := (passes_of_detect detected hg).reported
    rw [Value.isAtMost_number (number hg) threshold, Except.ok.injEq, decide_eq_false_iff_not,
      not_le] at passed
    exact grade.trans (Level.le_gradeOf ladder hl (low.trans passed.le) (below hg))
  case steady =>
    intro g hg steady
    obtain ⟨least, threshold, l, hl, grade, low⟩ := stands.steady
    have passed := (passes_of_detect detected hg).steady steady
    rw [Value.isBelow_number threshold (number hg), Except.ok.injEq, decide_eq_true_iff] at passed
    exact grade.trans (Level.le_gradeOf ladder hl (low.trans passed.le) (below hg))
  case surer =>
    intro g hg h hh less
    rw [Scalar.lt_iff (number hg) (number hh)] at less
    exact Level.gradeOf_mono ladder less.le (below hh)
  case descending =>
    exact (pairwise_sureness detected).imp_of_mem fun hg _ le =>
      Level.gradeOf_mono ladder le (below hg)

end

end Detector

theorem Report.levels_eq {report : Report α} {a : Analyst α} {ts : List (Transaction α)}
    {rules : List (Rule α)} {today : When} (made : report.IsMadeBy a ts rules today)
    {grade : RecurringGroup α → Grade} (shown : ∀ g ∈ report.groups,
      a.detector.confidenceLevel (.real g.pattern.confidence) = .ok (.text (grade g).name)) :
    report.groupRows.map (·.level) = report.groups.map fun g => .text (grade g).name := by
  have rows := mapM_eq_ok_iff.mp made.groupRows
  generalize report.groups = groups at rows shown
  generalize report.groupRows = groupRows at rows
  induction rows with
  | nil => rfl
  | @cons g row groups rows first rest ih =>
    rw [List.forall_mem_cons] at shown
    obtain ⟨level, ranked, first⟩ := bind_eq_ok_iff.mp first
    obtain ⟨next, -, first⟩ := bind_eq_ok_iff.mp first
    obtain ⟨ids, -, first⟩ := bind_eq_ok_iff.mp first
    cases first
    rw [shown.1, Except.ok.injEq] at ranked
    rw [List.map_cons, List.map_cons, ih shown.2, ← ranked]

/-! ### The standard levels -/

namespace Detector

noncomputable def hundredths (n : Nat) : EReal :=
  (value? (Scalar.ofDecimal false n (-2) : Float)).getD 0

theorem number?_figureHundredths (n : Nat) :
    (Settings.figure n 2 : Value Float).number? = some (hundredths n) := by
  obtain ⟨a, number⟩ := exists_value?_ofDecimal false n (-2)
  rw [hundredths, number]
  exact number

noncomputable def standardLevels : List Level := [
  ⟨.veryHigh, hundredths 90, hundredths 101⟩, ⟨.high, hundredths 75, hundredths 90⟩,
  ⟨.medium, hundredths 60, hundredths 75⟩, ⟨.low, hundredths 0, hundredths 60⟩]

theorem isReadFrom_hundredths (grade : Grade) (low high : Nat) :
    (Level.mk grade (hundredths low) (hundredths high)).IsReadFrom
      (.text grade.name,
       (Settings.level (Settings.figure low 2) (Settings.figure high 2) : Value Float)) where
  name := rfl
  low := ⟨_, rfl, number?_figureHundredths low⟩
  high := ⟨_, rfl, number?_figureHundredths high⟩

theorem one_lt_hundredths : 1 < hundredths 101 := by
  have number : value? (Scalar.ofDecimal false 101 (-2) : Float) =
      some ((4548635623644201 * 2 ^ (-52 : ℤ) : ℝ) : EReal) := by
    have read : Binary64.ofFloat (Scalar.ofDecimal false 101 (-2)) =
        .finite false 4548635623644201 (-52) := rfl
    change (Binary64.ofFloat (Scalar.ofDecimal false 101 (-2))).value? = _
    rw [read, Binary64.value?, if_neg Bool.false_ne_true, Nat.cast_ofNat]
  rw [hundredths, number, Option.getD_some]
  exact EReal.coe_lt_coe_iff.mpr (by norm_num)

theorem number?_sixTenths : (Settings.figure 6 1 : Value Float).number? = some (hundredths 60) := by
  have sixty : Binary64.ofFloat (Scalar.ofDecimal false 60 (-2)) =
      .finite false 5404319552844595 (-53) := rfl
  rw [← number?_figureHundredths]
  change (Binary64.ofFloat (Scalar.ofDecimal false 6 (-1))).value? =
    (Binary64.ofFloat (Scalar.ofDecimal false 60 (-2))).value?
  rw [ofFloat_sixTenths, sixty]

theorem standard_standsOn : (standard : Detector Float).StandsOn standardLevels where
  entries := ⟨_, rfl, .cons (isReadFrom_hundredths .veryHigh 90 101)
    (.cons (isReadFrom_hundredths .high 75 90) (.cons (isReadFrom_hundredths .medium 60 75)
      (.cons (isReadFrom_hundredths .low 0 60) .nil)))⟩
  ladder := by
    refine ⟨_, one_lt_hundredths,
      .cons rfl ?_ (.cons rfl ?_ (.cons rfl ?_ (.cons rfl ?_ (.nil _))))⟩
    all_goals simp only [List.forall_mem_cons]; decide
  reported := ⟨_, number?_sixTenths, ⟨.medium, hundredths 60, hundredths 75⟩,
    by simp [standardLevels], le_rfl, le_rfl⟩
  steady := ⟨_, number?_figureHundredths 75, ⟨.high, hundredths 75, hundredths 90⟩,
    by simp [standardLevels], le_rfl, le_rfl⟩

end Detector

namespace Analyst

/-- Under the standard configuration no reported group is shown under the low level, and none that
looks like a subscription under the medium one either; a surer group is never shown under a lower
level, and down the rows of the table levels only descend. -/
theorem standard_gradesItsGroups {ts : List (Transaction Float)}
    {groups : List (RecurringGroup Float)} (detected : Detector.standard.detect ts = .ok groups) :
    ∃ grade : RecurringGroup Float → Grade, Detector.standard.Grades groups grade ∧
      ∀ rules today report, standard.report ts rules today = .ok report →
        report.groupRows.map (·.level) = groups.map fun g => .text (grade g).name := by
  have graded := Detector.grades_of_standsOn detected Detector.standard_standsOn
  refine ⟨_, graded, fun rules today report done => ?_⟩
  have made := isMadeBy_of_report done
  have same : groups = report.groups := Except.ok.inj (detected.symm.trans made.groups)
  rw [same] at graded ⊢
  exact Report.levels_eq made graded.shown

theorem standard_gradesItsGroups_streamingPayments :
    ∃ groups, (Detector.standard : Detector Float).detect streamingPayments = .ok groups ∧
      ∃ g ∈ groups, g.isSubscription = true ∧ ∃ grade : Grade, .high ≤ grade ∧
        Detector.standard.confidenceLevel (.real g.pattern.confidence) =
          .ok (.text grade.name) := by
  obtain ⟨c, hd⟩ := Detector.floatStandard_hasThresholds
  obtain ⟨groups, detected, -⟩ :=
    Detector.exists_report hd (Thresholds.standard_bounded c) streamingPayments_isReadable
  obtain ⟨grade, graded, -⟩ := standard_gradesItsGroups detected
  obtain ⟨g, hg, steady, -⟩ := exists_group_streamingPayments detected
  exact ⟨groups, detected, g, hg, steady, grade g, graded.steady g hg steady, graded.shown g hg⟩

end Analyst

end RecurringPayments
