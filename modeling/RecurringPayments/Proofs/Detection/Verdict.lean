import RecurringPayments.Proofs.Detection.Charges

/-!
Detection in two parts. Whether a merchant is reported, and in which pattern, is decided by the
instants of its timeline alone; the amounts and the rest only describe the group. No threshold has
to be a number here.
-/
namespace RecurringPayments

open Result

variable {α : Type} [Scalar α]

namespace Detector

def surePattern (d : Detector α) (instants : List Int) : Except Fault (Option (Pattern α)) := do
  match ← d.inferPattern (instants.map some) with
  | none => return none
  | some pattern =>
    if ← (Value.real pattern.confidence).isAtMost d.minConfidence then return none
    return some pattern

/-- The pattern in which a merchant is reported, if it is, by the instants of its timeline. -/
def verdict (d : Detector α) (instants : List Int) : Except Fault (Option (Pattern α)) := do
  if ← (Value.int instants.length).isBelow d.minOccurrences then return none
  d.surePattern instants

def variation (payments : List (Transaction α)) : α :=
  let amounts := payments.map fun t => Scalar.abs t.amountFigure
  relativeVariation amounts (mean amounts)

def looksSteady (d : Detector α) (payments : List (Transaction α)) (pattern : Pattern α) :
    Except Fault Bool := do
  if ← (Value.real (variation payments)).isBelow d.maxVariance then
    d.minSubscriptionConfidence.isBelow (.real pattern.confidence)
  else return false

def describe (key : String) (payments : List (Transaction α)) (pattern : Pattern α)
    (isSubscription : Bool) : RecurringGroup α where
  merchantKey := key
  category := (payments.head?.map (·.category)).getD .null
  pattern
  members := payments.map Member.ofTransaction
  averageAmount := mean (payments.map fun t => Scalar.abs t.amountFigure)
  variance := variation payments
  isSubscription

def groupIn (d : Detector α) (key : String) (payments : List (Transaction α)) :
    Option (Pattern α) → Except Fault (Option (RecurringGroup α))
  | none => .ok none
  | some pattern => do
    return some (describe key payments pattern (← d.looksSteady payments pattern))

def report (d : Detector α) (key : String) (payments : List (Transaction α)) :
    Except Fault (Option (RecurringGroup α)) := do
  d.groupIn key payments (← d.verdict (payments.map (·.instant)))

theorem buildGroup_eq {d : Detector α} {payments : List (Transaction α)}
    (legible : ∀ t ∈ payments, t.IsLegible) (key : String) :
    d.buildGroup key (payments.map Transaction.charge) =
      d.surePattern (payments.map (·.instant)) >>= d.groupIn key payments := by
  have magnitudes : (payments.map Transaction.charge).map (fun c => Scalar.abs c.amount) =
      payments.map fun t => Scalar.abs t.amountFigure := by
    rw [List.map_map]
    rfl
  have members : (payments.map Transaction.charge).map (fun c =>
      Member.ofTransaction c.transaction) = payments.map Member.ofTransaction := by
    rw [List.map_map]
    rfl
  have category : (payments.map Transaction.charge).head?.map (·.transaction.category) =
      payments.head?.map (·.category) := by
    rw [List.head?_map, Option.map_map]
    rfl
  rw [buildGroup, map_instant_charge legible, magnitudes, members, category, surePattern,
    bind_assoc]
  refine bind_congr fun found => ?_
  cases found with
  | none => rfl
  | some pattern =>
    simp only [bind_assoc]
    refine bind_congr fun unsure => ?_
    cases unsure with
    | true => rfl
    | false =>
      simp only [Bool.false_eq_true, if_false, pure_eq, ok_bind, groupIn, looksSteady, bind_assoc]
      refine bind_congr fun steady => ?_
      cases steady <;> rfl

variable {d : Detector α} {ts : List (Transaction α)}

section

variable (legible : ∀ t ∈ ts, t.IsLegible)
include legible

theorem groupOf_eq_report (key : String) :
    d.groupOf key ((ofMerchant ts key).map Transaction.charge) =
      d.report key (timeline ts key) := by
  have count : ((ofMerchant ts key).map Transaction.charge).length =
      ((timeline ts key).map (·.instant)).length := by
    rw [List.length_map, List.length_map, length_timeline]
  rw [groupOf, report, verdict, count, mergeSort_charges legible, bind_assoc]
  refine bind_congr fun few => ?_
  cases few with
  | true => rfl
  | false => exact buildGroup_eq (fun t ht => legible t (mem_timeline.mp ht).1) key

/-- Detection sees a list as the timelines of its merchants. -/
theorem detect_eq_reports :
    d.detect ts = do
      let groups ← (merchants ts).filterMapM fun key => d.report key (timeline ts key)
      return groups.mergeSort isNoLessSure := by
  by_cases empty : ts = []
  · subst empty
    have none : merchants ([] : List (Transaction α)) = [] := rfl
    simp [detect, none]
  · rw [detect, if_neg (by simpa using empty), Charge.ofTransactions_eq legible, ok_bind,
      gatherByMerchant_eq, filterMapM_map]
    simp only [groupOf_eq_report legible]
    rfl

omit legible in
theorem map_verdict {f : Pattern α → Pattern α} {instants instants' : List Int}
    (count : instants'.length = instants.length)
    (patterns : d.inferPattern (instants'.map some) =
      (d.inferPattern (instants.map some)).map (Option.map f))
    (sure : ∀ p, (f p).confidence = p.confidence) :
    d.verdict instants' = (d.verdict instants).map (Option.map f) := by
  rw [verdict, verdict, count, map_bind_eq]
  refine bind_congr fun few => ?_
  cases few with
  | true => rfl
  | false =>
    rw [if_neg Bool.false_ne_true, if_neg Bool.false_ne_true, surePattern, surePattern, patterns,
      map_bind_eq]
    cases d.inferPattern (instants.map some) with
    | error fault => rfl
    | ok found =>
      cases found with
      | none => rfl
      | some p =>
        change ((Value.real (f p).confidence).isAtMost d.minConfidence >>= _) =
          ((Value.real p.confidence).isAtMost d.minConfidence >>= _).map _
        rw [sure, map_bind_eq]
        refine bind_congr fun unsure => ?_
        cases unsure <;> rfl

theorem map_detect {f : RecurringGroup α → RecurringGroup α}
    (sure : ∀ g, (f g).pattern.confidence = g.pattern.confidence) :
    (d.detect ts).map (List.map f) = do
      let groups ← (merchants ts).filterMapM fun key =>
        (d.report key (timeline ts key)).map (Option.map f)
      return groups.mergeSort isNoLessSure := by
  rw [detect_eq_reports legible, ← map_filterMapM]
  cases (merchants ts).filterMapM fun key => d.report key (timeline ts key) with
  | error fault => rfl
  | ok groups =>
    refine congrArg Except.ok (List.map_mergeSort fun g _ h _ => ?_)
    rw [isNoLessSure, isNoLessSure, sure, sure]

theorem exists_detect_iff :
    (∃ groups, d.detect ts = .ok groups) ↔
      ∀ key ∈ merchants ts, ∃ found, d.report key (timeline ts key) = .ok found := by
  rw [← exists_filterMapM_iff, detect_eq_reports legible]
  cases (merchants ts).filterMapM fun key => d.report key (timeline ts key) <;> simp

omit legible in
theorem report_eq_some_iff {key : String} {payments : List (Transaction α)} {g : RecurringGroup α} :
    d.report key payments = .ok (some g) ↔
      d.verdict (payments.map (·.instant)) = .ok (some g.pattern) ∧
        d.looksSteady payments g.pattern = .ok g.isSubscription ∧
          g = describe key payments g.pattern g.isSubscription := by
  rw [report, bind_eq_ok_iff]
  constructor
  · rintro ⟨_ | pattern, decided, grouped⟩
    · cases grouped
    · obtain ⟨steady, looks, same⟩ := bind_eq_ok_iff.mp grouped
      cases same
      exact ⟨decided, looks, rfl⟩
  · rintro ⟨decided, looks, same⟩
    refine ⟨some g.pattern, decided, ?_⟩
    rw [groupIn, looks, ok_bind, pure_eq, ← same]

theorem mem_detect {groups : List (RecurringGroup α)} (detected : d.detect ts = .ok groups)
    (g : RecurringGroup α) : g ∈ groups ↔ g.merchantKey ∈ merchants ts ∧
      d.report g.merchantKey (timeline ts g.merchantKey) = .ok (some g) := by
  rw [detect_eq_reports legible] at detected
  obtain ⟨found, each, sorted⟩ := bind_eq_ok_iff.mp detected
  cases sorted
  rw [List.mem_mergeSort, mem_filterMapM each]
  constructor
  · rintro ⟨key, listed, reported⟩
    obtain ⟨-, -, same⟩ := report_eq_some_iff.mp reported
    obtain rfl : g.merchantKey = key := by rw [same, describe]
    exact ⟨listed, reported⟩
  · rintro ⟨listed, reported⟩
    exact ⟨_, listed, reported⟩

end

section

variable (readable : ∀ t ∈ ts, t.IsReadable) {groups : List (RecurringGroup α)}
  (detected : d.detect ts = .ok groups)
include readable detected

theorem of_mem_detect {g : RecurringGroup α} (hg : g ∈ groups) :
    d.verdict ((timeline ts g.merchantKey).map (·.instant)) = .ok (some g.pattern) ∧
      g = describe g.merchantKey (timeline ts g.merchantKey) g.pattern g.isSubscription := by
  have legible := Transaction.forall_isLegible readable
  obtain ⟨-, reported⟩ := (mem_detect legible detected g).mp hg
  obtain ⟨decided, -, described⟩ := report_eq_some_iff.mp reported
  exact ⟨decided, described⟩

theorem exists_earliest {g : RecurringGroup α} (hg : g ∈ groups) :
    ∃ first, (timeline ts g.merchantKey).head? = some first ∧
      g.members.head? = some (Member.ofTransaction first) ∧ g.category = first.category := by
  have legible := Transaction.forall_isLegible readable
  have listed := ((mem_detect legible detected g).mp hg).1
  have described := (of_mem_detect readable detected hg).2
  cases payments : timeline ts g.merchantKey with
  | nil =>
    refine absurd ?_ (mem_merchants.mp listed)
    rw [← List.length_eq_zero_iff, ← length_timeline, payments, List.length_nil]
  | cons first rest =>
    rw [payments] at described
    refine ⟨first, rfl, ?_, ?_⟩
    · rw [described]
      rfl
    · rw [described]
      rfl

theorem exists_mem_detect_iff (key : String) :
    (∃ g ∈ groups, g.merchantKey = key) ↔ key ∈ merchants ts ∧
      ∃ pattern, d.verdict ((timeline ts key).map (·.instant)) = .ok (some pattern) := by
  have legible := Transaction.forall_isLegible readable
  constructor
  · rintro ⟨g, hg, rfl⟩
    exact ⟨((mem_detect legible detected g).mp hg).1, _, (of_mem_detect readable detected hg).1⟩
  · rintro ⟨listed, pattern, decided⟩
    obtain ⟨found, ran⟩ := (exists_detect_iff legible).mp ⟨groups, detected⟩ key listed
    rw [report, decided, ok_bind, groupIn] at ran
    obtain ⟨steady, looks, same⟩ := bind_eq_ok_iff.mp ran
    refine ⟨describe key (timeline ts key) pattern steady, ?_, rfl⟩
    exact (mem_detect legible detected _).mpr
      ⟨listed, report_eq_some_iff.mpr ⟨decided, looks, rfl⟩⟩

end

theorem inferPattern_inv {instants : List (Option Int)} {p : Pattern α}
    (found : d.inferPattern instants = .ok (some p)) :
    d.classify (mean (Cadence.gaps instants)) = .ok (some p.frequency) ∧
      (Cadence.gaps instants : List α) ≠ [] ∧
      p.confidence = Cadence.confidence (mean (Cadence.gaps instants))
        (deviation (Cadence.gaps instants)) ∧
      ∃ (last n : Int) (day next : Date), instants.getLast?.join = some last ∧
        Cadence.roundHalfUp? (mean (Cadence.gaps instants) : α) = some n ∧
        Date.ofDays? (Int.fdiv last microsPerDay) = some day ∧ day.addDays? n = some next ∧
        p.nextDate = .day next := by
  rw [inferPattern] at found
  simp only at found
  split at found
  · cases found
  rename_i gaps
  obtain ⟨_ | frequency, classified, found⟩ := bind_eq_ok_iff.mp found
  · cases found
  · simp only at found
    split at found
    · rename_i last n ends rounded
      split at found
      · rename_i day onDay
        split at found
        · rename_i next after
          cases found
          exact ⟨classified, by simpa using gaps, rfl, last, n, day, next, ends, rounded,
            onDay, after, rfl⟩
        · cases found
      · cases found
    · cases found

theorem classify_of_inferPattern {instants : List (Option Int)} {p : Pattern α}
    (found : d.inferPattern instants = .ok (some p)) :
    d.classify (mean (Cadence.gaps instants)) = .ok (some p.frequency) :=
  (inferPattern_inv found).1

theorem of_inferPattern {instants : List (Option Int)} {p : Pattern α}
    (found : d.inferPattern instants = .ok (some p)) :
    (Cadence.gaps instants : List α) ≠ [] ∧
      p.confidence = Cadence.confidence (mean (Cadence.gaps instants))
        (deviation (Cadence.gaps instants)) ∧
      ∃ (last n : Int) (day next : Date), instants.getLast?.join = some last ∧
        Cadence.roundHalfUp? (mean (Cadence.gaps instants) : α) = some n ∧
        Date.ofDays? (Int.fdiv last microsPerDay) = some day ∧ day.addDays? n = some next ∧
        p.nextDate = .day next :=
  (inferPattern_inv found).2

theorem exists_nextDate_of_inferPattern {instants : List (Option Int)} {p : Pattern α}
    (found : d.inferPattern instants = .ok (some p)) : ∃ next, p.nextDate = .day next := by
  obtain ⟨-, -, _, _, _, next, -, -, -, -, nextDate⟩ := of_inferPattern found
  exact ⟨next, nextDate⟩

theorem of_verdict {instants : List Int} {p : Pattern α}
    (decided : d.verdict instants = .ok (some p)) :
    d.inferPattern (instants.map some) = .ok (some p) ∧
      (Value.real p.confidence).isAtMost d.minConfidence = .ok false := by
  obtain ⟨few, -, decided⟩ := bind_eq_ok_iff.mp decided
  cases few with
  | true => cases decided
  | false =>
    rw [if_neg Bool.false_ne_true, surePattern] at decided
    obtain ⟨_ | pattern, found, decided⟩ := bind_eq_ok_iff.mp decided
    · cases decided
    · obtain ⟨unsure, weighed, decided⟩ := bind_eq_ok_iff.mp decided
      cases unsure with
      | true => cases decided
      | false =>
        cases decided
        exact ⟨found, weighed⟩

theorem exists_nextDate {instants : List Int} {p : Pattern α}
    (decided : d.verdict instants = .ok (some p)) : ∃ next, p.nextDate = .day next :=
  exists_nextDate_of_inferPattern (of_verdict decided).1

/-- What a group that is built takes from its charges, whatever these hold. -/
structure IsBuiltFrom (d : Detector α) (charges : List (Charge α))
    (g : RecurringGroup α) : Prop where
  category : g.category = (charges.head?.map (·.transaction.category)).getD .null
  members : g.members = charges.map fun c => Member.ofTransaction c.transaction
  pattern : d.inferPattern (charges.map (·.instant)) = .ok (some g.pattern)

structure Passes (d : Detector α) (g : RecurringGroup α) : Prop where
  reported : (Value.real g.pattern.confidence).isAtMost d.minConfidence = .ok false
  steady : g.isSubscription = true →
    d.minSubscriptionConfidence.isBelow (.real g.pattern.confidence) = .ok true

theorem of_buildGroup {key : String} {charges : List (Charge α)} {g : RecurringGroup α}
    (built : d.buildGroup key charges = .ok (some g)) :
    g.merchantKey = key ∧ d.IsBuiltFrom charges g ∧ d.Passes g := by
  rw [buildGroup] at built
  obtain ⟨_ | pattern, found, built⟩ := bind_eq_ok_iff.mp built
  · cases built
  obtain ⟨unsure, weighed, built⟩ := bind_eq_ok_iff.mp built
  cases unsure with
  | true => cases built
  | false =>
    obtain ⟨steady, -, built⟩ := bind_eq_ok_iff.mp built
    cases steady with
    | true =>
      obtain ⟨isSubscription, looks, built⟩ := bind_eq_ok_iff.mp built
      cases built
      exact ⟨rfl, ⟨rfl, rfl, found⟩, weighed, fun steady => looks.trans (congrArg Except.ok steady)⟩
    | false =>
      cases built
      exact ⟨rfl, ⟨rfl, rfl, found⟩, weighed, nofun⟩

theorem exists_buildGroup {groups : List (RecurringGroup α)} (detected : d.detect ts = .ok groups)
    {g : RecurringGroup α} (hg : g ∈ groups) :
    ∃ charges, Charge.ofTransactions ts = .ok charges ∧ d.buildGroup g.merchantKey
      ((charges.filter (·.key == g.merchantKey)).mergeSort Charge.isNoLater) = .ok (some g) := by
  rw [detect] at detected
  split at detected
  · cases detected
    cases hg
  · obtain ⟨charges, read, detected⟩ := bind_eq_ok_iff.mp detected
    obtain ⟨found, each, sorted⟩ := bind_eq_ok_iff.mp detected
    cases sorted
    rw [List.mem_mergeSort, mem_filterMapM each] at hg
    obtain ⟨p, hp, built⟩ := hg
    obtain ⟨key, -, rfl⟩ := List.mem_map.mp hp
    rw [groupOf] at built
    obtain ⟨few, -, built⟩ := bind_eq_ok_iff.mp built
    cases few with
    | true => cases built
    | false =>
      refine ⟨charges, read, ?_⟩
      rw [(of_buildGroup built).1]
      exact built

theorem exists_isBuiltFrom {groups : List (RecurringGroup α)} (detected : d.detect ts = .ok groups)
    {g : RecurringGroup α} (hg : g ∈ groups) :
    ∃ charges, Charge.ofTransactions ts = .ok charges ∧
      d.IsBuiltFrom ((charges.filter (·.key == g.merchantKey)).mergeSort Charge.isNoLater) g := by
  obtain ⟨charges, read, built⟩ := exists_buildGroup detected hg
  exact ⟨charges, read, (of_buildGroup built).2.1⟩

theorem passes_of_detect {groups : List (RecurringGroup α)} (detected : d.detect ts = .ok groups)
    {g : RecurringGroup α} (hg : g ∈ groups) : d.Passes g := by
  obtain ⟨_, -, built⟩ := exists_buildGroup detected hg
  exact (of_buildGroup built).2.2

end Detector

end RecurringPayments
