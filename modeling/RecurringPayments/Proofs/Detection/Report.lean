import RecurringPayments.Proofs.Detection.Charges
import RecurringPayments.Proofs.Detection.Standard
import RecurringPayments.Proofs.Number.Floating

/-!
What detection reports: one group for each merchant whose payments recur under the thresholds, the
group being that of the merchant's timeline, the surest groups first.
-/
namespace RecurringPayments

open LawfulScalar Result

variable {α : Type} [Scalar α] [LawfulScalar α]

/-- The payments of a timeline recur: enough of them, at a mean distance that some window holds, and
evenly enough. -/
structure Thresholds.Recur (h : Thresholds) (payments : List (Transaction α)) : Prop where
  two : 2 ≤ payments.length
  enough : h.minOccurrences ≤ ((payments.length : ℝ) : EReal)
  inWindow : ∃ w ∈ h.windows, w.Holds (Cadence.meanGap (payments.map (·.instant)) : α)
  sure : ∃ c, value? (Cadence.timing (payments.map (·.instant)) : α) = some c ∧ h.minConfidence < c

structure RecurringGroup.IsOf (g : RecurringGroup α) (h : Thresholds) (key : String)
    (payments : List (Transaction α)) : Prop where
  merchantKey : g.merchantKey = key
  category : payments.head?.map (·.category) = some g.category
  pattern : g.pattern.IsOf h (payments.map (·.instant))
  members : g.members = payments.map Member.ofTransaction
  averageAmount : g.averageAmount = mean (payments.map fun t => Scalar.abs t.amountFigure)
  variance : g.variance =
    Detector.relativeVariation (payments.map fun t => Scalar.abs t.amountFigure) g.averageAmount

namespace Detector

section

variable {d : Detector α} {h : Thresholds} (hd : d.HasThresholds h)
  (bounded : ∀ w ∈ h.windows, w.high ≤ 20000) {payments : List (Transaction α)}
  (readable : ∀ t ∈ payments, t.IsReadable)
  (ascending : payments.Pairwise fun s t => s.instant ≤ t.instant) (key : String)

omit [LawfulScalar α] in
include readable in
theorem era_instants : ∀ i ∈ payments.map (·.instant), EraInstant i := by
  rw [List.forall_mem_map]
  exact fun t ht => (readable t ht).instant?_eq.2

include hd in
theorem buildGroup_of_pattern {p : Pattern α} (nonempty : payments ≠ [])
    (found : d.inferPattern ((payments.map Transaction.charge).map (·.instant)) = .ok (some p))
    (hp : p.IsOf h (payments.map (·.instant))) {c : EReal} (hc : value? p.confidence = some c) :
    (c ≤ h.minConfidence ∧ d.buildGroup key (payments.map Transaction.charge) = .ok none) ∨
      (h.minConfidence < c ∧
        ∃ g, d.buildGroup key (payments.map Transaction.charge) = .ok (some g) ∧
        g.IsOf h key payments) := by
  have confidence : (Value.real p.confidence).number? = some c := hc
  have weighed := Value.isAtMost_number confidence hd.minConfidence
  rcases le_or_gt c h.minConfidence with low | high
  · left
    rw [decide_eq_true low] at weighed
    refine ⟨low, ?_⟩
    rw [buildGroup, found, ok_bind]
    simp only [weighed, ok_bind]
    rfl
  · right
    rw [decide_eq_false (not_le.mpr high)] at weighed
    let amounts := payments.map fun t => Scalar.abs t.amountFigure
    let average := mean amounts
    let variance := relativeVariation amounts average
    have magnitudes : ((payments.map Transaction.charge).map fun c => Scalar.abs c.amount) =
        amounts := by
      rw [List.map_map]
      rfl
    have transactions : ((payments.map Transaction.charge).map fun c =>
        Member.ofTransaction c.transaction) = payments.map Member.ofTransaction := by
      rw [List.map_map]
      rfl
    obtain ⟨steady, hsteady⟩ := Value.exists_isBelow (v := Value.real variance) rfl hd.maxVariance
    obtain ⟨surer, hsurer⟩ := Value.exists_isBelow (w := Value.real p.confidence)
      hd.minSubscriptionConfidence rfl
    obtain ⟨first, rest, rfl⟩ := List.exists_cons_of_ne_nil nonempty
    refine ⟨high, ⟨key, first.category, p, (first :: rest).map Member.ofTransaction,
      average, variance, steady && surer⟩, ?_, rfl, rfl, hp, rfl, rfl, rfl⟩
    rw [buildGroup, found, ok_bind]
    simp only [weighed, ok_bind, magnitudes, transactions]
    change ((Value.real variance).isBelow d.maxVariance >>= _) = _
    rw [hsteady, ok_bind]
    cases steady with
    | false => rfl
    | true =>
      simp only [if_true, hsurer, ok_bind]
      rfl

include hd bounded readable ascending in
theorem buildGroup_spec (nonempty : payments ≠ []) :
    (∃ g, d.buildGroup key (payments.map Transaction.charge) = .ok (some g) ∧
        g.IsOf h key payments ∧
        (h.minOccurrences ≤ ((payments.length : ℝ) : EReal) → h.Recur payments)) ∨
      (d.buildGroup key (payments.map Transaction.charge) = .ok none ∧ ¬ h.Recur payments) := by
  have instants := map_instant_charge (Transaction.forall_isLegible readable)
  have era := era_instants readable
  have sorted : (payments.map (·.instant)).Pairwise (· ≤ ·) := by
    rwa [List.pairwise_map]
  have absent (unfit : (payments.map (·.instant)).length < 2 ∨
      h.windowOf? (Cadence.meanGap (payments.map (·.instant)) : α) = none) :
      d.buildGroup key (payments.map Transaction.charge) = .ok none := by
    rw [buildGroup, instants, inferPattern_of_none hd era sorted unfit]
    rfl
  by_cases two : 2 ≤ payments.length
  swap
  · exact .inr ⟨absent (.inl (by simpa using two)), fun recur => two recur.two⟩
  cases hw : h.windowOf? (Cadence.meanGap (payments.map (·.instant)) : α) with
  | none =>
    refine .inr ⟨absent (.inr hw), fun recur => ?_⟩
    obtain ⟨w, hw'⟩ := Thresholds.exists_holds_iff.mp recur.inWindow
    rw [hw] at hw'
    cases hw'
  | some w =>
    obtain ⟨p, found, hp⟩ := inferPattern_of_window hd era sorted (by simpa using two) hw
      (bounded w (Thresholds.windowOf?_eq_some hw).1)
    obtain ⟨c, hc, -⟩ := Cadence.value?_timing (α := α) (payments.map (·.instant))
    rw [← instants] at found
    rcases buildGroup_of_pattern hd key nonempty found hp (hp.confidence ▸ hc) with
      ⟨low, built⟩ | ⟨high, g, built, hg⟩
    · refine .inr ⟨built, fun recur => ?_⟩
      obtain ⟨c', hc', sure⟩ := recur.sure
      rw [hc, Option.some_inj] at hc'
      subst hc'
      exact absurd sure (not_lt.mpr low)
    · exact .inl ⟨g, built, hg, fun enough =>
        ⟨two, enough, Thresholds.exists_holds_iff.mpr ⟨w, hw⟩, c, hc, high⟩⟩

end

def reportOf? (d : Detector α) (ts : List (Transaction α)) (key : String) :
    Option (RecurringGroup α) :=
  (d.groupOf key ((ofMerchant ts key).map Transaction.charge)).toOption.join

section

variable {d : Detector α} {h : Thresholds} (hd : d.HasThresholds h)
  (bounded : ∀ w ∈ h.windows, w.high ≤ 20000) {ts : List (Transaction α)}
  (readable : ∀ t ∈ ts, t.IsReadable)
include hd bounded readable

theorem groupOf_spec {key : String} (present : ofMerchant ts key ≠ []) :
    (∃ g, d.groupOf key ((ofMerchant ts key).map Transaction.charge) = .ok (some g) ∧
        g.IsOf h key (timeline ts key) ∧ h.Recur (timeline ts key)) ∨
      (d.groupOf key ((ofMerchant ts key).map Transaction.charge) = .ok none ∧
        ¬ h.Recur (timeline ts key)) := by
  have count : (Value.int ((ofMerchant ts key).map Transaction.charge).length : Value α).number? =
      some (((timeline ts key).length : ℝ) : EReal) := by
    rw [List.length_map, length_timeline, Value.number?, Int.cast_natCast]
  have weighed := Value.isBelow_number count hd.minOccurrences
  have listed : ∀ t ∈ timeline ts key, t.IsReadable := fun t ht => readable t (mem_timeline.mp ht).1
  have nonempty : timeline ts key ≠ [] := by
    rw [← List.length_pos_iff] at present ⊢
    rwa [length_timeline]
  rw [groupOf, weighed, ok_bind, mergeSort_charges (Transaction.forall_isLegible readable)]
  by_cases few : ((timeline ts key).length : ℝ) < h.minOccurrences
  · rw [decide_eq_true few, if_pos rfl]
    exact .inr ⟨rfl, fun recur => absurd few (not_lt.mpr recur.enough)⟩
  · rw [decide_eq_false few, if_neg Bool.false_ne_true]
    rcases buildGroup_spec hd bounded listed
      (timeline_isTimeline ts key).ascending key nonempty with
      ⟨g, built, hg, recur⟩ | ⟨built, unfit⟩
    · exact .inl ⟨g, built, hg, recur (not_lt.mp few)⟩
    · exact .inr ⟨built, unfit⟩

theorem reportOf?_spec {key : String} (present : ofMerchant ts key ≠ []) :
    d.groupOf key ((ofMerchant ts key).map Transaction.charge) = .ok (d.reportOf? ts key) ∧
      ((∃ g, d.reportOf? ts key = some g ∧ g.IsOf h key (timeline ts key) ∧
          h.Recur (timeline ts key)) ∨
        (d.reportOf? ts key = none ∧ ¬ h.Recur (timeline ts key))) := by
  rw [reportOf?]
  rcases groupOf_spec hd bounded readable present with ⟨g, found, hg, recur⟩ | ⟨found, unfit⟩
  · rw [found]
    exact ⟨rfl, .inl ⟨g, rfl, hg, recur⟩⟩
  · rw [found]
    exact ⟨rfl, .inr ⟨rfl, unfit⟩⟩

end

/-- One group stands before another: it is surer, or as sure and its merchant appears first. -/
def Precedes (ts : List (Transaction α)) (g h : RecurringGroup α) : Prop :=
  ∃ a b, value? g.pattern.confidence = some a ∧ value? h.pattern.confidence = some b ∧
    (b < a ∨ b = a ∧
      (ts.map Transaction.key).idxOf g.merchantKey < (ts.map Transaction.key).idxOf h.merchantKey)

/-- What detection owes: no merchant twice, every merchant whose payments recur and no other, the
group of its timeline for each, the surest groups first. -/
structure IsReport (h : Thresholds) (ts : List (Transaction α)) (groups : List (RecurringGroup α)) :
    Prop where
  distinct : (groups.map (·.merchantKey)).Nodup
  reported : ∀ key, (∃ g ∈ groups, g.merchantKey = key) ↔ h.Recur (timeline ts key)
  described : ∀ g ∈ groups, g.IsOf h g.merchantKey (timeline ts g.merchantKey)
  surestFirst : groups.Pairwise (Precedes ts)

section

variable {d : Detector α} {h : Thresholds} (hd : d.HasThresholds h)
  (bounded : ∀ w ∈ h.windows, w.high ≤ 20000) {ts : List (Transaction α)}
  (readable : ∀ t ∈ ts, t.IsReadable)
include hd bounded readable

theorem detect_eq :
    d.detect ts = .ok (((merchants ts).filterMap (d.reportOf? ts)).mergeSort isNoLessSure) := by
  by_cases empty : ts = []
  · subst empty
    have none : merchants ([] : List (Transaction α)) = [] := rfl
    rw [none]
    simp [detect]
  · have found : ((merchants ts).map fun key =>
        (key, (ofMerchant ts key).map Transaction.charge)).filterMapM
          (fun p => d.groupOf p.1 p.2) = .ok ((merchants ts).filterMap (d.reportOf? ts)) := by
      have each : ∀ p ∈ (merchants ts).map fun key =>
        (key, (ofMerchant ts key).map Transaction.charge),
          d.groupOf p.1 p.2 = .ok (d.reportOf? ts p.1) := by
        rw [List.forall_mem_map]
        exact fun key hkey => (reportOf?_spec hd bounded readable (mem_merchants.mp hkey)).1
      rw [filterMapM_eq_filterMap each, List.filterMap_map]
      rfl
    rw [detect, if_neg (by simpa using empty),
      Charge.ofTransactions_eq (Transaction.forall_isLegible readable), ok_bind,
        gatherByMerchant_eq]
    change (List.filterMapM _ ((merchants ts).map _) >>= _) = _
    rw [found]
    rfl

theorem of_reportOf? {key : String} (listed : key ∈ merchants ts) {g : RecurringGroup α}
    (found : d.reportOf? ts key = some g) :
    g.IsOf h key (timeline ts key) ∧ h.Recur (timeline ts key) := by
  obtain ⟨-, ⟨g', found', hg, recur⟩ | ⟨absent, -⟩⟩ :=
    reportOf?_spec hd bounded readable (mem_merchants.mp listed)
  · rw [found, Option.some_inj] at found'
    subst found'
    exact ⟨hg, recur⟩
  · rw [found] at absent
    cases absent

theorem found_spec {g : RecurringGroup α} (hg : g ∈ (merchants ts).filterMap (d.reportOf? ts)) :
    g.IsOf h g.merchantKey (timeline ts g.merchantKey) ∧ h.Recur (timeline ts g.merchantKey) := by
  obtain ⟨key, listed, found⟩ := List.mem_filterMap.mp hg
  obtain ⟨described, recur⟩ := of_reportOf? hd bounded readable listed found
  obtain rfl : g.merchantKey = key := described.merchantKey
  exact ⟨described, recur⟩

theorem exists_found_iff (key : String) :
    (∃ g ∈ (merchants ts).filterMap (d.reportOf? ts), g.merchantKey = key) ↔
      h.Recur (timeline ts key) := by
  constructor
  · rintro ⟨g, hg, rfl⟩
    exact (found_spec hd bounded readable hg).2
  · intro recur
    have present : ofMerchant ts key ≠ [] := by
      rw [← List.length_pos_iff, ← length_timeline]
      exact Nat.lt_of_lt_of_le Nat.two_pos recur.two
    obtain ⟨-, ⟨g, found, hg, -⟩ | ⟨-, unfit⟩⟩ := reportOf?_spec hd bounded readable present
    · obtain rfl : g.merchantKey = key := hg.merchantKey
      exact ⟨g, List.mem_filterMap.mpr ⟨_, mem_merchants.mpr present, found⟩, rfl⟩
    · exact absurd recur unfit

theorem pairwise_found : ((merchants ts).filterMap (d.reportOf? ts)).Pairwise fun g g' =>
    (ts.map Transaction.key).idxOf g.merchantKey <
      (ts.map Transaction.key).idxOf g'.merchantKey := by
  rw [List.pairwise_filterMap]
  refine (FirstAppearance.pairwise_eraseDups (ts.map Transaction.key)).imp_of_mem ?_
  intro key key' hkey hkey' first g found g' found'
  rw [(of_reportOf? hd bounded readable hkey found).1.merchantKey,
    (of_reportOf? hd bounded readable hkey' found').1.merchantKey]
  exact first

end

noncomputable def sureness (g : RecurringGroup α) : EReal := (value? g.pattern.confidence).getD 0

theorem value?_sureness {h : Thresholds} {g : RecurringGroup α} {key : String}
    {payments : List (Transaction α)} (hg : g.IsOf h key payments) :
    value? g.pattern.confidence = some (sureness g) := by
  obtain ⟨c, hc, -⟩ := Cadence.value?_timing (α := α) (payments.map (·.instant))
  rw [sureness, hg.pattern.confidence, hc]
  rfl

section

variable {d : Detector α} {h : Thresholds} (hd : d.HasThresholds h)
  (bounded : ∀ w ∈ h.windows, w.high ≤ 20000) {ts : List (Transaction α)}
  (readable : ∀ t ∈ ts, t.IsReadable)
include hd bounded readable

theorem isNoLessSure_found : ∀ g ∈ (merchants ts).filterMap (d.reportOf? ts),
    ∀ g' ∈ (merchants ts).filterMap (d.reportOf? ts),
      isNoLessSure g g' =
        decide (OrderDual.toDual (sureness g) ≤ OrderDual.toDual (sureness g')) := by
  intro g hg g' hg'
  have left := value?_sureness (found_spec hd bounded readable hg).1
  have right := value?_sureness (found_spec hd bounded readable hg').1
  rw [isNoLessSure, Bool.eq_iff_iff, Bool.not_eq_true', ← Bool.not_eq_true,
    Scalar.lt_iff left right, not_lt, decide_eq_true_iff, OrderDual.toDual_le_toDual]

theorem exists_report : ∃ groups, d.detect ts = .ok groups ∧ IsReport h ts groups := by
  have ranks := isNoLessSure_found hd bounded readable
  have order := StableSort.pairwise_lt_or ranks (pairwise_found hd bounded readable)
  refine ⟨_, detect_eq hd bounded readable, ?_, ?_, ?_, ?_⟩
  · have sorted := List.mergeSort_perm ((merchants ts).filterMap (d.reportOf? ts)) isNoLessSure
    rw [(sorted.map _).nodup_iff, List.Nodup, List.pairwise_map]
    refine (pairwise_found hd bounded readable).imp fun {g g'} first same => ?_
    rw [same] at first
    exact first.false
  · intro key
    simp only [List.mem_mergeSort]
    exact exists_found_iff hd bounded readable key
  · intro g hg
    exact (found_spec hd bounded readable (List.mem_mergeSort.mp hg)).1
  · refine order.imp_of_mem fun {g g'} hg hg' before => ?_
    have left := value?_sureness (found_spec hd bounded readable (List.mem_mergeSort.mp hg)).1
    have right := value?_sureness (found_spec hd bounded readable (List.mem_mergeSort.mp hg')).1
    refine ⟨_, _, left, right, before.imp_right fun ⟨equal, first⟩ => ⟨equal.symm, first⟩⟩

end

/-- In floating point: under numeric thresholds and windows of at most 20000 days, detection
succeeds on every list of readable transactions and reports what it owes, each group being that of
its merchant's transactions by date. -/
theorem detect_reports {d : Detector Float} {h : Thresholds} (hd : d.HasThresholds h)
    (bounded : ∀ w ∈ h.windows, w.high ≤ 20000) {ts : List (Transaction Float)}
    (readable : ∀ t ∈ ts, t.IsReadable) :
    ∃ groups, d.detect ts = .ok groups ∧ IsReport h ts groups ∧
      ∀ key, IsTimeline (timeline ts key) ts key := by
  obtain ⟨groups, detected, report⟩ := exists_report hd bounded readable
  exact ⟨groups, detected, report, timeline_isTimeline ts⟩

def payment {α : Type} (merchant : String) (d : Date) (amount : Int) : Transaction α where
  id := .null
  date := .day d
  amount := .int amount
  merchant := .text merchant
  category := .text "Other"
  account := .null
  type := .null
  status := .null

omit [LawfulScalar α] in
theorem payment_isLegible (d : Date) (merchant : String) {amount : Int}
    (inRange : Scalar.inRange (α := α) amount = true) :
    (payment merchant d amount : Transaction α).IsLegible := by
  refine ⟨rfl, Scalar.ofInt amount, ?_⟩
  change Value.wholeAsScalar amount = _
  rw [Value.wholeAsScalar, if_pos inRange]

omit [LawfulScalar α] in
theorem payment_isReadable {d : Date} (h : (When.day d).InEra) (merchant : String) {amount : Int}
    (inRange : Scalar.inRange (α := α) amount = true) :
    (payment merchant d amount : Transaction α).IsReadable :=
  ⟨h, (payment_isLegible d merchant inRange).amount⟩

def mixedPayments : List (Transaction Float) := [
  payment "Gym" ⟨738186, by decide⟩ 30, payment "NETFLIX Inc." ⟨738216, by decide⟩ 16,
  payment "netflix" ⟨738156, by decide⟩ 16, payment "Netflix" ⟨738186, by decide⟩ 16]

theorem readable_mixedPayments : ∀ t ∈ mixedPayments, t.IsReadable := by
  simp only [mixedPayments, List.forall_mem_cons]
  refine ⟨payment_isReadable ?_ _ rfl, payment_isReadable ?_ _ rfl, payment_isReadable ?_ _ rfl,
    payment_isReadable ?_ _ rfl, by simp⟩
  all_goals decide

theorem ofFloat_sixTenths :
    Binary64.ofFloat (Scalar.ofDecimal false 6 (-1)) = .finite false 5404319552844595 (-53) := rfl

theorem detect_reports_mixedPayments :
    ∃ groups, (standard : Detector Float).detect mixedPayments = .ok groups ∧
      IsReport (.standard ((5404319552844595 * 2 ^ (-53 : ℤ) : ℝ) : EReal)) mixedPayments groups ∧
      ∀ g ∈ groups, g.merchantKey ≠ "gym" := by
  have sixTenths : LawfulScalar.value? (Scalar.ofDecimal false 6 (-1) : Float) =
      some ((5404319552844595 * 2 ^ (-53 : ℤ) : ℝ) : EReal) := by
    change (Binary64.ofFloat (Scalar.ofDecimal false 6 (-1))).value? = _
    rw [ofFloat_sixTenths, Binary64.value?, if_neg Bool.false_ne_true, Nat.cast_ofNat]
  obtain ⟨groups, detected, report, -⟩ := detect_reports (standard_hasThresholds sixTenths)
    (Thresholds.standard_bounded _) readable_mixedPayments
  refine ⟨groups, detected, report, fun g hg gym => ?_⟩
  have recur := (report.reported "gym").mp ⟨g, hg, gym⟩
  have one : (ofMerchant mixedPayments "gym").length = 1 := rfl
  have two := recur.two
  rw [length_timeline, one] at two
  exact absurd two (by decide)

theorem floatStandard_hasThresholds :
    ∃ c, (standard : Detector Float).HasThresholds (.standard c) := by
  refine ⟨((5404319552844595 * 2 ^ (-53 : ℤ) : ℝ) : EReal), standard_hasThresholds ?_⟩
  change (Binary64.ofFloat (Scalar.ofDecimal false 6 (-1))).value? = _
  rw [ofFloat_sixTenths, Binary64.value?, if_neg Bool.false_ne_true, Nat.cast_ofNat]

def monthlyPayments : List (Transaction Float) := [
  payment "netflix" ⟨738156, by decide⟩ 16, payment "Gym" ⟨738186, by decide⟩ 30,
  payment "Netflix" ⟨738186, by decide⟩ 16, payment "NETFLIX Inc." ⟨738216, by decide⟩ 16]

theorem readable_monthlyPayments : ∀ t ∈ monthlyPayments, t.IsReadable := by
  simp only [monthlyPayments, List.forall_mem_cons]
  refine ⟨payment_isReadable ?_ _ rfl, payment_isReadable ?_ _ rfl, payment_isReadable ?_ _ rfl,
    payment_isReadable ?_ _ rfl, by simp⟩
  all_goals decide

end Detector

end RecurringPayments
