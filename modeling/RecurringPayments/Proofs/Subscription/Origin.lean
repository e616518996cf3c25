import RecurringPayments.Proofs.Detection.Evenness
import RecurringPayments.Proofs.Value.Unrounded
import RecurringPayments.Subscription.Lifecycle

/-!
Where a subscription comes from. Promoted from a group that was detected, it says of the payments of
its merchant how many they are, which, between which dates, and what they add up to; and that sum,
which is formed apart from the average, agrees with it where nothing is rounded.
-/
namespace RecurringPayments

open Result

variable {α : Type} [Scalar α]

theorem IsTimeline.exists_ends {members ts : List (Transaction α)} {key : String}
    (h : IsTimeline members ts key) (listed : ofMerchant ts key ≠ []) :
    ∃ first last, members.head? = some first ∧ members.getLast? = some last ∧
      first ∈ ofMerchant ts key ∧ last ∈ ofMerchant ts key ∧
        ∀ t ∈ ofMerchant ts key, first.instant ≤ t.instant ∧ t.instant ≤ last.instant := by
  have nonempty : members ≠ [] := by
    rintro rfl
    exact listed h.perm.symm.eq_nil
  refine ⟨members.head nonempty, members.getLast nonempty, List.head?_eq_some_head nonempty,
    List.getLast?_eq_some_getLast nonempty, h.perm.subset (List.head_mem nonempty),
    h.perm.subset (List.getLast_mem nonempty), fun t ht => ?_⟩
  have own := h.perm.mem_iff.mpr ht
  exact ⟨h.ascending.rel_head_of_rel_head_head own le_rfl,
    h.ascending.rel_getLast_of_rel_getLast_getLast own le_rfl⟩

namespace Subscription

/-- What a subscription says of the payments of a merchant. -/
structure AccountsFor (s : Subscription α) (ts : List (Transaction α)) (key : String) : Prop where
  occurrences : s.occurrences = .int s.transactionIds.length
  count : s.transactionIds.length = (ofMerchant ts key).length
  transactionIds : ∃ members, IsTimeline members ts key ∧ s.transactionIds = members.map (·.id)
  firstDetected : ∃ t ∈ ofMerchant ts key, s.firstDetected = t.date ∧
    ∀ u ∈ ofMerchant ts key, t.instant ≤ u.instant
  lastCharged : ∃ t ∈ ofMerchant ts key, s.lastCharged = t.date ∧
    ∀ u ∈ ofMerchant ts key, u.instant ≤ t.instant
  merchantName : MerchantKey.ofValue s.merchantName = key

theorem accountsFor_of_promote {ts : List (Transaction α)} {g : RecurringGroup α}
    (members : g.members = (timeline ts g.merchantKey).map Member.ofTransaction)
    (listed : ofMerchant ts g.merchantKey ≠ []) {id : Value α} {s : Subscription α}
    (promoted : promote id g = .ok s) : s.AccountsFor ts g.merchantKey := by
  have isTimeline := timeline_isTimeline ts g.merchantKey
  obtain ⟨first, last, starts, ends, ownFirst, ownLast, between⟩ := isTimeline.exists_ends listed
  obtain ⟨total, -, same⟩ := bind_eq_ok_iff.mp promoted
  cases same
  have count : (g.members.map (·.id)).length = g.members.length := List.length_map _
  constructor
  case occurrences => rw [count]
  case count => rw [count, members, List.length_map, length_timeline]
  case transactionIds =>
    refine ⟨_, isTimeline, ?_⟩
    rw [members, List.map_map]
    rfl
  case firstDetected =>
    refine ⟨first, ownFirst, ?_, fun u hu => (between u hu).1⟩
    simp only [members, List.head?_map, starts]
    rfl
  case lastCharged =>
    refine ⟨last, ownLast, ?_, fun u hu => (between u hu).2⟩
    simp only [members, List.getLast?_map, ends]
    rfl
  case merchantName =>
    simp only [members, List.getLast?_map, ends]
    exact (mem_timeline.mp (isTimeline.perm.mem_iff.mpr ownLast)).2

/-! ### The total -/

section

variable {value : α → ℝ} (unrounded : Scalar.IsUnrounded value)
include unrounded

theorem exists_addSize {total v : Value α} {r s : ℝ} (begins : total.StandsFor value r)
    (hv : v.StandsFor value s) :
    ∃ next, v.magnitude >>= total.add = .ok next ∧ next.StandsFor value (r + |s|) := by
  obtain ⟨size, sized, isSize⟩ := Value.exists_magnitude unrounded hv
  rw [sized]
  exact Value.exists_combine unrounded Int.cast_add unrounded.add begins isSize

theorem exists_addSizes {amounts : List (Value α)} {rs : List ℝ}
    (read : List.Forall₂ (Value.StandsFor value) amounts rs) {start : Value α} {r : ℝ}
    (begins : start.StandsFor value r) :
    ∃ total, amounts.foldlM (fun total a => do total.add (← a.magnitude)) start = .ok total ∧
      total.StandsFor value (r + (rs.map abs).sum) := by
  induction read generalizing start r with
  | nil =>
    refine ⟨start, rfl, ?_⟩
    rwa [List.map_nil, List.sum_nil, add_zero]
  | cons first _ ih =>
    obtain ⟨next, added, isNext⟩ := exists_addSize unrounded begins first
    obtain ⟨total, rest, isTotal⟩ := ih isNext
    refine ⟨total, ?_, ?_⟩
    · rw [List.foldlM_cons, added, ok_bind, rest]
    · rwa [List.map_cons, List.sum_cons, ← add_assoc]

theorem exists_totalSize_standsFor {amounts : List (Value α)} {rs : List ℝ}
    (read : List.Forall₂ (Value.StandsFor value) amounts rs) :
    ∃ total, totalSize amounts = .ok total ∧ total.StandsFor value (rs.map abs).sum := by
  have zero := Value.standsFor_int unrounded 0
  rw [Int.cast_zero] at zero
  have whole := exists_addSizes unrounded read zero
  rwa [zero_add] at whole

theorem exists_totalSize_payments {payments : List (Transaction α)}
    (readable : ∀ t ∈ payments, t.IsReadable) :
    ∃ total, totalSize (payments.map (·.amount)) = .ok total ∧ total.StandsFor value
      (value (mean (payments.map fun t => Scalar.abs t.amountFigure)) * payments.length) := by
  have figures : List.Forall₂ (Value.StandsFor value) (payments.map (·.amount))
      (payments.map fun t => value t.amountFigure) := by
    rw [List.forall₂_map_left_iff, List.forall₂_map_right_iff, List.forall₂_same]
    exact fun t ht => ⟨_, (readable t ht).isLegible.scalar_amount, rfl⟩
  obtain ⟨total, summed, isSum⟩ := exists_totalSize_standsFor unrounded figures
  refine ⟨total, summed, ?_⟩
  have sizes : (payments.map fun t => Scalar.abs t.amountFigure).map value =
      (payments.map fun t => value t.amountFigure).map abs := by
    rw [List.map_map, List.map_map]
    exact List.map_congr_left fun t _ => unrounded.abs _
  rw [Exact.value_mean unrounded, sizes, List.length_map]
  cases payments with
  | nil => simpa using isSum
  | cons t rest =>
    have count : ((t :: rest).length : ℝ) ≠ 0 := Nat.cast_ne_zero.mpr (Nat.succ_ne_zero _)
    rwa [div_mul_cancel₀ _ count]

end

/-! ### What is too large -/

theorem failsOnlyBy_scalar_int (n : Int) :
    FailsOnlyBy (· = .tooLarge) (Value.int n : Value α).scalar := by
  rw [Value.scalar, Value.wholeAsScalar]
  split
  · exact .ok _
  · exact .error rfl

theorem failsOnlyBy_add {v w : Value α} (hv : FailsOnlyBy (· = .tooLarge) v.scalar)
    (hw : FailsOnlyBy (· = .tooLarge) w.scalar) :
    FailsOnlyBy (· = .tooLarge) (v.add w) ∧
      ∀ u, v.add w = .ok u → FailsOnlyBy (· = .tooLarge) u.scalar := by
  rw [Value.add, Value.combine]
  split
  · refine ⟨.ok _, ?_⟩
    rintro u ⟨⟩
    exact failsOnlyBy_scalar_int _
  · refine ⟨hv.bind fun x _ => hw.bind fun y _ => .ok _, fun u made => ?_⟩
    obtain ⟨x, -, made⟩ := bind_eq_ok_iff.mp made
    obtain ⟨y, -, made⟩ := bind_eq_ok_iff.mp made
    cases made
    exact .ok _

theorem exists_magnitude_of_number {v : Value α} (number : ∃ x, v.scalar = .ok x) :
    ∃ u, v.magnitude = .ok u ∧ FailsOnlyBy (· = .tooLarge) u.scalar := by
  obtain ⟨x, number⟩ := number
  cases v with
  | bool b => exact ⟨_, rfl, failsOnlyBy_scalar_int _⟩
  | int n => exact ⟨_, rfl, failsOnlyBy_scalar_int _⟩
  | real y => exact ⟨_, rfl, .ok _⟩
  | _ => cases number

theorem failsOnlyBy_totalSize {amounts : List (Value α)}
    (numbers : ∀ v ∈ amounts, ∃ x, v.scalar = .ok x) :
    FailsOnlyBy (· = .tooLarge) (totalSize amounts) := by
  refine FailsOnlyBy.foldlM (P := fun total => FailsOnlyBy (· = .tooLarge) total.scalar)
    (fun v hv total begins => ?_) (failsOnlyBy_scalar_int 0)
  obtain ⟨size, sized, isSize⟩ := exists_magnitude_of_number (numbers v hv)
  rw [sized, ok_bind]
  exact failsOnlyBy_add begins isSize

/-! ### Promotion -/

/-- What promotion makes of a group that was found in a list. -/
structure PromotionAccounts (ts : List (Transaction α)) (g : RecurringGroup α) : Prop where
  accounts : ∀ id s, promote id g = .ok s → s.AccountsFor ts g.merchantKey
  fails : ∀ id, FailsOnlyBy (· = .tooLarge) (promote id g)
  unrounded : ∀ value : α → ℝ, Scalar.IsUnrounded value → ∀ id,
    ∃ (s : Subscription α) (average : ℝ) (count : Nat), promote id g = .ok s ∧
      s.averageAmount.StandsFor value average ∧ s.occurrences = .int count ∧
      s.totalSpent.StandsFor value (average * count)

/-- In any arithmetic and under any configuration: a group reported on readable transactions is
promoted to a subscription that accounts for the payments of its merchant, unless a sum of whole
numbers is too large for a figure; where nothing is rounded there is none too large, and the total
is the average as often as there are payments. Under numeric thresholds and windows of at most
20000 days there is a report. -/
theorem promotionAccounts_of_detect [LawfulScalar α] {d : Detector α} {ts : List (Transaction α)}
    (readable : ∀ t ∈ ts, t.IsReadable) :
    (∀ groups, d.detect ts = .ok groups → ∀ g ∈ groups, PromotionAccounts ts g) ∧
      ∀ h, d.HasThresholds h → (∀ w ∈ h.windows, w.high ≤ 20000) →
        ∃ groups, d.detect ts = .ok groups := by
  refine ⟨fun groups detected g hg => ?_, fun h hd bounded => ?_⟩
  · have described := (Detector.of_mem_detect readable detected hg).2
    have members : g.members = (timeline ts g.merchantKey).map Member.ofTransaction := by
      rw [described]
      rfl
    have average : g.averageAmount =
        mean ((timeline ts g.merchantKey).map fun t => Scalar.abs t.amountFigure) := by
      rw [described]
      rfl
    have present :=
      ((Detector.mem_detect (Transaction.forall_isLegible readable) detected g).mp hg).1
    have listed : ∀ t ∈ timeline ts g.merchantKey, t.IsReadable :=
      fun t ht => readable t (mem_timeline.mp ht).1
    have amounts : g.members.map (·.amount) = (timeline ts g.merchantKey).map (·.amount) := by
      rw [members, List.map_map]
      rfl
    refine ⟨fun id s => accountsFor_of_promote members (Detector.mem_merchants.mp present),
      fun id => ?_, fun value unrounded id => ?_⟩
    · rw [promote, amounts]
      refine (failsOnlyBy_totalSize ?_).bind fun total _ => .ok _
      rw [List.forall_mem_map]
      exact fun t ht => (listed t ht).amount
    · obtain ⟨total, summed, isTotal⟩ := exists_totalSize_payments unrounded listed
      rw [← average] at isTotal
      have promoted : ∃ s, promote id g = .ok s ∧ s.averageAmount = .real g.averageAmount ∧
          s.occurrences = .int g.members.length ∧ s.totalSpent = total := by
        rw [promote, amounts, summed]
        exact ⟨_, rfl, rfl, rfl, rfl⟩
      obtain ⟨s, done, isAverage, count, isSpent⟩ := promoted
      refine ⟨s, value g.averageAmount, g.members.length, done, ?_, count, ?_⟩
      · rw [isAverage]
        exact ⟨_, rfl, rfl⟩
      · rwa [isSpent, members, List.length_map]
  · obtain ⟨groups, detected, -⟩ := Detector.exists_report hd bounded readable
    exact ⟨groups, detected⟩

theorem promotionAccounts_of_detect_gymPayments :
    ∃ groups, Detector.standard.detect Detector.gymPayments = .ok groups ∧ ∃ g ∈ groups,
      ∃ (s : Subscription ℝ) (average : ℝ), promote (.text "sub-gym") g = .ok s ∧
        s.AccountsFor Detector.gymPayments "gym" ∧ s.occurrences = .int 3 ∧
        s.averageAmount.scalar = .ok average ∧ s.totalSpent.scalar = .ok (average * 3) := by
  obtain ⟨promotes, success⟩ := promotionAccounts_of_detect (d := Detector.standard)
    Detector.readable_gymPayments
  obtain ⟨groups, detected⟩ := success _ RecurringPayments.standard_hasThresholds
    (Thresholds.standard_bounded _)
  obtain ⟨g, hg, key⟩ := Detector.exists_group_gymPayments detected
  obtain ⟨accounts, -, unrounded⟩ := promotes groups detected g hg
  obtain ⟨s, average, count, promoted, ⟨_, isAverage, rfl⟩, occurrences, _, isSpent, total⟩ :=
    unrounded _ Exact.isUnrounded_id (.text "sub-gym")
  have account := accounts _ s promoted
  rw [key] at account
  have three : (ofMerchant Detector.gymPayments "gym").length = 3 := rfl
  obtain rfl : count = 3 := by
    have same := occurrences.symm.trans account.occurrences
    rw [account.count, three, Value.int.injEq, Nat.cast_inj] at same
    exact same
  exact ⟨groups, detected, g, hg, s, _, promoted, account, occurrences, isAverage, total ▸ isSpent⟩

end Subscription

end RecurringPayments
