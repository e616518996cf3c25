import RecurringPayments.Proofs.Detection.Evenness
import RecurringPayments.Proofs.Detection.Matching
import RecurringPayments.Proofs.Number.Scaling

/-!
One merchant's amounts in another unit, each with its sign or the other one. In exact arithmetic
detection decides as before: it looks at the dates, and at amounts only by their sizes relative to
one another. The average amount of that merchant's group is the one figure that shows the unit.
-/
namespace RecurringPayments

open Result

/-! ### Amounts in another unit -/

def Value.IsScaled (c : ℝ) (v w : Value ℝ) : Prop :=
  ∃ x, v.scalar = .ok x ∧ (w.scalar = .ok (c * x) ∨ w.scalar = .ok (-(c * x)))

structure Transaction.IsScaled (c : ℝ) (t t' : Transaction ℝ) : Prop where
  amount : t.amount.IsScaled c t'.amount
  same : t' = { t with amount := t'.amount }

structure Member.IsScaled (c : ℝ) (m m' : Member ℝ) : Prop where
  amount : m.amount.IsScaled c m'.amount
  same : m' = { m with amount := m'.amount }

structure RecurringGroup.IsScaled (c : ℝ) (g g' : RecurringGroup ℝ) : Prop where
  members : List.Forall₂ (Member.IsScaled c) g.members g'.members
  averageAmount : g'.averageAmount = c * g.averageAmount
  same : g' = { g with members := g'.members, averageAmount := g'.averageAmount }

structure Transaction.IsScaledAt (key : String) (c : ℝ) (t t' : Transaction ℝ) : Prop where
  own : t.key = key → t.IsScaled c t'
  other : t.key ≠ key → t' = t

structure RecurringGroup.IsScaledAt (key : String) (c : ℝ) (g g' : RecurringGroup ℝ) : Prop where
  own : g.merchantKey = key → g.IsScaled c g'
  other : g.merchantKey ≠ key → g' = g

variable {c : ℝ}

theorem Value.IsScaled.exists_size (positive : 0 < c) {v w : Value ℝ} (scaled : v.IsScaled c w) :
    ∃ x y, v.scalar = .ok x ∧ w.scalar = .ok y ∧ |y| = c * |x| := by
  obtain ⟨x, number, kept | turned⟩ := scaled
  · exact ⟨x, _, number, kept, by rw [abs_mul, abs_of_pos positive]⟩
  · exact ⟨x, _, number, turned, by rw [abs_neg, abs_mul, abs_of_pos positive]⟩

namespace Transaction

namespace IsScaled

variable {t t' : Transaction ℝ} (scaled : t.IsScaled c t')
include scaled

theorem key : t'.key = t.key := by
  rw [scaled.same]
  rfl

theorem instant : t'.instant = t.instant := by
  rw [scaled.same]
  rfl

theorem category : t'.category = t.category := by
  rw [scaled.same]

theorem isReadable (positive : 0 < c) (readable : t.IsReadable) : t'.IsReadable := by
  obtain ⟨-, y, -, number, -⟩ := scaled.amount.exists_size positive
  refine ⟨?_, y, number⟩
  rw [scaled.same]
  exact readable.date

theorem size (positive : 0 < c) :
    Scalar.abs t'.amountFigure = c * Scalar.abs t.amountFigure := by
  obtain ⟨x, y, number, number', size⟩ := scaled.amount.exists_size positive
  rw [amountFigure, amountFigure, number, number']
  exact size

theorem member : (Member.ofTransaction t).IsScaled c (Member.ofTransaction t') := by
  refine ⟨scaled.amount, ?_⟩
  rw [scaled.same]
  rfl

end IsScaled

namespace IsScaledAt

variable {key : String} {t t' : Transaction ℝ} (scaled : t.IsScaledAt key c t')
include scaled

theorem key_eq : t'.key = t.key := by
  by_cases h : t.key = key
  · exact (scaled.own h).key
  · rw [scaled.other h]

theorem instant : t'.instant = t.instant := by
  by_cases h : t.key = key
  · exact (scaled.own h).instant
  · rw [scaled.other h]

theorem isReadable (positive : 0 < c) (readable : t.IsReadable) : t'.IsReadable := by
  by_cases h : t.key = key
  · exact (scaled.own h).isReadable positive readable
  · rwa [scaled.other h]

end IsScaledAt

end Transaction

theorem RecurringGroup.IsScaledAt.pattern {key : String} {g g' : RecurringGroup ℝ}
    (scaled : g.IsScaledAt key c g') : g'.pattern = g.pattern := by
  by_cases h : g.merchantKey = key
  · rw [(scaled.own h).same]
  · rw [scaled.other h]

namespace Detector

/-! ### One merchant -/

section

variable (positive : 0 < c) {payments payments' : List (Transaction ℝ)}
  (scaled : List.Forall₂ (Transaction.IsScaled c) payments payments')
include positive scaled

theorem sizes_scaled : payments'.map (fun t => Scalar.abs t.amountFigure) =
    (payments.map fun t => Scalar.abs t.amountFigure).map (c * ·) := by
  rw [List.map_map]
  exact (map_eq_map_of_forall₂ scaled fun t t' h => (h.size positive).symm).symm

theorem variation_scaled : variation payments' = variation payments := by
  rw [variation, variation, sizes_scaled positive scaled]
  simp only [Exact.mean_map_mul]
  exact Exact.relativeVariation_map_mul positive.ne' _ _

theorem describe_scaled (key : String) (pattern : Pattern ℝ) (isSubscription : Bool) :
    (describe key payments pattern isSubscription).IsScaled c
      (describe key payments' pattern isSubscription) := by
  have categories : payments.map (·.category) = payments'.map (·.category) :=
    map_eq_map_of_forall₂ scaled fun t t' h => h.category.symm
  refine ⟨?_, ?_, ?_⟩
  · rw [describe, describe, List.forall₂_map_left_iff, List.forall₂_map_right_iff]
    exact scaled.imp fun t t' h => h.member
  · rw [describe, describe, sizes_scaled positive scaled, Exact.mean_map_mul]
  · rw [describe, describe, variation_scaled positive scaled, ← List.head?_map, ← List.head?_map,
      categories]

theorem report_scaled (d : Detector ℝ) (key : String) :
    Alike (Option.Rel (RecurringGroup.IsScaledAt key c)) (d.report key payments)
      (d.report key payments') := by
  have instants : payments.map (·.instant) = payments'.map (·.instant) :=
    map_eq_map_of_forall₂ scaled fun t t' h => h.instant.symm
  -- The verdict is taken on the instants alone, and the looks on the relative variation.
  rw [report, report, ← instants]
  refine (Alike.refl (R := Eq) fun _ _ => rfl).bind ?_
  rintro (_ | pattern) _ rfl
  · exact .ok .none
  · rw [groupIn, groupIn, looksSteady, looksSteady, variation_scaled positive scaled]
    refine (Alike.refl (R := Eq) fun _ _ => rfl).bind ?_
    rintro isSubscription _ rfl
    exact .ok (.some ⟨fun _ => describe_scaled positive scaled key pattern isSubscription,
      fun other => absurd rfl other⟩)

end

theorem matchesGroup_scaled (positive : 0 < c) (d : Detector ℝ) {g g' : RecurringGroup ℝ}
    (scaled : g.IsScaled c g') {t t' : Transaction ℝ} (scaled' : t.IsScaled c t') :
    d.matchesGroup t' g' = d.matchesGroup t g := by
  obtain ⟨x, y, number, number', size⟩ := scaled'.amount.exists_size positive
  have merchantKey : g'.merchantKey = g.merchantKey := by rw [scaled.same]
  rw [matchesGroup_eq d g number, matchesGroup_eq d g' number', scaled'.key, merchantKey, size,
    scaled.averageAmount, Exact.similarAmounts_mul positive]

/-! ### All merchants -/

section

variable (positive : 0 < c) {key : String} {ts ts' : List (Transaction ℝ)}
  (scaled : List.Forall₂ (Transaction.IsScaledAt key c) ts ts')
include scaled

theorem timeline_scaled (other : String) :
    List.Forall₂ (Transaction.IsScaledAt key c) (timeline ts other) (timeline ts' other) :=
  timeline_rel scaled (fun t t' h => h.key_eq) (fun s s' t t' h h' => by rw [h.instant, h'.instant])
    other

theorem timeline_scaled_own :
    List.Forall₂ (Transaction.IsScaled c) (timeline ts key) (timeline ts' key) := by
  have own := (List.forall₂_and_left (p := (·.key = key)) _ _).mpr
    ⟨fun _ ht => (mem_timeline.mp ht).2, timeline_scaled scaled key⟩
  exact own.imp fun _ _ h => h.2.own h.1

theorem timeline_scaled_other {other : String} (differs : other ≠ key) :
    timeline ts' other = timeline ts other := by
  have own := (List.forall₂_and_left (p := (·.key = other)) _ _).mpr
    ⟨fun _ ht => (mem_timeline.mp ht).2, timeline_scaled scaled other⟩
  have same : List.Forall₂ Eq (timeline ts other) (timeline ts' other) :=
    own.imp fun _ _ h => (h.2.other (h.1.trans_ne differs)).symm
  rw [List.forall₂_eq_eq_eq] at same
  exact same.symm

include positive

theorem report_scaledAt (d : Detector ℝ) (other : String) :
    Alike (Option.Rel (RecurringGroup.IsScaledAt key c)) (d.report other (timeline ts other))
      (d.report other (timeline ts' other)) := by
  by_cases own : other = key
  · subst own
    exact report_scaled positive (timeline_scaled_own scaled) d other
  · rw [timeline_scaled_other scaled own]
    refine Alike.refl fun found reported => ?_
    cases found with
    | none => exact .none
    | some g =>
      obtain ⟨-, -, described⟩ := report_eq_some_iff.mp reported
      have listed : g.merchantKey ≠ key := by
        rw [described]
        exact own
      exact .some ⟨fun same => absurd same listed, fun _ => rfl⟩

variable (readable : ∀ t ∈ ts, t.IsReadable)
include readable

theorem readable_scaled : ∀ t ∈ ts', t.IsReadable := by
  intro t' ht'
  have known := (List.forall₂_and_left (p := Transaction.IsReadable) _ _).mpr ⟨readable, scaled⟩
  obtain ⟨i, hi⟩ := List.mem_iff_getElem?.mp ht'
  obtain ⟨t, -, listed, h⟩ := getElem?_of_forall₂ known i hi
  exact h.isReadable positive listed

theorem detect_scaledAt (d : Detector ℝ) :
    Alike (List.Forall₂ (RecurringGroup.IsScaledAt key c)) (d.detect ts) (d.detect ts') := by
  have listed := readable_scaled positive scaled readable
  rw [detect_eq_reports (Transaction.forall_isLegible readable),
    detect_eq_reports (Transaction.forall_isLegible listed),
    merchants_rel scaled fun _ _ h => h.key_eq]
  refine (Alike.filterMapM fun other _ => report_scaledAt positive scaled d other).bind ?_
  intro groups groups' matched
  refine .ok (forall₂_mergeSort matched fun g h g' h' hg hh => ?_)
  rw [isNoLessSure, isNoLessSure, hg.pattern, hh.pattern]

end

/-- A group after one merchant's amounts were scaled, beside the group before: matching, too, is
as it was for what is scaled as well. -/
structure KeepsProportion (d : Detector ℝ) (key : String) (c : ℝ) (g g' : RecurringGroup ℝ) :
    Prop where
  scaled : g.IsScaledAt key c g'
  matching : g.merchantKey = key → ∀ t t' : Transaction ℝ, t.IsScaled c t' →
    d.matchesGroup t' g' = d.matchesGroup t g

/-- In exact arithmetic, when the amounts of one merchant are multiplied by a positive number,
some of them with the sign turned: detection ends as before, with the same groups in the same
order, but for the amounts and the average amount of that merchant's group, which are multiplied
as well. And under numeric thresholds, with windows of at most 20000 days, it succeeds. -/
theorem detect_keepsProportion (d : Detector ℝ) (positive : 0 < c) {key : String}
    {ts ts' : List (Transaction ℝ)} (readable : ∀ t ∈ ts, t.IsReadable)
    (scaled : List.Forall₂ (Transaction.IsScaledAt key c) ts ts') :
    Alike (List.Forall₂ (d.KeepsProportion key c)) (d.detect ts) (d.detect ts') ∧
      ∀ h, d.HasThresholds h → (∀ w ∈ h.windows, w.high ≤ 20000) →
        ∃ groups, d.detect ts = .ok groups := by
  refine ⟨(detect_scaledAt positive scaled readable d).imp fun groups groups' matched => ?_,
    fun h hd bounded => ?_⟩
  · exact matched.imp fun g g' h =>
      ⟨h, fun own t t' h' => matchesGroup_scaled positive d (h.own own) h'⟩
  · obtain ⟨groups, detected, -⟩ := exists_report hd bounded readable
    exact ⟨groups, detected⟩

noncomputable def gymPaymentsInTens : List (Transaction ℝ) :=
  gymPaymentsFor (.int (-3)) (.real (Scalar.ofInt 3)) (.int 3)

theorem gymPaymentsInTens_scaled :
    List.Forall₂ (Transaction.IsScaledAt "gym" (1 / 10)) gymPayments gymPaymentsInTens := by
  have visit {id merchant : String} (d : Date) (minutes : Nat) {v w : Value ℝ}
      (own : MerchantKey.ofValue (.text merchant : Value ℝ) = "gym") {x : ℝ}
      (number : v.scalar = .ok x)
      (number' : w.scalar = .ok (1 / 10 * x) ∨ w.scalar = .ok (-(1 / 10 * x))) :
      (paidAt id merchant d minutes v).IsScaledAt "gym" (1 / 10) (paidAt id merchant d minutes w) :=
    ⟨fun _ => ⟨⟨x, number, number'⟩, rfl⟩, fun other => absurd own other⟩
  have ride {t : Transaction ℝ} (taxi : t.key ≠ "gym") : t.IsScaledAt "gym" (1 / 10) t :=
    ⟨fun own => absurd own taxi, fun _ => rfl⟩
  have number (n : Int) {x : ℝ} (same : (n : ℝ) = x) : (Value.int n : Value ℝ).scalar = .ok x :=
    congrArg Except.ok same
  have figure (n : Int) {x : ℝ} (same : (n : ℝ) = x) :
      (Value.real (Scalar.ofInt n) : Value ℝ).scalar = .ok x := congrArg Except.ok same
  have gym : ∀ merchant ∈ ["Gym", "GYM Inc.", " gym"],
      MerchantKey.ofValue (.text merchant : Value ℝ) = "gym" := by decide
  have taxi : MerchantKey.ofValue (.text "Taxi" : Value ℝ) ≠ "gym" := by decide
  refine .cons (visit _ _ (gym _ (by simp)) (number 30 rfl) (.inr (number _ ?_))) (.cons (ride taxi)
    (.cons (visit _ _ (gym _ (by simp)) (number (-30) rfl) (.inr (figure _ ?_)))
      (.cons (ride taxi) (.cons (visit _ _ (gym _ (by simp)) (figure 30 rfl) (.inl (number _ ?_)))
        .nil))))
  all_goals norm_num

theorem detect_keepsProportion_gymPayments :
    ∃ groups groups', standard.detect gymPayments = .ok groups ∧
      standard.detect gymPaymentsInTens = .ok groups' ∧
      List.Forall₂ (standard.KeepsProportion "gym" (1 / 10)) groups groups' ∧
      ∃ g ∈ groups, g.merchantKey = "gym" := by
  obtain ⟨alike, success⟩ := detect_keepsProportion standard (by norm_num : (0 : ℝ) < 1 / 10)
    readable_gymPayments gymPaymentsInTens_scaled
  obtain ⟨groups, detected⟩ := success _ RecurringPayments.standard_hasThresholds
    (Thresholds.standard_bounded _)
  obtain ⟨groups', detected', matched⟩ := alike.exists_ok detected
  exact ⟨groups, groups', detected, detected', matched, exists_group_gymPayments detected⟩

end Detector

end RecurringPayments
