import RecurringPayments.Proofs.Detection.Report
import RecurringPayments.Proofs.Detection.Verdict

/-!
The order in which transactions are given. It decides which of two payments at one instant comes
first in their group, and the order of groups of one confidence, but not who is reported in which
pattern.
-/
namespace RecurringPayments

open Result

variable {α : Type} [Scalar α]

section

variable {ts ts' : List (Transaction α)} (perm : ts.Perm ts') (key : String)
include perm

theorem timeline_perm : (timeline ts key).Perm (timeline ts' key) :=
  (timeline_isTimeline ts key).perm.trans
    ((perm.filter _).trans (timeline_isTimeline ts' key).perm.symm)

theorem instants_eq_of_perm :
    (timeline ts key).map (·.instant) = (timeline ts' key).map (·.instant) :=
  List.Perm.eq_of_pairwise (fun _ _ _ _ => le_antisymm) (instants_ascending ts key)
    (instants_ascending ts' key) ((timeline_perm perm key).map _)

theorem timeline_eq_of_perm (distinct : ((ofMerchant ts key).map (·.instant)).Nodup) :
    timeline ts key = timeline ts' key := by
  have separate : ((timeline ts key).map (·.instant)).Nodup :=
    (((timeline_isTimeline ts key).perm.map _).nodup_iff).mpr distinct
  refine List.Perm.eq_of_pairwise (fun s t hs ht before after => ?_)
    (timeline_isTimeline ts key).ascending (timeline_isTimeline ts' key).ascending
    (timeline_perm perm key)
  exact List.inj_on_of_nodup_map separate hs ((timeline_perm perm key).mem_iff.mpr ht)
    (le_antisymm before after)

theorem mem_merchants_of_perm : key ∈ Detector.merchants ts ↔ key ∈ Detector.merchants ts' := by
  rw [Detector.merchants, Detector.merchants, List.mem_eraseDups, List.mem_eraseDups]
  exact (perm.map _).mem_iff

end

namespace Detector

/-- What two reports on the same transactions have in common, in whatever order these came. -/
structure AgreeOn (ts : List (Transaction α)) (groups groups' : List (RecurringGroup α)) :
    Prop where
  keys : ∀ key, (∃ g ∈ groups, g.merchantKey = key) ↔ ∃ g' ∈ groups', g'.merchantKey = key
  pattern : ∀ g ∈ groups, ∀ g' ∈ groups', g.merchantKey = g'.merchantKey → g.pattern = g'.pattern
  members : ∀ g ∈ groups, ∀ g' ∈ groups', g.merchantKey = g'.merchantKey →
    g.members.Perm g'.members
  whole : ∀ g ∈ groups, ∀ g' ∈ groups', g.merchantKey = g'.merchantKey →
    ((ofMerchant ts g.merchantKey).map (·.instant)).Nodup → g = g'

section

variable [LawfulScalar α] {d : Detector α} {ts ts' : List (Transaction α)}
  (readable : ∀ t ∈ ts, t.IsReadable)

theorem exists_looksSteady {h : Thresholds} (hd : d.HasThresholds h)
    (payments : List (Transaction α)) (pattern : Pattern α) :
    ∃ steady, d.looksSteady payments pattern = .ok steady := by
  obtain ⟨below, weighed⟩ :=
    Value.exists_isBelow (v := .real (variation payments)) rfl hd.maxVariance
  obtain ⟨surer, compared⟩ := Value.exists_isBelow (w := .real pattern.confidence)
    hd.minSubscriptionConfidence rfl
  rw [looksSteady, weighed, ok_bind]
  cases below with
  | true => exact ⟨surer, compared⟩
  | false => exact ⟨false, rfl⟩

include readable in
theorem exists_detect_iff_verdict {h : Thresholds} (hd : d.HasThresholds h) :
    (∃ groups, d.detect ts = .ok groups) ↔ ∀ key ∈ merchants ts,
      ∃ found, d.verdict ((timeline ts key).map (·.instant)) = .ok found := by
  rw [exists_detect_iff (Transaction.forall_isLegible readable)]
  refine forall₂_congr fun key _ => ?_
  constructor
  · rintro ⟨group, ran⟩
    obtain ⟨found, decided, -⟩ := bind_eq_ok_iff.mp ran
    exact ⟨found, decided⟩
  · rintro ⟨found, decided⟩
    rw [report, decided, ok_bind]
    cases found with
    | none => exact ⟨none, rfl⟩
    | some pattern =>
      obtain ⟨steady, looks⟩ := exists_looksSteady hd (timeline ts key) pattern
      rw [groupIn, looks]
      exact ⟨_, rfl⟩

end

section

variable {d : Detector α} {ts ts' : List (Transaction α)} (perm : ts.Perm ts')
  (readable : ∀ t ∈ ts, t.IsReadable)
include perm readable

theorem isReadable_of_perm : ∀ t ∈ ts', t.IsReadable :=
  fun t ht => readable t (perm.mem_iff.mpr ht)

theorem agreeOn_of_perm {groups groups' : List (RecurringGroup α)}
    (detected : d.detect ts = .ok groups) (detected' : d.detect ts' = .ok groups') :
    AgreeOn ts groups groups' := by
  have readable' := isReadable_of_perm perm readable
  constructor
  case keys =>
    intro key
    rw [exists_mem_detect_iff readable detected, exists_mem_detect_iff readable' detected',
      mem_merchants_of_perm perm, instants_eq_of_perm perm]
  case pattern =>
    intro g hg g' hg' same
    have decided := (of_mem_detect readable detected hg).1
    have decided' := (of_mem_detect readable' detected' hg').1
    rw [instants_eq_of_perm perm, same, decided', Except.ok.injEq, Option.some_inj] at decided
    exact decided.symm
  case members =>
    intro g hg g' hg' same
    have described := (of_mem_detect readable detected hg).2
    have described' := (of_mem_detect readable' detected' hg').2
    rw [described, described', describe, describe, same]
    exact (timeline_perm perm _).map _
  case whole =>
    intro g hg g' hg' same distinct
    have ran := ((mem_detect (Transaction.forall_isLegible readable) detected g).mp hg).2
    have ran' := ((mem_detect (Transaction.forall_isLegible readable') detected' g').mp hg').2
    rw [timeline_eq_of_perm perm _ distinct, same, ran', Except.ok.injEq, Option.some_inj] at ran
    exact ran.symm

/-- Detection on transactions in another order: where both runs succeed they agree, and under
numeric thresholds both succeed or none does. -/
theorem detect_of_perm [LawfulScalar α] :
    (∀ groups groups', d.detect ts = .ok groups → d.detect ts' = .ok groups' →
      AgreeOn ts groups groups') ∧
    ∀ h, d.HasThresholds h →
      ((∃ groups, d.detect ts = .ok groups) ↔ ∃ groups, d.detect ts' = .ok groups) ∧
      ((∀ w ∈ h.windows, w.high ≤ 20000) → ∃ groups, d.detect ts = .ok groups) := by
  refine ⟨fun _ _ => agreeOn_of_perm perm readable, fun h hd => ⟨?_, fun bounded => ?_⟩⟩
  · rw [exists_detect_iff_verdict readable hd,
      exists_detect_iff_verdict (isReadable_of_perm perm readable) hd]
    simp only [mem_merchants_of_perm perm, instants_eq_of_perm perm]
  · obtain ⟨groups, detected, -⟩ := exists_report hd bounded readable
    exact ⟨groups, detected⟩

end

theorem exists_group_of_verdict {d : Detector α} {ts : List (Transaction α)}
    {groups : List (RecurringGroup α)} (readable : ∀ t ∈ ts, t.IsReadable)
    (detected : d.detect ts = .ok groups) {key : String} (listed : key ∈ merchants ts)
    (ascending : timeline ts key = ofMerchant ts key)
    (sure : (d.verdict ((ofMerchant ts key).map (·.instant))).toOption.join.isSome = true) :
    ∃ g ∈ groups, g.merchantKey = key := by
  rw [exists_mem_detect_iff readable detected, ascending]
  refine ⟨listed, ?_⟩
  cases decided : d.verdict ((ofMerchant ts key).map (·.instant)) with
  | error fault =>
    rw [decided] at sure
    cases sure
  | ok found =>
    rw [decided] at sure
    obtain ⟨pattern, rfl⟩ := Option.isSome_iff_exists.mp sure
    exact ⟨pattern, rfl⟩

theorem timeline_monthlyPayments :
    timeline monthlyPayments "netflix" = ofMerchant monthlyPayments "netflix" := by
  apply timeline_of_ascending
  decide +kernel

theorem exists_group_monthlyPayments {groups : List (RecurringGroup Float)}
    (detected : standard.detect monthlyPayments = .ok groups) :
    ∃ g ∈ groups, g.merchantKey = "netflix" :=
  exists_group_of_verdict readable_monthlyPayments detected (by decide +kernel)
    timeline_monthlyPayments (by decide +kernel)

theorem detect_of_perm_monthlyPayments :
    ∃ groups groups', (standard : Detector Float).detect monthlyPayments = .ok groups ∧
      (standard : Detector Float).detect monthlyPayments.reverse = .ok groups' ∧
      ∃ g ∈ groups, g.merchantKey = "netflix" ∧ g ∈ groups' := by
  obtain ⟨agree, success⟩ := detect_of_perm (d := (standard : Detector Float))
    (List.reverse_perm monthlyPayments).symm readable_monthlyPayments
  obtain ⟨c, hd⟩ := floatStandard_hasThresholds
  obtain ⟨both, first⟩ := success _ hd
  obtain ⟨groups, detected⟩ := first (Thresholds.standard_bounded _)
  obtain ⟨groups', detected'⟩ := both.mp ⟨groups, detected⟩
  have same := agree groups groups' detected detected'
  have distinct : ((ofMerchant monthlyPayments "netflix").map (·.instant)).Nodup := by
    decide +kernel
  obtain ⟨g, hg, key⟩ := exists_group_monthlyPayments detected
  obtain ⟨g', hg', key'⟩ := (same.keys "netflix").mp ⟨g, hg, key⟩
  have equal := same.whole g hg g' hg' (key.trans key'.symm) (by rwa [key])
  exact ⟨groups, groups', detected, detected', g, hg, key, equal ▸ hg'⟩

end Detector

end RecurringPayments
