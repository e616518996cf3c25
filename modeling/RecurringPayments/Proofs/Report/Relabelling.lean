import RecurringPayments.Report.Basic
import RecurringPayments.Proofs.Detection.Order
import RecurringPayments.Proofs.Rule.Outcome
import RecurringPayments.Proofs.Subscription.Summary

/-!
Rules and the report. Rules relabel transactions, so it does not matter to detection and projection
whether they see the transactions before or after the rules: only categories may differ.
-/
namespace RecurringPayments

open Result

variable {α : Type} [Scalar α]

theorem Rule.exists_relabels {rules : List (Rule α)} (texts : ∀ r ∈ rules, r.HasTexts) :
    ∃ outcome : Transaction α → Outcome α, (∀ t, Rule.applyAll rules t = .ok (outcome t)) ∧
      Transaction.Relabels fun t => (outcome t).transaction := by
  choose outcome run carried _ using fun t => Rule.foldlM_applyTo texts ⟨t, false⟩
  refine ⟨outcome, run, fun t => ?_⟩
  change Member.ofTransaction (outcome t).transaction = Member.ofTransaction t
  rw [carried]
  rfl

namespace Subscription

variable {id : Value α} {g : RecurringGroup α} {s : Subscription α}
  (promoted : promote id g = .ok s)
include promoted

theorem amount_of_promote : ∃ x, s.amount = .real x := by
  obtain ⟨total, -, same⟩ := bind_eq_ok_iff.mp promoted
  cases same
  exact ⟨_, rfl⟩

theorem pattern_of_promote : s.pattern = g.pattern := by
  obtain ⟨total, -, same⟩ := bind_eq_ok_iff.mp promoted
  cases same
  rfl

end Subscription

namespace Analyst

theorem promoteAll_map (groups : List (RecurringGroup α)) :
    promoteAll (groups.map (·.uncategorised)) =
      (promoteAll groups).map (List.map (·.uncategorised)) := by
  have places (gs : List (RecurringGroup α)) :
      ((gs.map (·.uncategorised)).mapIdx fun i g => (i, g)) =
        (gs.mapIdx fun i g => (i, g)).map (Prod.map id (·.uncategorised)) := by
    rw [List.mapIdx_eq_zipIdx_map, List.mapIdx_eq_zipIdx_map, List.zipIdx_map, List.map_map,
      List.map_map]
    rfl
  have steady : (groups.map (·.uncategorised)).filter (·.isSubscription) =
      (groups.filter (·.isSubscription)).map (·.uncategorised) := List.filter_map
  rw [promoteAll, promoteAll, steady, places, List.mapM_map, map_mapM]
  refine congrArg (fun step => List.mapM step _) (funext fun p => ?_)
  exact Subscription.promote_uncategorised (promotedId p.1) p.2

theorem mem_promoteAll {groups : List (RecurringGroup α)} {subs : List (Subscription α)}
    (promoted : promoteAll groups = .ok subs) {s : Subscription α} (hs : s ∈ subs) :
    ∃ id, ∃ g ∈ groups, Subscription.promote id g = .ok s := by
  obtain ⟨p, hp, one⟩ := exists_of_mem_mapM promoted hs
  obtain ⟨i, hi, rfl⟩ := List.mem_mapIdx.mp hp
  exact ⟨_, _, (List.mem_filter.mp (List.getElem_mem hi)).1, one⟩

theorem project_map (a : Analyst α) (groups : List (RecurringGroup α)) (today : When) :
    (a.project (groups.map (·.uncategorised)) today).map (·.uncategorised) =
      (a.project groups today).map (·.uncategorised) := by
  rw [project, project, promoteAll_map]
  cases promoted : promoteAll groups with
  | error fault => rfl
  | ok subs =>
    refine a.projector.summarize_map (fun s hs => ?_) today
    obtain ⟨id, g, -, one⟩ := mem_promoteAll promoted hs
    exact Subscription.amount_of_promote one

theorem project_congr (a : Analyst α) {groups groups' : List (RecurringGroup α)}
    (same : groups'.map (·.uncategorised) = groups.map (·.uncategorised)) (today : When) :
    (a.project groups' today).map (·.uncategorised) =
      (a.project groups today).map (·.uncategorised) := by
  rw [← a.project_map groups', same, a.project_map]

theorem exists_project {a : Analyst α} (numeric : a.projector.IsNumeric)
    {groups : List (RecurringGroup α)}
    (dated : ∀ g ∈ groups, ∃ day, g.pattern.nextDate = .day day)
    (totals : ∀ g ∈ groups, ∃ total, Subscription.totalSize (g.members.map (·.amount)) = .ok total)
    {today : When} {day : Date} (seen : today.toDate = .ok day) :
    ∃ summary, a.project groups today = .ok summary := by
  have each : ∀ p ∈ (groups.filter (·.isSubscription)).mapIdx fun i g => (i, g),
      ∃ s, Subscription.promote (promotedId p.1) p.2 = .ok s := by
    intro p hp
    obtain ⟨i, hi, rfl⟩ := List.mem_mapIdx.mp hp
    obtain ⟨total, summed⟩ := totals _ (List.mem_filter.mp (List.getElem_mem hi)).1
    rw [Subscription.promote, summed]
    exact ⟨_, rfl⟩
  obtain ⟨subs, promoted⟩ := exists_mapM each
  rw [project, promoteAll, promoted]
  refine Projector.exists_summarize numeric (fun s hs => ?_) seen
  obtain ⟨id, g, hg, one⟩ := mem_promoteAll promoted hs
  exact ⟨Subscription.amount_of_promote one, Subscription.pattern_of_promote one ▸ dated g hg⟩

/-- Of two lists of transactions, the second after rules: a run on either ends alike, with the same
groups but for their categories and the same summary but for what it says of them. -/
structure SameButCategories [LawfulScalar α] (a : Analyst α) (rules : List (Rule α))
    (ts ts' : List (Transaction α)) : Prop where
  groups : (a.detector.detect ts').map (List.map (·.uncategorised)) =
    (a.detector.detect ts).map (List.map (·.uncategorised))
  category : ∀ groups, a.detector.detect ts' = .ok groups → ∀ g ∈ groups, ∃ first outcome,
    (timeline ts g.merchantKey).head? = some first ∧
      g.members.head? = some (Member.ofTransaction first) ∧
      Rule.applyAll rules first = .ok outcome ∧ g.category = outcome.transaction.category
  summary : ∀ groups groups', a.detector.detect ts = .ok groups →
    a.detector.detect ts' = .ok groups' → ∀ today,
      (a.project groups' today).map (·.uncategorised) =
        (a.project groups today).map (·.uncategorised)
  detects : ∀ h, a.detector.HasThresholds h → (∀ w ∈ h.windows, w.high ≤ 20000) →
    ∃ groups groups', a.detector.detect ts = .ok groups ∧ a.detector.detect ts' = .ok groups'
  projects : a.projector.IsNumeric → ∀ groups, a.detector.detect ts = .ok groups →
    (∀ g ∈ groups, ∃ total, Subscription.totalSize (g.members.map (·.amount)) = .ok total) →
      ∀ today day, today.toDate = .ok day → ∃ summary, a.project groups today = .ok summary

/-- Rules whose actions hold texts can be carried out on readable transactions, and then only
categories differ. -/
theorem sameButCategories_of_rules [LawfulScalar α] (a : Analyst α) {rules : List (Rule α)}
    (texts : ∀ r ∈ rules, r.HasTexts) {ts : List (Transaction α)}
    (readable : ∀ t ∈ ts, t.IsReadable) :
    ∃ outcomes, Rule.applyToMany rules ts = .ok outcomes ∧
      a.SameButCategories rules ts (outcomes.map (·.transaction)) := by
  obtain ⟨outcome, run, relabels⟩ := Rule.exists_relabels texts
  have alike := Detector.detect_map (d := a.detector) relabels readable
  refine ⟨ts.map outcome, mapM_eq_map fun t _ => run t, ?_⟩
  have after : (ts.map outcome).map (·.transaction) = ts.map fun t => (outcome t).transaction :=
    List.map_map
  rw [after]
  constructor
  case groups => exact alike
  case category =>
    intro groups detected g hg
    obtain ⟨earliest, head, member, category⟩ :=
      Detector.exists_earliest (relabels.isReadable readable) detected hg
    rw [relabels.timeline_map, List.head?_map] at head
    obtain ⟨first, hfirst, rfl⟩ := Option.map_eq_some_iff.mp head
    rw [relabels first] at member
    exact ⟨first, outcome first, hfirst, member, run first, category⟩
  case summary =>
    intro groups groups' detected detected' today
    refine a.project_congr ?_ today
    have same := alike
    rw [detected, detected'] at same
    exact Except.ok.inj same
  case detects =>
    intro h hd bounded
    obtain ⟨groups, detected, -⟩ := Detector.exists_report hd bounded readable
    obtain ⟨groups', detected', -⟩ :=
      Detector.exists_report hd bounded (relabels.isReadable readable)
    exact ⟨groups, groups', detected, detected'⟩
  case projects =>
    intro numeric groups detected totals today day seen
    refine exists_project numeric (fun g hg => ?_) totals seen
    exact Detector.exists_nextDate (Detector.of_mem_detect readable detected hg).1

def streamingRules : List (Rule Float) :=
  [{ id := "streaming", name := .text "Streaming"
     conditions := [⟨.text, .text "merchant", .text "contains", .text "netflix", .text ""⟩]
     actions := some [⟨.text "setCategory", .text "Streaming", .text ""⟩] }]

open Detector in
theorem earliest_monthlyPayments : ∃ first,
    (timeline monthlyPayments "netflix").head? = some first ∧ first.category = .text "Other" ∧
      ∃ o, Rule.applyAll streamingRules first = .ok o ∧
        o.transaction.category = .text "Streaming" := by
  rw [timeline_monthlyPayments]
  exact ⟨_, rfl, rfl, _, rfl, rfl⟩

open Detector in
theorem totals_monthlyPayments {groups : List (RecurringGroup Float)}
    (detected : standard.detect monthlyPayments = .ok groups) :
    ∀ g ∈ groups, ∃ total, Subscription.totalSize (g.members.map (·.amount)) = .ok total := by
  have whole : ∀ t ∈ monthlyPayments, ∃ n, t.amount = .int n := by simp [monthlyPayments, payment]
  intro g hg
  have members : g.members = (timeline monthlyPayments g.merchantKey).map Member.ofTransaction := by
    rw [(of_mem_detect readable_monthlyPayments detected hg).2]
    rfl
  refine Subscription.exists_totalSize ?_
  rw [members, List.map_map, List.forall_mem_map]
  exact fun t ht => whole t (mem_timeline.mp ht).1

open Detector in
theorem sameButCategories_of_rules_streamingRules :
    ∃ outcomes groups groups' summary summary',
      Rule.applyToMany streamingRules monthlyPayments = .ok outcomes ∧
      standard.detect monthlyPayments = .ok groups ∧
      standard.detect (outcomes.map (·.transaction)) = .ok groups' ∧
      (∃ g ∈ groups, g.merchantKey = "netflix" ∧ g.category = .text "Other") ∧
      (∃ g ∈ groups', g.merchantKey = "netflix" ∧ g.category = .text "Streaming") ∧
      (⟨standard, .standard⟩ : Analyst Float).project groups (.day ⟨738220, by decide⟩) =
        .ok summary ∧
      (⟨standard, .standard⟩ : Analyst Float).project groups' (.day ⟨738220, by decide⟩) =
        .ok summary' ∧
      summary'.uncategorised = summary.uncategorised := by
  have texts : ∀ r ∈ streamingRules, r.HasTexts := by
    simp [streamingRules, Rule.HasTexts, Value.isText]
  obtain ⟨outcomes, run, same⟩ := sameButCategories_of_rules ⟨standard, .standard⟩ texts
    readable_monthlyPayments
  obtain ⟨c, hd⟩ := floatStandard_hasThresholds
  obtain ⟨groups, groups', detected, detected'⟩ := same.detects _ hd (Thresholds.standard_bounded c)
  obtain ⟨first, head, before, o, ran, after⟩ := earliest_monthlyPayments
  obtain ⟨g, hg, key⟩ := exists_group_monthlyPayments detected
  have category : g.category = .text "Other" := by
    obtain ⟨earliest, found, -, category⟩ := exists_earliest readable_monthlyPayments detected hg
    rw [key, head, Option.some_inj] at found
    rw [category, ← found, before]
  have alike := same.groups
  rw [detected, detected'] at alike
  have listed : g.uncategorised ∈ groups'.map (·.uncategorised) := by
    rw [Except.ok.inj alike]
    exact List.mem_map_of_mem hg
  obtain ⟨g', hg', uncategorised⟩ := List.mem_map.mp listed
  have key' : g'.merchantKey = "netflix" := (congrArg (·.merchantKey) uncategorised).trans key
  have category' : g'.category = .text "Streaming" := by
    obtain ⟨earliest, outcome, found, -, applied, category⟩ :=
      same.category groups' detected' g' hg'
    rw [key', head, Option.some_inj] at found
    rw [← found, ran, Except.ok.injEq] at applied
    rw [category, ← applied, after]
  obtain ⟨summary, projected⟩ := same.projects Projector.standard_isNumeric groups detected
    (totals_monthlyPayments detected) (.day ⟨738220, by decide⟩) _ rfl
  obtain ⟨summary', projected', summaries⟩ :=
    exists_of_map_eq (same.summary groups groups' detected detected' (.day ⟨738220, by decide⟩))
      projected
  exact ⟨outcomes, groups, groups', summary, summary', run, detected, detected',
    ⟨g, hg, key, category⟩, ⟨g', hg', key', category'⟩, projected, projected', summaries⟩

end Analyst

end RecurringPayments
