import RecurringPayments.Proofs.Detection.Failure
import RecurringPayments.Proofs.Report.Relabelling
import RecurringPayments.Proofs.Report.RuleSplit
import RecurringPayments.Proofs.Rule.Validity
import RecurringPayments.Proofs.Subscription.Upcoming

/-!
When a report is completed: as soon as detection succeeds, on transactions that a table can show.
-/
namespace RecurringPayments

open Result

variable {α : Type} [Scalar α]

/-- A transaction of a day and a figure, with texts for its id and its tags. -/
structure Transaction.IsPresentable (t : Transaction α) : Prop extends t.IsFigured where
  id : t.id.isText = true
  tags : ∀ tag ∈ t.tags, tag.isText = true

omit [Scalar α] in
theorem Value.isText_iff {v : Value α} : v.isText = true ↔ ∃ s, v = .text s := by
  cases v <;> simp [isText]

/-! ### Rules -/

theorem Rule.hasTexts_of_isValid {r : Rule α} (valid : r.isValid = true) : r.HasTexts := by
  rw [isValid, List.isEmpty_iff, problems, List.append_eq_nil_iff, List.append_eq_nil_iff,
    numbered_eq_nil_iff] at valid
  obtain ⟨⟨-, someAction⟩, sound⟩ := valid
  cases hactions : r.actions with
  | none =>
    rw [hactions] at someAction
    cases someAction
  | some actions =>
    rw [hactions, Option.getD_some] at sound
    refine ⟨actions, hactions, fun a ha => ?_⟩
    obtain ⟨s, -, value⟩ := (a.problems_eq_nil_iff.mp (sound a ha)).value
    rw [value]
    rfl

omit [Scalar α] in
theorem Transaction.IsPresentable.afterAll {t : Transaction α} (h : t.IsPresentable)
    (actions : List (Action α)) : (t.afterAll actions).IsPresentable where
  date := h.date
  amount := h.amount
  id := h.id
  tags := by
    intro tag htag
    rcases List.mem_append.mp htag with old | new
    · exact h.tags tag old
    · obtain ⟨s, -, rfl⟩ := List.mem_map.mp new
      rfl

theorem Rule.transactions_applyToMany {rules : List (Rule α)} (texts : ∀ r ∈ rules, r.HasTexts)
    (ts : List (Transaction α)) :
    ∃ outcomes, Rule.applyToMany rules ts = .ok outcomes ∧
      outcomes.map (·.transaction) = ts.map fun t => t.afterAll (carriedOut rules t) := by
  choose outcome run transaction _ using fun t => Rule.foldlM_applyTo texts ⟨t, false⟩
  refine ⟨ts.map outcome, mapM_eq_map fun t _ => run t, ?_⟩
  rw [List.map_map]
  exact List.map_congr_left fun t _ => transaction t

theorem Rule.exists_applyToMany {rules : List (Rule α)} (texts : ∀ r ∈ rules, r.HasTexts)
    {ts : List (Transaction α)} (presentable : ∀ t ∈ ts, t.IsPresentable) :
    ∃ outcomes, Rule.applyToMany rules ts = .ok outcomes ∧
      ∀ o ∈ outcomes, o.transaction.IsPresentable := by
  obtain ⟨outcomes, applied, after⟩ := Rule.transactions_applyToMany texts ts
  refine ⟨outcomes, applied, ?_⟩
  rw [← List.forall_mem_map (P := fun t : Transaction α => t.IsPresentable), after,
    List.forall_mem_map]
  exact fun t ht => (presentable t ht).afterAll _

/-! ### Rows -/

theorem exists_writeTransactions {ts : List (Transaction α)}
    (presentable : ∀ t ∈ ts, t.IsPresentable) : ∃ text, writeTransactions ts = .ok text := by
  have each : ∀ t ∈ ts, ∃ cells, t.cells = .ok cells := by
    intro t ht
    obtain ⟨⟨⟨d, date⟩, -⟩, -, tags⟩ := presentable t ht
    have texts : ∀ tag ∈ t.tags, ∃ s, Transaction.tagText tag = .ok s := by
      intro tag htag
      obtain ⟨s, rfl⟩ := Value.isText_iff.mp (tags tag htag)
      exact ⟨_, rfl⟩
    obtain ⟨joined, tagged⟩ := exists_mapM texts
    rw [Transaction.cells, Transaction.dateCell, date, Transaction.tagsCell, tagged]
    exact ⟨_, rfl⟩
  obtain ⟨rows, cells⟩ := exists_mapM each
  rw [writeTransactions, cells]
  exact ⟨_, rfl⟩

theorem GroupRow.exists_ofGroup {d : Detector α} (ordered : d.IsOrdered)
    {ts : List (Transaction α)} (presentable : ∀ t ∈ ts, t.IsPresentable) {g : RecurringGroup α}
    (drawn : g.IsDrawnFrom ts) : ∃ row, ofGroup d g = .ok row := by
  obtain ⟨⟨next, nextDate⟩, first, rest, listed, members, -⟩ := drawn
  obtain ⟨level, hlevel⟩ :=
    Detector.exists_confidenceLevel ordered
      (rfl : (Value.real g.pattern.confidence).isOrdered = true)
  have texts : ∀ m ∈ g.members, ∃ s, Transaction.tagText m.id = .ok s := by
    rw [members, List.forall_mem_map]
    intro t ht
    obtain ⟨s, id⟩ := Value.isText_iff.mp (presentable t (listed ht)).id
    refine ⟨s.toList, ?_⟩
    change Transaction.tagText t.id = _
    rw [id]
    rfl
  obtain ⟨ids, shown⟩ := exists_mapM texts
  rw [ofGroup, hlevel, ok_bind, nextDate, shown]
  exact ⟨_, rfl⟩

theorem BillRow.exists_ofBill {b : Bill α} (figure : ∃ x, b.estimatedAmount = .real x) :
    ∃ row, ofBill b = .ok row := by
  obtain ⟨x, figure⟩ := figure
  rw [ofBill, figure]
  exact ⟨_, rfl⟩

theorem Bill.of_mem_upcoming {window : Value α} {subs : List (Subscription α)} {today : When}
    {bills : List (Bill α)} (found : upcoming window subs today = .ok bills) {b : Bill α}
    (hb : b ∈ bills) :
        b.subscription ∈ subs ∧ b.estimatedAmount = b.subscription.averageAmount := by
  obtain ⟨unsorted, each, sorted⟩ := bind_eq_ok_iff.mp found
  cases sorted
  rw [List.mem_mergeSort, mem_filterMapM each] at hb
  obtain ⟨s, hs, made⟩ := hb
  obtain ⟨own, estimated⟩ := of_ofSubscription made
  rw [own]
  exact ⟨hs, estimated⟩

/-! ### The report -/

theorem Subscription.exists_totalSizeFrom {amounts : List (Value α)}
    (figures : ∀ v ∈ amounts, ∃ x, v = .real x) (start : α) :
    ∃ total,
      amounts.foldlM (fun (total a : Value α) => do total.add (← a.magnitude)) (.real start) =
      .ok total := by
  induction amounts generalizing start with
  | nil => exact ⟨_, rfl⟩
  | cons v rest ih =>
    rw [List.forall_mem_cons] at figures
    obtain ⟨⟨x, rfl⟩, figures⟩ := figures
    exact ih figures (Scalar.add start (Scalar.abs x))

/-- Figures have a total: the sum starts at a whole zero, which is taken for a figure. -/
theorem Subscription.exists_totalSize_of_reals (zero : Scalar.inRange (α := α) 0 = true)
    {amounts : List (Value α)} (figures : ∀ v ∈ amounts, ∃ x, v = .real x) :
    ∃ total, totalSize amounts = .ok total := by
  cases amounts with
  | nil => exact ⟨_, rfl⟩
  | cons v rest =>
    rw [List.forall_mem_cons] at figures
    obtain ⟨⟨x, rfl⟩, figures⟩ := figures
    have first : (Value.int 0).add (.real (Scalar.abs x)) =
        .ok (.real (Scalar.add (Scalar.ofInt 0) (Scalar.abs x))) := by
      change (Value.wholeAsScalar 0 >>= fun a =>
        pure (Value.real (Scalar.add a (Scalar.abs x)))) = _
      rw [Value.wholeAsScalar, if_pos zero]
      rfl
    have later := exists_totalSizeFrom figures (Scalar.add (Scalar.ofInt 0) (Scalar.abs x))
    rw [totalSize, List.foldlM_cons, Value.magnitude, ok_bind, first]
    exact later

structure Report.IsMadeBy (report : Report α) (a : Analyst α) (ts : List (Transaction α))
    (rules : List (Rule α)) (today : When) : Prop where
  groups : a.detector.detect ts = .ok report.groups
  summary : a.project report.groups today = .ok report.summary
  rejectedRules : report.rejectedRules = (RuleSplit.ofRules rules).rejected
  groupRows : report.groups.mapM (GroupRow.ofGroup a.detector) = .ok report.groupRows
  billRows : report.summary.upcomingBills.mapM BillRow.ofBill = .ok report.billRows
  transactionsText : ∃ outcomes,
    Rule.applyToMany (RuleSplit.ofRules rules).usable ts = .ok outcomes ∧
    writeTransactions (outcomes.map (·.transaction)) = .ok report.transactionsText

namespace Analyst

theorem isMadeBy_of_report {a : Analyst α} {ts : List (Transaction α)} {rules : List (Rule α)}
    {today : When} {report : Report α} (done : a.report ts rules today = .ok report) :
    report.IsMadeBy a ts rules today := by
  obtain ⟨groups, detected, done⟩ := bind_eq_ok_iff.mp done
  obtain ⟨summary, projected, done⟩ := bind_eq_ok_iff.mp done
  obtain ⟨outcomes, applied, done⟩ := bind_eq_ok_iff.mp done
  obtain ⟨groupRows, hgroupRows, done⟩ := bind_eq_ok_iff.mp done
  obtain ⟨billRows, hbillRows, done⟩ := bind_eq_ok_iff.mp done
  obtain ⟨text, written, done⟩ := bind_eq_ok_iff.mp done
  cases done
  exact ⟨detected, projected, rfl, hgroupRows, hbillRows, outcomes, applied, written⟩

theorem of_project {a : Analyst α} {groups : List (RecurringGroup α)} {today : When}
    {summary : Summary α} (projected : a.project groups today = .ok summary) :
    ∃ subs, promoteAll groups = .ok subs ∧ summary.active = Subscription.active subs ∧
      Bill.upcoming a.projector.window (Subscription.active subs) today =
        .ok summary.upcomingBills ∧
      summary.statusCounts = Subscription.statusCounts subs := by
  obtain ⟨subs, promoted, summed⟩ := bind_eq_ok_iff.mp projected
  obtain ⟨cost, -, summed⟩ := bind_eq_ok_iff.mp summed
  obtain ⟨day, -, summed⟩ := bind_eq_ok_iff.mp summed
  obtain ⟨bills, found, summed⟩ := bind_eq_ok_iff.mp summed
  obtain ⟨spending, -, summed⟩ := bind_eq_ok_iff.mp summed
  obtain ⟨some, -, summed⟩ := bind_eq_ok_iff.mp summed
  cases summed
  exact ⟨subs, promoted, rfl, found, rfl⟩

theorem exists_estimatedAmount {a : Analyst α} {groups : List (RecurringGroup α)} {today : When}
    {summary : Summary α} (projected : a.project groups today = .ok summary) {b : Bill α}
    (hb : b ∈ summary.upcomingBills) : ∃ x, b.estimatedAmount = .real x := by
  obtain ⟨subs, promoted, -, found, -⟩ := of_project projected
  obtain ⟨listed, estimated⟩ := Bill.of_mem_upcoming found hb
  obtain ⟨id, g, -, one⟩ := mem_promoteAll promoted (List.mem_filter.mp listed).1
  obtain ⟨total, -, same⟩ := bind_eq_ok_iff.mp one
  rw [estimated, ← Except.ok.inj same]
  exact ⟨_, rfl⟩

/-- Nothing but detection can keep a report from being completed. -/
theorem exists_report {a : Analyst α} (ordered : a.detector.IsOrdered)
    (numeric : a.projector.IsNumeric) (zero : Scalar.inRange (α := α) 0 = true)
    {ts : List (Transaction α)} (presentable : ∀ t ∈ ts, t.IsPresentable)
    {groups : List (RecurringGroup α)} (detected : a.detector.detect ts = .ok groups)
    (rules : List (Rule α)) (today : Date) :
    ∃ report, a.report ts rules (.day today) = .ok report := by
  have drawn {g : RecurringGroup α} (hg : g ∈ groups) : g.IsDrawnFrom ts :=
    Detector.of_detect detected hg
  have totals : ∀ g ∈ groups, ∃ total,
      Subscription.totalSize (g.members.map (·.amount)) = .ok total := by
    intro g hg
    obtain ⟨first, rest, listed, members, -⟩ := (drawn hg).payments
    refine Subscription.exists_totalSize_of_reals zero ?_
    rw [members, List.map_map, List.forall_mem_map]
    exact fun t ht => (presentable t (listed ht)).amount
  obtain ⟨summary, projected⟩ :=
    exists_project numeric (fun g hg => (drawn hg).nextDate) totals
      (rfl : (When.day today).toDate = .ok today)
  have texts : ∀ r ∈ (RuleSplit.ofRules rules).usable, r.HasTexts := by
    rw [RuleSplit.usable_ofRules]
    exact fun r hr => Rule.hasTexts_of_isValid (List.mem_filter.mp hr).2
  obtain ⟨outcomes, applied, shown⟩ := Rule.exists_applyToMany texts presentable
  obtain ⟨groupRows, hgroupRows⟩ :=
    exists_mapM fun g hg => GroupRow.exists_ofGroup ordered presentable (drawn hg)
  have bills : ∀ b ∈ summary.upcomingBills, ∃ row, BillRow.ofBill b = .ok row :=
    fun b hb => BillRow.exists_ofBill (exists_estimatedAmount projected hb)
  obtain ⟨billRows, hbillRows⟩ := exists_mapM bills
  obtain ⟨text, written⟩ := exists_writeTransactions (List.forall_mem_map.mpr shown)
  rw [report, detected, ok_bind, projected, ok_bind]
  simp only [applied, hgroupRows, hbillRows, written, ok_bind]
  exact ⟨_, rfl⟩

def standard : Analyst α := ⟨.standard, .standard⟩

theorem ofSettings_none : ofSettings (Settings.none : Settings α) = .ok standard := rfl

theorem exists_report_standard {ts : List (Transaction Float)}
    (presentable : ∀ t ∈ ts, t.IsPresentable) {groups : List (RecurringGroup Float)}
    (detected : Detector.standard.detect ts = .ok groups) (rules : List (Rule Float))
    (today : Date) : ∃ report, standard.report ts rules (.day today) = .ok report :=
  exists_report (a := standard) Detector.standard_isOrdered Projector.standard_isNumeric
    (by decide +kernel) presentable detected rules today

end Analyst

end RecurringPayments
