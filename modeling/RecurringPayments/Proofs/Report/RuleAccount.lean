import RecurringPayments.Proofs.Report.Completion

/-!
What a report says of the rules it was given. The rules without a problem are carried out; every
other rule has an entry of its own, as long as no two of them have one id.
-/
namespace RecurringPayments

open Result

variable {α : Type} [Scalar α]

/-- How a report accounts for the rules it was given. -/
structure Report.AccountsFor (report : Report α) (rules : List (Rule α))
    (ts : List (Transaction α)) : Prop where
  applied : ∃ outcomes, Rule.applyToMany (rules.filter (·.isValid)) ts = .ok outcomes ∧
    writeTransactions (outcomes.map (·.transaction)) = .ok report.transactionsText
  ids : report.rejectedRules.map (·.1) = ((rejectsOf rules).map (·.id)).eraseDups
  problems : ∀ id, report.rejectedRules.lookup id = (lastReject? rules id).map (·.problems)
  entries : ((rejectsOf rules).map (·.id)).Nodup →
    report.rejectedRules = (rejectsOf rules).map fun r => (r.id, r.problems)
  counted : (rules.filter (·.isValid)).length + report.rejectedRules.length = rules.length ↔
    ((rejectsOf rules).map (·.id)).Nodup

namespace Analyst

/-- A completed report accounts for its rules. -/
theorem report_accountsFor {a : Analyst α} {ts : List (Transaction α)} {rules : List (Rule α)}
    {today : When} {report : Report α} (done : a.report ts rules today = .ok report) :
    report.AccountsFor rules ts := by
  have made := isMadeBy_of_report done
  constructor
  case applied =>
    rw [← RuleSplit.usable_ofRules]
    exact made.transactionsText
  case ids => rw [made.rejectedRules, RuleSplit.ids_ofRules]
  case problems =>
    rw [made.rejectedRules]
    exact RuleSplit.lookup_ofRules rules
  case entries =>
    rw [made.rejectedRules]
    exact RuleSplit.rejected_of_distinct
  case counted => rw [made.rejectedRules, ← RuleSplit.counted_iff, RuleSplit.usable_ofRules]

def gymVisit : Transaction Float where
  id := .text "t-1"
  date := .day ⟨738850, by decide⟩
  amount := .real 30.0
  merchant := .text "City Gym"
  category := .text "Other"
  account := .text "acc-1"
  type := .text "expense"
  status := .text "completed"

theorem gymVisit_isPresentable : ∀ t ∈ [gymVisit], t.IsPresentable := by
  rw [List.forall_mem_singleton]
  exact ⟨⟨⟨_, rfl⟩, _, rfl⟩, rfl, fun _ absent => absurd absent List.not_mem_nil⟩

theorem detect_gymVisit : (Detector.standard : Detector Float).detect [gymVisit] = .ok [] := by
  have readable : ∀ t ∈ [gymVisit], t.IsReadable := by
    rw [List.forall_mem_singleton]
    exact ⟨by decide, _, rfl⟩
  obtain ⟨c, hd⟩ := Detector.floatStandard_hasThresholds
  obtain ⟨groups, detected, report⟩ :=
    Detector.exists_report hd (Thresholds.standard_bounded c) readable
  have none : groups = [] := by
    refine List.eq_nil_iff_forall_not_mem.mpr fun g hg => ?_
    have two := ((report.reported g.merchantKey).mp ⟨g, hg, rfl⟩).two
    have one : (ofMerchant [gymVisit] g.merchantKey).length ≤ 1 := List.length_filter_le ..
    rw [length_timeline] at two
    omega
  exact detected.trans (congrArg Except.ok none)

def gymRule (id name : String) (conditions : List (Condition Float)) : Rule Float where
  id := id
  name := .text name
  conditions := conditions
  actions := some [⟨.text "setCategory", .text "Health", .text ""⟩]

def onGyms : Condition Float := ⟨.text, .text "merchant", .text "contains", .text "Gym", .text ""⟩

def mixedRules : List (Rule Float) :=
  [gymRule "nameless" "" [onGyms], gymRule "gyms" "Gyms" [onGyms], gymRule "all" "All" []]

theorem report_accountsFor_mixedRules :
    ∃ report, standard.report [gymVisit] mixedRules (.day ⟨738885, by decide⟩) = .ok report ∧
      report.AccountsFor mixedRules [gymVisit] ∧
      report.rejectedRules = [("nameless", [.noName]), ("all", [.noConditions])] := by
  obtain ⟨report, done⟩ := exists_report_standard gymVisit_isPresentable detect_gymVisit mixedRules
    ⟨738885, by decide⟩
  have account := report_accountsFor done
  exact ⟨report, done, account, account.entries (by decide +kernel)⟩

def clashingRecords : Value Float :=
  let record (name : String) (conditions : List (Value Float)) : Value Float :=
    .mapping [
      (.text "id", .text "gyms"),
      (.text "name", .text name),
      (.text "conditions", .list conditions),
      (.text "actions", .list [.mapping [
        (.text "type", .text "setCategory"), (.text "value", .text "Health")]])]
  .list [
    record "" [.mapping [
      (.text "field", .text "merchant"), (.text "operator", .text "contains"),
      (.text "value", .text "Gym")]],
    record "Gyms" []]

/-- Of two rules with problems under one id only the second is reported: the account is one short,
and what was wrong with the first is nowhere. -/
theorem report_loses_clashingRecords :
    ∃ first second report, Rule.ofRecords clashingRecords = .ok [first, second] ∧
      standard.report [gymVisit] [first, second] (.day ⟨738885, by decide⟩) = .ok report ∧
      (first.isValid = false ∧ first.problems = [.noName]) ∧
      (second.isValid = false ∧ second.problems = [.noConditions]) ∧
      report.rejectedRules = [("gyms", [.noConditions])] ∧
      ([first, second].filter (·.isValid)).length + report.rejectedRules.length ≠
        [first, second].length := by
  have loaded : ∃ first second, Rule.ofRecords clashingRecords = .ok [first, second] ∧
      (first.isValid = false ∧ first.problems = [.noName]) ∧
      (second.isValid = false ∧ second.problems = [.noConditions]) ∧
      (RuleSplit.ofRules [first, second]).rejected = [("gyms", [.noConditions])] :=
    ⟨_, _, rfl, ⟨rfl, rfl⟩, ⟨rfl, rfl⟩, rfl⟩
  obtain ⟨first, second, loaded, noName, noConditions, filed⟩ := loaded
  obtain ⟨report, done⟩ := exists_report_standard gymVisit_isPresentable detect_gymVisit
    [first, second] ⟨738885, by decide⟩
  have rejected := (isMadeBy_of_report done).rejectedRules.trans filed
  refine ⟨first, second, report, loaded, done, noName, noConditions, rejected, ?_⟩
  rw [rejected]
  simp [noName.1, noConditions.1]

end Analyst

end RecurringPayments
