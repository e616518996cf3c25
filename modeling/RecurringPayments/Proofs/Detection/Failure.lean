import RecurringPayments.Proofs.Detection.Standard
import RecurringPayments.Proofs.Detection.Verdict

/-!
When detection fails. Where every threshold has an order, and every transaction a day and a figure,
one thing alone can go wrong: the next payment of some merchant falls outside the calendar.
-/
namespace RecurringPayments

open Result

variable {α : Type} [Scalar α]

structure Value.IsRange (low high : String) (v : Value α) : Prop where
  low : ∃ a, Settings.entryOf v low = .ok a ∧ a.isOrdered = true
  high : ∃ b, Settings.entryOf v high = .ok b ∧ b.isOrdered = true

def Value.IsRanges (low high : String) (block : Value α) : Prop :=
  ∃ entries, block = .mapping entries ∧ ∀ e ∈ entries, e.2.IsRange low high

structure Transaction.IsFigured (t : Transaction α) : Prop where
  date : ∃ d, t.date = .day d
  amount : ∃ x, t.amount = .real x

/-- A group that foretells a day and lists payments among those given, of the category of the
first. -/
structure RecurringGroup.IsDrawnFrom (g : RecurringGroup α) (ts : List (Transaction α)) : Prop where
  nextDate : ∃ next, g.pattern.nextDate = .day next
  payments : ∃ first rest, first :: rest ⊆ ts ∧
    g.members = (first :: rest).map Member.ofTransaction ∧ g.category = first.category

namespace Charge

theorem mem_assemble {ts : List (Transaction α)} {is : List (Option Int)} {xs : List α}
    {c : Charge α} (hc : c ∈ assemble ts is xs) : c.transaction ∈ ts := by
  fun_induction assemble ts is xs with
  | case1 t ts i is x xs ih =>
    rcases List.mem_cons.mp hc with rfl | later
    · exact .head _
    · exact .tail _ (ih later)
  | case2 => cases hc

theorem mem_ofTransactions {ts : List (Transaction α)} {charges : List (Charge α)}
    (read : ofTransactions ts = .ok charges) {c : Charge α} (hc : c ∈ charges) :
    c.transaction ∈ ts := by
  obtain ⟨ms, xs, -, -, rfl⟩ := exists_of_ofTransactions read
  exact mem_assemble hc

end Charge

namespace Detector

structure IsOrdered (d : Detector α) : Prop where
  minOccurrences : d.minOccurrences.isOrdered = true
  minConfidence : d.minConfidence.isOrdered = true
  maxVariance : d.maxVariance.isOrdered = true
  minSubscriptionConfidence : d.minSubscriptionConfidence.isOrdered = true
  windows : d.windows.IsRanges "min_gap_days" "max_gap_days"
  levels : d.levels.IsRanges "min_score" "max_score"

theorem exists_firstLevel? {confidence : Value α} (ordered : confidence.isOrdered = true)
    {entries : List (Value α × Value α)}
    (ranges : ∀ e ∈ entries, e.2.IsRange "min_score" "max_score") :
    ∃ found, firstLevel? confidence entries = .ok found := by
  induction entries with
  | nil => exact ⟨none, rfl⟩
  | cons e rest ih =>
    rw [List.forall_mem_cons] at ranges
    obtain ⟨⟨⟨low, hlow, lowOrdered⟩, high, hhigh, highOrdered⟩, ranges⟩ := ranges
    obtain ⟨above, habove⟩ := Value.exists_isAtMost lowOrdered ordered
    obtain ⟨below, hbelow⟩ := Value.exists_isBelow ordered highOrdered
    rw [firstLevel?, hlow, ok_bind, habove, ok_bind]
    cases above with
    | false => exact ih ranges
    | true =>
      rw [if_pos rfl, hhigh, ok_bind, hbelow, ok_bind]
      cases below with
      | false => exact ih ranges
      | true => exact ⟨_, rfl⟩

section

variable {d : Detector α} (ordered : d.IsOrdered)
include ordered

theorem exists_confidenceLevel {confidence : Value α} (known : confidence.isOrdered = true) :
    ∃ level, d.confidenceLevel confidence = .ok level := by
  obtain ⟨entries, block, ranges⟩ := ordered.levels
  obtain ⟨found, level⟩ := exists_firstLevel? known ranges
  rw [confidenceLevel, block, Settings.entriesOf, ok_bind, level]
  exact ⟨_, rfl⟩

end

variable {d : Detector α}

theorem ne_nil_of_inferPattern {instants : List (Option Int)} {p : Pattern α}
    (found : d.inferPattern instants = .ok (some p)) : instants ≠ [] := by
  rintro rfl
  have none : d.inferPattern [] = .ok none := rfl
  rw [none] at found
  cases found

theorem IsBuiltFrom.isDrawnFrom {charges : List (Charge α)} {g : RecurringGroup α}
    (built : d.IsBuiltFrom charges g) : g.IsDrawnFrom (charges.map (·.transaction)) := by
  -- Only a group of some payment has a first one, whose category it takes.
  obtain ⟨first, rest, rfl⟩ := List.exists_cons_of_ne_nil
    (mt List.map_eq_nil_iff.mpr (ne_nil_of_inferPattern built.pattern))
  have members : ((first :: rest).map fun c => Member.ofTransaction c.transaction) =
      (first.transaction :: rest.map (·.transaction)).map Member.ofTransaction := by
    rw [← List.map_cons, List.map_map]
    rfl
  exact ⟨exists_nextDate_of_inferPattern built.pattern, _, _, List.Subset.refl _,
    built.members.trans members, built.category⟩

theorem of_detect {ts : List (Transaction α)} {groups : List (RecurringGroup α)}
    (detected : d.detect ts = .ok groups) {g : RecurringGroup α} (hg : g ∈ groups) :
    g.IsDrawnFrom ts := by
  obtain ⟨charges, read, built⟩ := exists_isBuiltFrom detected hg
  obtain ⟨nextDate, first, rest, listed, described⟩ := built.isDrawnFrom
  refine ⟨nextDate, first, rest, fun t ht => ?_, described⟩
  obtain ⟨c, hc, rfl⟩ := List.mem_map.mp (listed ht)
  exact Charge.mem_ofTransactions read (List.mem_filter.mp (List.mem_mergeSort.mp hc)).1

omit [Scalar α] in
theorem isRange_window (low high : Int) :
    (Settings.window low high : Value α).IsRange "min_gap_days" "max_gap_days" :=
  ⟨⟨_, rfl, rfl⟩, _, rfl, rfl⟩

omit [Scalar α] in
theorem isRange_level {low high : Value α} (hl : low.isOrdered = true)
    (hh : high.isOrdered = true) :
    (Settings.level low high).IsRange "min_score" "max_score" :=
  ⟨⟨_, rfl, hl⟩, _, rfl, hh⟩

theorem standard_isOrdered : (standard : Detector α).IsOrdered where
  minOccurrences := rfl
  minConfidence := rfl
  maxVariance := rfl
  minSubscriptionConfidence := rfl
  windows := by
    refine ⟨_, rfl, ?_⟩
    simp only [List.map_cons, List.map_nil, List.forall_mem_cons]
    exact ⟨isRange_window .., isRange_window .., isRange_window .., isRange_window ..,
      isRange_window .., isRange_window .., by simp⟩
  levels := by
    refine ⟨_, rfl, ?_⟩
    simp only [List.map_cons, List.map_nil, List.forall_mem_cons]
    exact ⟨isRange_level rfl rfl, isRange_level rfl rfl, isRange_level rfl rfl,
      isRange_level rfl rfl, by simp⟩

end Detector

end RecurringPayments
