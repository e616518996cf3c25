import RecurringPayments.Proofs.Report.Completion
import RecurringPayments.Proofs.Table.Written

/-!
The tables of groups and bills: read back, they are a line of names and a line for each row, as long
as the cells that are not figures by their kind are texts.
-/
namespace RecurringPayments

open Result

variable {α : Type} [Scalar α]

omit [Scalar α] in
theorem Value.isWhole_of_isText {v : Value α} (text : v.isText = true) :
    Column.isWhole v = false := by
  obtain ⟨s, rfl⟩ := isText_iff.mp text
  rfl

omit [Scalar α] in
theorem Column.even_map {ρ : Type} {rows : List ρ} {v : ρ → Value α}
    (other : ∀ r ∈ rows, isWhole (v r) = false) : IsEven (rows.map v) :=
  .inr (List.forall_mem_map.mpr other)

namespace GroupRow

def header : Csv.Row := (columns (α := Float)).map (·.1.toList)

def cells (r : GroupRow α) : Csv.Row := columns.map fun c => writtenCell (c.2 r)

structure IsLegible (r : GroupRow α) : Prop where
  category : r.category.isText = true
  level : r.level.isText = true

omit [Scalar α] in
theorem even {rows : List (GroupRow α)} (legible : ∀ r ∈ rows, r.IsLegible) :
    ∀ c ∈ columns, Column.IsEven (rows.map c.2) := by
  have occurrences : Column.IsEven (rows.map fun r => (.int r.occurrences : Value α)) :=
    .inl (List.forall_mem_map.mpr fun _ _ => rfl)
  have category := Column.even_map fun r hr => Value.isWhole_of_isText (legible r hr).category
  have level := Column.even_map fun r hr => Value.isWhole_of_isText (legible r hr).level
  simp only [columns, List.forall_mem_cons]
  refine ⟨?_, category, ?_, ?_, ?_, level, ?_, ?_, ?_, ?_, occurrences, ?_, by simp⟩
  all_goals exact Column.even_map fun _ _ => rfl

end GroupRow

namespace BillRow

def header : Csv.Row := (columns (α := Float)).map (·.1.toList)

def cells (r : BillRow α) : Csv.Row := columns.map fun c => writtenCell (c.2 r)

structure IsLegible (r : BillRow α) : Prop where
  subscriptionId : r.subscriptionId.isText = true
  merchantName : r.merchantName.isText = true
  estimatedAmount : ∃ x, r.estimatedAmount = .real x

omit [Scalar α] in
theorem even {rows : List (BillRow α)} (legible : ∀ r ∈ rows, r.IsLegible) :
    ∀ c ∈ columns, Column.IsEven (rows.map c.2) := by
  have daysUntilDue : Column.IsEven (rows.map fun r => (.int r.daysUntilDue : Value α)) :=
    .inl (List.forall_mem_map.mpr fun _ _ => rfl)
  have id := Column.even_map fun r hr => Value.isWhole_of_isText (legible r hr).subscriptionId
  have merchant := Column.even_map fun r hr => Value.isWhole_of_isText (legible r hr).merchantName
  have figure : ∀ r ∈ rows, Column.isWhole r.estimatedAmount = false := by
    intro r hr
    obtain ⟨x, figure⟩ := (legible r hr).estimatedAmount
    rw [figure]
    rfl
  simp only [columns, List.forall_mem_cons]
  refine ⟨id, merchant, ?_, Column.even_map figure, daysUntilDue, ?_, by simp⟩
  all_goals exact Column.even_map fun _ _ => rfl

end BillRow

namespace Report

variable (undefined : Column.isGap (.real Scalar.undefined : Value α) = true) {report : Report α}
include undefined

end Report

/-! ### Levels -/

namespace Detector

end Detector

end RecurringPayments
