import RecurringPayments.Transaction.Writing
import RecurringPayments.Proofs.Csv.RoundTrip

/-!
The written form of a table: one line of names, then one line of cells for each record. Making the
cells of a column agree changes none of their written forms, unless whole numbers stand beside
something else.
-/
namespace RecurringPayments

variable {α : Type} [Scalar α]

namespace Column

/-- Whole numbers throughout, or none of them. -/
def IsEven (cells : Column α) : Prop :=
  (∀ v ∈ cells, isWhole v = true) ∨ ∀ v ∈ cells, isWhole v = false

theorem unify_of_whole {cells : Column α} (whole : ∀ v ∈ cells, isWhole v = true) :
    unify cells = cells := by
  have present : cells.filter (fun v => !isNull v) = cells := by
    rw [List.filter_eq_self]
    intro v hv
    have := whole v hv
    cases v <;> simp_all [isWhole, isNull]
  have numbers : cells.all Value.isNumber = true := by
    rw [List.all_eq_true]
    intro v hv
    have := whole v hv
    cases v <;> simp_all [isWhole, Value.isNumber]
  have allWhole : cells.all isWhole = true := List.all_eq_true.mpr whole
  rw [unify]
  simp only [present, numbers, allWhole]
  simp

section

variable (undefined : isGap (.real Scalar.undefined : Value α) = true)
include undefined

theorem writtenCell_fillGap (v : Value α) : writtenCell (fillGap v) = writtenCell v := by
  cases v with
  | null =>
    rw [fillGap, writtenCell, if_pos undefined]
    rfl
  | _ => rfl

theorem writtenCell_toFigure {v : Value α} (notWhole : isWhole v = false) :
    writtenCell (toFigure v) = writtenCell v := by
  cases v with
  | null =>
    rw [toFigure, writtenCell, if_pos undefined]
    rfl
  | int n => cases notWhole
  | _ => rfl

theorem map_writtenCell_unify {cells : Column α} (even : cells.IsEven) :
    (unify cells).map writtenCell = cells.map writtenCell := by
  rcases even with whole | other
  · rw [unify_of_whole whole]
  · have figures : (cells.map toFigure).map writtenCell = cells.map writtenCell := by
      rw [List.map_map]
      exact List.map_congr_left fun v hv => writtenCell_toFigure undefined (other v hv)
    have gaps : (cells.map fillGap).map writtenCell = cells.map writtenCell := by
      rw [List.map_map]
      exact List.map_congr_left fun v _ => writtenCell_fillGap undefined v
    rw [unify]
    split_ifs
    · rfl
    · rfl
    · exact figures
    · exact gaps
    · rfl

end

end Column

theorem writtenCell_getD (cells : Column α) (i : Nat) :
    writtenCell (cells.getD i .null) = (cells.map writtenCell).getD i [] := by
  have nothing : (writtenCell (.null : Value α)) = [] := rfl
  rw [← nothing, List.getD_map]

section

variable (undefined : Column.isGap (.real Scalar.undefined : Value α) = true)
include undefined

theorem writeColumns_eq {columns : List (String × Column α)}
    (even : ∀ c ∈ columns, c.2.IsEven) (rowCount : Nat) :
    writeColumns columns rowCount = String.ofList (Csv.writeRows (columns.map (·.1.toList) ::
      (List.range rowCount).map fun i => columns.map fun c => writtenCell (c.2.getD i .null))) := by
  rw [writeColumns]
  congr 3
  refine List.map_congr_left fun i _ => ?_
  rw [List.map_map]
  refine List.map_congr_left fun c hc => ?_
  rw [Function.comp_apply, writtenCell_getD, writtenCell_getD,
    Column.map_writtenCell_unify undefined (even c hc)]

theorem writeColumns_rows {names : List String} {rows : List (List (Value α))}
    (long : ∀ row ∈ rows, row.length = names.length)
    (even : ∀ i < names.length, Column.IsEven (rows.map fun row => row.getD i .null)) :
    writeColumns (names.mapIdx fun i name => (name, rows.map fun row => row.getD i .null))
        rows.length =
      String.ofList (Csv.writeRows (names.map String.toList ::
        rows.map fun row => row.map writtenCell)) := by
  have evenColumns : ∀ c ∈ names.mapIdx (fun i name =>
      (name, rows.map fun row => row.getD i .null)),
      Column.IsEven c.2 := by
    intro c hc
    obtain ⟨i, hi, rfl⟩ := List.mem_mapIdx.mp hc
    exact even i hi
  rw [writeColumns_eq undefined evenColumns]
  congr 3
  · exact List.ext_getElem (by simp) fun i _ _ => by simp
  · refine List.ext_getElem (by simp) fun i hi hi' => ?_
    simp at hi
    have length := long rows[i] (List.getElem_mem hi)
    refine List.ext_getElem (by simp [length]) fun k hk hk' => ?_
    simp at hk'
    simp [hi, hk']

end

end RecurringPayments
