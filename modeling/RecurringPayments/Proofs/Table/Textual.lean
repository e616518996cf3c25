import RecurringPayments.Proofs.Table.Stored

/-!
Tables whose cells are texts or gaps, with one cell of every column in each row. They come out of
comma-separated text.
-/
namespace RecurringPayments

open Result

variable {α : Type} [Scalar α]

def Value.IsTextOrGap (v : Value α) : Prop := (∃ s, v = .text s) ∨ Column.isGap v = true

@[simp] theorem Value.isTextOrGap_text (s : String) : (Value.text s : Value α).IsTextOrGap :=
  .inl ⟨s, rfl⟩

namespace Table

/-- Every column has one cell in each row, a text or a gap. -/
structure IsTextual (t : Table α) : Prop where
  even : ∀ c ∈ t.columns, c.2.length = t.rowCount
  cells : ∀ c ∈ t.columns, ∀ v ∈ c.2, v.IsTextOrGap

section

omit [Scalar α]

theorem isNone_column?_iff {t : Table α} {name : String} :
    t.column? name = none ↔ name ∉ t.columns.map (·.1) := by
  rw [column?, List.lookup_eq_none_iff, List.mem_map]
  constructor
  · rintro other ⟨c, hc, rfl⟩
    exact absurd (other c hc) (by simp)
  · intro other c hc
    rw [bne_iff_ne]
    rintro rfl
    exact other ⟨c, hc, rfl⟩

theorem mem_columns_of_column? {t : Table α} {name : String} {cells : Column α}
    (present : t.column? name = some cells) : (name, cells) ∈ t.columns := by
  obtain ⟨before, after, split, -⟩ := List.lookup_eq_some_iff.mp present
  rw [split]
  simp

theorem length_of_lengths {t : Table α} {n : Nat} (lengths : ∀ c ∈ t.columns, c.2.length = n) :
    ∀ c ∈ t.columns, c.2.length = t.rowCount := by
  intro c hc
  rw [rowCount_of_lengths (List.ne_nil_of_mem hc) lengths, lengths c hc]

end

theorem column_eq_map {t : Table α} (textual : t.IsTextual) {name : String} {cells : Column α}
    (present : t.column? name = some cells) :
    cells = (List.range t.rowCount).map (t.cell name) := by
  have even : cells.length = t.rowCount := textual.even _ (mem_columns_of_column? present)
  refine List.ext_getElem (by simp [even]) fun i hi _ => ?_
  rw [List.getElem_map, List.getElem_range, cell, Table.cells, present, Option.getD_some,
    List.getD_eq_getElem _ _ hi]

theorem isTextOrGap_cell {t : Table α} (textual : t.IsTextual) (name : String) (i : Nat) :
    (t.cell name i).IsTextOrGap := by
  have absent : (.null : Value α).IsTextOrGap := .inr rfl
  rw [cell, Table.cells]
  cases present : t.column? name with
  | none => exact absent
  | some cells =>
    have plain := textual.cells _ (mem_columns_of_column? present)
    rw [Option.getD_some]
    by_cases hi : i < cells.length
    · rw [List.getD_eq_getElem _ _ hi]
      exact plain _ (List.getElem_mem hi)
    · rwa [List.getD_eq_default _ _ (not_lt.mp hi)]

section

variable (undefined : Column.isGap (.real Scalar.undefined : Value α) = true)
include undefined

theorem ofCell_isTextOrGap (cell : Csv.Cell) : (ofCell cell : Value α).IsTextOrGap := by
  rw [ofCell]
  split
  · exact .inr undefined
  · exact .inl ⟨_, rfl⟩

theorem isTextual_of_ofCsv {text : List Char} {t : Table α} (read : ofCsv text = .ok t) :
    t.IsTextual := by
  obtain ⟨⟨header, rows⟩, -, made⟩ := bind_eq_ok_iff.mp read
  cases made
  constructor
  case even =>
    refine length_of_lengths (n := rows.length) fun c hc => ?_
    obtain ⟨i, hi, rfl⟩ := List.mem_mapIdx.mp hc
    exact List.length_map _
  case cells =>
    intro c hc v hv
    obtain ⟨i, hi, rfl⟩ := List.mem_mapIdx.mp hc
    obtain ⟨row, -, rfl⟩ := List.mem_map.mp hv
    exact ofCell_isTextOrGap undefined _

end

end Table

end RecurringPayments
