import RecurringPayments.Table.Basic
import RecurringPayments.Transaction.Reading
import RecurringPayments.Proofs.Csv.RoundTrip

/-!
Tables read from rows of cells: which cell stands under which name.
-/
namespace RecurringPayments

open Result

theorem lookup_mapIdx {β : Type} {names : List String} (distinct : names.Nodup) {i : Nat}
    (hi : i < names.length) (f : Nat → β) :
    (names.mapIdx fun k name => (name, f k)).lookup names[i] = some (f i) := by
  induction names generalizing i f with
  | nil => cases hi
  | cons name names ih =>
    rw [List.nodup_cons] at distinct
    rw [List.mapIdx_cons, List.lookup_cons]
    cases i with
    | zero =>
      rw [List.getElem_cons_zero, beq_self_eq_true]
    | succ i =>
      have later : i < names.length := Nat.lt_of_succ_lt_succ hi
      have other : (names[i] == name) = false := by
        rw [beq_eq_false_iff_ne]
        rintro same
        exact distinct.1 (same ▸ List.getElem_mem later)
      rw [List.getElem_cons_succ, other]
      exact ih distinct.2 later fun k => f (k + 1)

theorem foldl_max_replicate (n k : Nat) : (List.replicate n k).foldl max k = k := by
  induction n with
  | zero => rfl
  | succ n ih => rw [List.replicate_succ, List.foldl_cons, Nat.max_self, ih]

namespace Table

variable {α : Type} [Scalar α]

omit [Scalar α] in
theorem rowCount_of_lengths {t : Table α} (nonempty : t.columns ≠ []) {n : Nat}
    (lengths : ∀ c ∈ t.columns, c.2.length = n) : t.rowCount = n := by
  have counted : t.columns.map (·.2.length) = List.replicate t.columns.length n :=
    List.eq_replicate_iff.mpr ⟨List.length_map _, List.forall_mem_map.mpr lengths⟩
  obtain ⟨column, columns, split⟩ := List.exists_cons_of_ne_nil nonempty
  rw [rowCount, counted, split, List.length_cons, List.replicate_succ, List.foldl_cons,
    Nat.max_eq_right (Nat.zero_le _), foldl_max_replicate]

def ofRows (names : List String) (rows : List Csv.Row) : Table α :=
  ⟨names.mapIdx fun i name => (name, rows.map fun row => ofCell (row.getD i []))⟩

variable {names : List String} {rows : List Csv.Row}

theorem ofCsv_eq {text : List Char}
    (read : Csv.readTable text = .ok (names.map String.toList, rows)) :
    ofCsv text = .ok (ofRows names rows : Table α) := by
  rw [ofCsv, read, ok_bind]
  refine congrArg (fun columns => Except.ok (Table.mk columns)) ?_
  exact List.ext_getElem (by simp) fun i _ _ => by simp

theorem column?_ofRows (distinct : names.Nodup) {i : Nat} (hi : i < names.length) :
    (ofRows names rows : Table α).column? names[i] =
      some (rows.map fun row => ofCell (row.getD i [])) :=
  lookup_mapIdx distinct hi _

theorem cell_ofRows (distinct : names.Nodup) {i : Nat} (hi : i < names.length) {k : Nat}
    (hk : k < rows.length) :
    (ofRows names rows : Table α).cell names[i] k = ofCell (rows[k].getD i []) := by
  rw [cell, cells, column?_ofRows distinct hi, Option.getD_some,
    List.getD_eq_getElem _ _ (by simpa using hk), List.getElem_map]

theorem rowCount_ofRows (nonempty : names ≠ []) :
    (ofRows names rows : Table α).rowCount = rows.length := by
  refine rowCount_of_lengths (by simpa [ofRows] using nonempty) fun column hcolumn => ?_
  obtain ⟨i, hi, rfl⟩ := List.mem_mapIdx.mp hcolumn
  exact List.length_map _

end Table

end RecurringPayments
