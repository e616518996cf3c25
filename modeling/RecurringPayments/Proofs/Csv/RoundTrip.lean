import RecurringPayments.Csv.Writer
import RecurringPayments.Proofs.Result

/-!
Reading gives back what was written: every cell with its commas, quotes and line ends, every row,
and the whole table. Rows need two cells, for a row of one blank cell would be a blank line.
-/
namespace RecurringPayments.Csv

open Result

/-! ### Cells -/

def endsCell (c : Char) : Bool := c == ',' || isLineEnd c

theorem readFrom_inCell_append {s : List Char} (inside : ∀ c ∈ s, endsCell c = false) (cell : Cell)
    (record : Row) (rest : List Char) :
    readFrom .inCell cell record (s ++ rest) =
      readFrom .inCell (s.reverse ++ cell) record rest := by
  induction s generalizing cell with
  | nil => rfl
  | cons c s ih =>
    rw [List.forall_mem_cons, endsCell, Bool.or_eq_false_iff] at inside
    obtain ⟨⟨noComma, noEnd⟩, inside⟩ := inside
    have shifted : (c :: s).reverse ++ cell = s.reverse ++ c :: cell := by simp
    rw [List.cons_append, readFrom, shifted]
    simp only [noComma, noEnd]
    exact ih inside (c :: cell)

theorem readFrom_inQuotes_append (s : List Char) (cell : Cell) (record : Row) (rest : List Char) :
    readFrom .inQuotes cell record (doubleQuotes s ++ rest) =
      readFrom .inQuotes (s.reverse ++ cell) record rest := by
  induction s generalizing cell with
  | nil => rfl
  | cons c s ih =>
    have next := ih (c :: cell)
    rw [doubleQuotes] at next ⊢
    rw [List.flatMap_cons, List.reverse_cons, List.append_assoc, List.append_assoc,
      List.singleton_append, ← next]
    by_cases quote : c = '"'
    · subst quote
      rfl
    · have other : (c == '"') = false := beq_false_of_ne quote
      rw [other, if_neg Bool.false_ne_true, List.singleton_append, readFrom]
      simp only [other]
      rfl

theorem plain_of_unquoted {cell : Cell} (unquoted : ¬needsQuotes cell = true) :
    ∀ c ∈ cell, (c == ',') = false ∧ (c == '"') = false ∧ isLineEnd c = false := by
  simpa [needsQuotes, and_assoc] using unquoted

theorem readFrom_writeCell (cell : Cell) (record : Row) {c : Char} (ends : endsCell c = true)
    (rest : List Char) :
    readFrom .cellStart [] record (writeCell cell ++ c :: rest) =
      readFrom .inCell cell.reverse record (c :: rest) := by
  rw [endsCell, Bool.or_eq_true, beq_iff_eq] at ends
  rw [writeCell]
  split
  · rw [List.cons_append, List.append_assoc, readFrom]
    change readFrom .inQuotes [] record (doubleQuotes cell ++ ('"' :: c :: rest)) = _
    rw [readFrom_inQuotes_append, List.append_nil, readFrom]
    change readFrom .afterQuote cell.reverse record (c :: rest) = _
    rcases ends with rfl | ends
    · rfl
    · simp only [readFrom, ends, if_true]
  · rename_i unquoted
    have inside := plain_of_unquoted unquoted
    cases cell with
    | nil =>
      rcases ends with rfl | ends
      · rfl
      · simp only [List.nil_append, List.reverse_nil, readFrom, ends, if_true]
    | cons d cell =>
      rw [List.forall_mem_cons] at inside
      obtain ⟨⟨noComma, noQuote, noEnd⟩, inside⟩ := inside
      have tail : ∀ d ∈ cell, endsCell d = false := fun d hd => by
        rw [endsCell, (inside d hd).1, (inside d hd).2.2]
        rfl
      rw [List.cons_append, readFrom]
      simp only [noComma, noQuote, noEnd]
      change readFrom .inCell [d] record (cell ++ c :: rest) = _
      rw [readFrom_inCell_append tail, List.reverse_cons]

/-! ### Rows -/

theorem readFrom_writeRow {row : Row} (nonempty : row ≠ []) (record : Row) (rest : List Char) :
    readFrom .cellStart [] record (writeRow row ++ '\n' :: rest) =
      (readFrom .recordStart [] [] rest).map ((record.reverse ++ row) :: ·) := by
  induction row using writeRow.induct generalizing record with
  | case1 => exact absurd rfl nonempty
  | case2 cell =>
    rw [writeRow, readFrom_writeCell cell record rfl, readFrom]
    simp only [List.reverse_reverse, List.reverse_cons]
    rfl
  | case3 cell cells more ih =>
    have next := ih more (cell :: record)
    rw [writeRow.eq_3 cell cells more, List.append_assoc, List.cons_append,
      readFrom_writeCell cell record rfl, readFrom]
    simp only [List.reverse_reverse]
    change readFrom .cellStart [] (cell :: record) (writeRow cells ++ '\n' :: rest) = _
    rw [next, List.reverse_cons, List.append_assoc, List.singleton_append]

theorem isBlankLine_append {s : List Char} (inside : ∀ c ∈ s, isLineEnd c = false)
    (rest : List Char) : isBlankLine (s ++ ',' :: rest) = false := by
  induction s with
  | nil => rfl
  | cons c s ih =>
    rw [List.forall_mem_cons] at inside
    have noEnd := inside.1
    rw [isLineEnd] at noEnd
    rw [List.cons_append, isBlankLine, noEnd, ih inside.2, Bool.and_false, Bool.or_false]

theorem isBlankLine_writeRow {row : Row} (two : 2 ≤ row.length) (rest : List Char) :
    isBlankLine (writeRow row ++ rest) = false := by
  obtain ⟨cell, next, cells, rfl⟩ : ∃ cell next cells, row = cell :: next :: cells := by
    match row, two with
    | cell :: next :: cells, _ => exact ⟨cell, next, cells, rfl⟩
  rw [writeRow.eq_3 cell (next :: cells) (List.cons_ne_nil _ _), List.append_assoc,
    List.cons_append, writeCell]
  split
  · rfl
  · rename_i unquoted
    exact isBlankLine_append (fun c hc => (plain_of_unquoted unquoted c hc).2.2) _

theorem readFrom_recordStart {s : List Char} (visible : isBlankLine s = false) :
    readFrom .recordStart [] [] s = readFrom .cellStart [] [] s := by
  cases s with
  | nil => cases visible
  | cons c s =>
    rw [readFrom, readFrom]
    simp only [visible]
    rfl

theorem writeRow_line {row : Row} (two : 2 ≤ row.length) :
    (if row == [[]] then ['"', '"'] else writeRow row) ++ ['\n'] = writeRow row ++ ['\n'] := by
  have long : (row == [[]]) = false := by
    rw [beq_eq_false_iff_ne]
    rintro rfl
    exact absurd two (by decide)
  rw [long, if_neg Bool.false_ne_true]

theorem readFrom_writeRows {rows : List Row} (two : ∀ row ∈ rows, 2 ≤ row.length) :
    readFrom .recordStart [] [] (writeRows rows) = .ok rows := by
  induction rows with
  | nil => rfl
  | cons row rows ih =>
    rw [List.forall_mem_cons] at two
    have nonempty : row ≠ [] := by
      rintro rfl
      exact absurd two.1 (by decide)
    have rest := ih two.2
    rw [writeRows] at rest ⊢
    rw [List.flatMap_cons, writeRow_line two.1, List.append_assoc, List.singleton_append,
      readFrom_recordStart (isBlankLine_writeRow two.1 _), readFrom_writeRow nonempty, rest]
    rfl

/-! ### Tables -/

/-- The mark of a byte order, which a reader drops from the front of a text. -/
def byteOrderMark : Char := '\uFEFF'

theorem readRows_writeRows {rows : List Row} (two : ∀ row ∈ rows, 2 ≤ row.length)
    (unmarked : (writeRows rows).head? ≠ some byteOrderMark) :
    readRows (writeRows rows) = .ok rows := by
  have kept : ((writeRows rows).head? == some '\uFEFF') = false := beq_false_of_ne unmarked
  rw [readRows, kept, if_neg Bool.false_ne_true, readFrom_writeRows two]

theorem fitRows_eq {width : Nat} {rows : List Row} (even : ∀ row ∈ rows, row.length = width) :
    fitRows width rows = .ok rows := by
  induction rows with
  | nil => rfl
  | cons row rows ih =>
    rw [List.forall_mem_cons] at even
    rw [fitRows, if_neg (not_lt.mpr even.1.le), ih even.2, padRow, even.1, Nat.sub_self]
    simp

theorem readTable_writeRows {header : Row} {rows : List Row} (two : 2 ≤ header.length)
    (even : ∀ row ∈ rows, row.length = header.length)
    (unmarked : (writeRows (header :: rows)).head? ≠ some byteOrderMark) :
    readTable (writeRows (header :: rows)) = .ok (header, rows) := by
  have long : ∀ row ∈ header :: rows, 2 ≤ row.length := by
    rw [List.forall_mem_cons]
    exact ⟨two, fun row hrow => (even row hrow).symm ▸ two⟩
  rw [readTable, readRows_writeRows long unmarked, ok_bind]
  cases rows with
  | nil => rfl
  | cons first rows =>
    rw [List.forall_mem_cons] at even
    have fitted : fitRows (padRow header.length first).length rows = .ok rows := by
      refine fitRows_eq fun row hrow => ?_
      rw [padRow, even.1, Nat.sub_self, List.replicate_zero, List.append_nil, even.1]
      exact even.2 row hrow
    simp only [fitted, ok_bind]
    simp [padRow, even.1]

end RecurringPayments.Csv
