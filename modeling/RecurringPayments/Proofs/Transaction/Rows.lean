import RecurringPayments.Proofs.Calendar.Written
import RecurringPayments.Proofs.Number.Floating
import RecurringPayments.Proofs.Table.Textual

/-!
Reading a table row by row. The columns of a table are read one after the other, and yet each row
gives its transaction by itself, but for what is settled for a column as a whole: the layout of its
dates, or whether its amounts are whole numbers of one machine word.
-/
namespace RecurringPayments

open Result

variable {ε α β : Type} [Scalar α]

/-! ### Rows -/

abbrev Cells (α : Type) := String → Value α

def Cells.text (c : Cells α) (name : String) : Value α := .text (c name).plain

def Cells.transaction (c : Cells α) (date : Date) (amount : α) : Transaction α where
  id := c.text "id"
  date := .day date
  amount := .real amount
  merchant := c.text "merchant"
  category := c.text "category"
  account := c.text "account"
  type := c.text "type"
  status := c.text "status"
  tags := tagsOfCell (c "tags")
  goalId := optionalText (c "goal_id")
  isRecurring := .bool (flagOfCell (c "is_recurring"))
  recurringId := optionalText (c "recurring_id")
  notes := optionalValue (c "notes")

/-- The transaction of a row, if its date and its amount are read in the manner settled for their
columns. -/
def TransactionReaders.transaction? (r : TransactionReaders ε α) (k : r.dates.Manner)
    (l : r.amounts.Manner) (c : Cells α) : Option (Transaction α) :=
  (r.dates.cell k (c "date")).bind fun date => (r.amounts.cell l (c "amount")).map fun amount =>
    c.transaction date amount

theorem TransactionReaders.exists_of_transaction? {r : TransactionReaders ε α} {k : r.dates.Manner}
    {l : r.amounts.Manner} {c : Cells α} {t : Transaction α}
    (made : r.transaction? k l c = some t) :
    ∃ date amount, r.amounts.cell l (c "amount") = some amount ∧ t = c.transaction date amount := by
  obtain ⟨date, -, made⟩ := Option.bind_eq_some_iff.mp made
  obtain ⟨amount, read, same⟩ := Option.map_eq_some_iff.mp made
  exact ⟨date, amount, read, same.symm⟩

theorem exists_tagsOfCell (v : Value α) : ∃ tags : List String, tagsOfCell v = tags.map .text := by
  rw [tagsOfCell]
  split
  · exact ⟨[], rfl⟩
  · exact ⟨_, (List.map_map ..).symm⟩
  · exact ⟨_, (List.map_map ..).symm⟩

theorem filterMap_id_map_some (xs : List β) : (xs.map some).filterMap id = xs := by
  rw [List.filterMap_map]
  exact List.filterMap_some

namespace Table

section

variable (t : Table α)

def row (i : Nat) : Cells α := fun name => t.cell name i

def absent : List String := requiredColumns.filter fun name => name ∉ t.columns.map (·.1)

def unread (name : String) (reading : Value α → Option β) : List Nat :=
  (List.range t.rowCount).filter fun i =>
    Column.isGap (t.cell name i) || (reading (t.cell name i)).isNone

def quotedIds (rows : List Nat) : List String := rows.map fun i => (t.cell "id" i).quoted

end

/-- What becomes of a table: of the things asked of it, the first that fails is reported. What a
reader raises over a whole column passes through. -/
structure IsReadByRow (r : TransactionReaders ε α) (t : Table α) : Prop where
  lacking : t.absent ≠ [] →
    t.transactionsBy r = .error (.own (.input (.missingColumns (t.absent.map Value.quotedText))))
  empty : t.absent = [] → t.rowCount = 0 → t.transactionsBy r = .ok []
  refusedDates : t.absent = [] → t.rowCount ≠ 0 →
    ∀ cause, r.dates.manner (t.cells "date") = .error cause →
      t.transactionsBy r = .error (.raised cause)
  undated : t.absent = [] → t.rowCount ≠ 0 →
    ∀ k, r.dates.manner (t.cells "date") = .ok k → t.unread "date" (r.dates.cell k) ≠ [] →
      t.transactionsBy r =
        .error (.own (.input (.unreadableDates (t.quotedIds (t.unread "date" (r.dates.cell k))))))
  refusedAmounts : t.absent = [] → t.rowCount ≠ 0 →
    ∀ k, r.dates.manner (t.cells "date") = .ok k → t.unread "date" (r.dates.cell k) = [] →
      ∀ cause, r.amounts.manner (t.cells "amount") = .error cause →
        t.transactionsBy r = .error (.raised cause)
  unpriced : t.absent = [] → t.rowCount ≠ 0 →
    ∀ k, r.dates.manner (t.cells "date") = .ok k → t.unread "date" (r.dates.cell k) = [] →
      ∀ l, r.amounts.manner (t.cells "amount") = .ok l →
        t.unread "amount" (r.amounts.cell l) ≠ [] →
          t.transactionsBy r = .error (.own (.input (.unreadableAmounts
            (t.quotedIds (t.unread "amount" (r.amounts.cell l))))))
  readable : t.absent = [] → t.rowCount ≠ 0 →
    ∀ k, r.dates.manner (t.cells "date") = .ok k → t.unread "date" (r.dates.cell k) = [] →
      ∀ l, r.amounts.manner (t.cells "amount") = .ok l →
        t.unread "amount" (r.amounts.cell l) = [] →
          ∃ ts, t.transactionsBy r = .ok ts ∧ ts.length = t.rowCount ∧
            ∀ i < t.rowCount, ts[i]? = r.transaction? k l (t.row i)

section

omit [Scalar α]

theorem missingColumns_eq (t : Table α) : t.missingColumns = t.absent := by
  refine List.filter_congr fun name _ => ?_
  rw [Bool.eq_iff_iff, Option.isNone_iff_eq_none, isNone_column?_iff, decide_eq_true_iff]

theorem exists_column? {t : Table α} (whole : t.absent = []) {name : String}
    (required : name ∈ requiredColumns) : ∃ cells, t.column? name = some cells := by
  rw [absent, List.filter_eq_nil_iff] at whole
  have present := whole name required
  rwa [decide_eq_true_iff, ← isNone_column?_iff, ← ne_eq, Option.ne_none_iff_exists'] at present

end

variable {r : TransactionReaders ε α} {t : Table α}

theorem transactionsBy_of_absent (lacking : t.absent ≠ []) :
    t.transactionsBy r =
      .error (.own (.input (.missingColumns (t.absent.map Value.quotedText)))) := by
  rw [transactionsBy, missingColumns_eq]
  simp [lacking]

theorem transactionsBy_of_empty (whole : t.absent = []) (empty : t.rowCount = 0) :
    t.transactionsBy r = .ok [] := by
  rw [transactionsBy, missingColumns_eq, whole, empty]
  rfl

theorem transactionsBy_of_filled (whole : t.absent = []) (filled : t.rowCount ≠ 0) :
    t.transactionsBy r =
      (r.dates.read (t.cells "date")).mapError .raised >>= fun dates =>
        if t.idsWithout dates ≠ [] then
          .error (.own (.input (.unreadableDates (t.idsWithout dates))))
        else (r.amounts.read (t.cells "amount")).mapError .raised >>= fun amounts =>
          if t.idsWithout amounts ≠ [] then
            .error (.own (.input (.unreadableAmounts (t.idsWithout amounts))))
          else .ok (((dates.filterMap id).zip (amounts.filterMap id)).mapIdx fun i p =>
            t.transaction i p.1 p.2) := by
  have listed (ids : List String) : (!ids.isEmpty) = true ↔ ids ≠ [] := by simp
  have counted : (t.rowCount == 0) = false := beq_false_of_ne filled
  rw [transactionsBy, missingColumns_eq, whole]
  simp only [counted, listed]
  rfl

/-! ### Columns, cell by cell -/

section

variable (textual : t.IsTextual) (whole : t.absent = [])
include textual whole

theorem cells_eq_map {name : String} (required : name ∈ requiredColumns) :
    t.cells name = (List.range t.rowCount).map (t.cell name) := by
  obtain ⟨cells, present⟩ := exists_column? whole required
  rw [Table.cells, present, Option.getD_some, column_eq_map textual present]

theorem idsWithout_eq (c : ColumnReader ε α β) (k : c.Manner) {name : String}
    (required : name ∈ requiredColumns) :
    t.idsWithout ((t.cells name).map (c.cell k)) = t.quotedIds (t.unread name (c.cell k)) := by
  have missing : (fun i => Column.isGap (t.cell name i) || (c.cell k (t.cell name i)).isNone) =
      fun i => (c.cell k (t.cell name i)).isNone := by
    funext i
    cases gap : Column.isGap (t.cell name i) with
    | false => rfl
    | true => rw [c.cell_gap k _ gap]; rfl
  rw [idsWithout, cells_eq_map textual whole (by decide : "id" ∈ requiredColumns),
    cells_eq_map textual whole required, List.map_map, List.zip_map', List.filterMap_map, quotedIds,
    unread, missing, ← List.filterMap_eq_map', List.filterMap_filter]
  rfl

theorem exists_manner_of_read {c : ColumnReader ε α β} {name : String}
    (required : name ∈ requiredColumns) {bs : List β}
    (read : c.read (t.cells name) = .ok (bs.map some)) :
    ∃ k, c.manner (t.cells name) = .ok k ∧ t.unread name (c.cell k) = [] := by
  obtain ⟨k, settled, read⟩ := bind_eq_ok_iff.mp read
  refine ⟨k, settled, List.filter_eq_nil_iff.mpr fun i hi => ?_⟩
  have each : c.cell k (t.cell name i) ∈ bs.map some := by
    rw [← Except.ok.inj read, cells_eq_map textual whole required, List.map_map]
    exact List.mem_map_of_mem hi
  obtain ⟨b, -, found⟩ := List.mem_map.mp each
  have present : Column.isGap (t.cell name i) = false := by
    cases gap : Column.isGap (t.cell name i) with
    | false => rfl
    | true => rw [c.cell_gap k _ gap] at found; cases found
  rw [present, ← found]
  exact Bool.false_ne_true

theorem transactionsBy_eq (filled : t.rowCount ≠ 0) :
    t.transactionsBy r =
      (r.dates.manner (t.cells "date")).mapError .raised >>= fun k =>
        if t.unread "date" (r.dates.cell k) ≠ [] then
          .error (.own (.input (.unreadableDates (t.quotedIds (t.unread "date" (r.dates.cell k))))))
        else (r.amounts.manner (t.cells "amount")).mapError .raised >>= fun l =>
          if t.unread "amount" (r.amounts.cell l) ≠ [] then
            .error (.own (.input (.unreadableAmounts
              (t.quotedIds (t.unread "amount" (r.amounts.cell l))))))
          else .ok (((((t.cells "date").map (r.dates.cell k)).filterMap id).zip
            (((t.cells "amount").map (r.amounts.cell l)).filterMap id)).mapIdx fun i p =>
              t.transaction i p.1 p.2) := by
  have listed (rows : List Nat) : t.quotedIds rows ≠ [] ↔ rows ≠ [] := by simp [quotedIds]
  rw [transactionsBy_of_filled whole filled]
  simp only [ColumnReader.read]
  cases r.dates.manner (t.cells "date") with
  | error cause => rfl
  | ok k =>
    simp only [ok_bind, pure_eq, mapError_ok, idsWithout_eq textual whole r.dates k
      (by decide : "date" ∈ requiredColumns), listed]
    cases r.amounts.manner (t.cells "amount") with
    | error cause => rfl
    | ok l =>
      simp only [ok_bind, mapError_ok, idsWithout_eq textual whole r.amounts l
        (by decide : "amount" ∈ requiredColumns), listed]

theorem transactionsBy_of_readable {k : r.dates.Manner} {l : r.amounts.Manner}
    (filled : t.rowCount ≠ 0) (settled : r.dates.manner (t.cells "date") = .ok k)
    (dated : t.unread "date" (r.dates.cell k) = [])
    (settled' : r.amounts.manner (t.cells "amount") = .ok l)
    (priced : t.unread "amount" (r.amounts.cell l) = []) :
    ∃ ts, t.transactionsBy r = .ok ts ∧ ts.length = t.rowCount ∧
      ∀ i < t.rowCount, ts[i]? = r.transaction? k l (t.row i) := by
  have someDate : Nonempty Date := ⟨⟨0, by decide⟩⟩
  have someFigure : Nonempty α := ⟨Scalar.zero⟩
  have readings {β : Type} {name : String} {reading : Value α → Option β}
      (none : t.unread name reading = []) :
      ∀ i < t.rowCount, ∃ b, reading (t.cell name i) = some b := by
    intro i hi
    have found := List.filter_eq_nil_iff.mp none i (List.mem_range.mpr hi)
    rw [Bool.or_eq_true, not_or, Option.isNone_iff_eq_none, ← ne_eq (reading _),
      Option.ne_none_iff_exists'] at found
    exact found.2
  choose! date hdate using readings dated
  choose! amount hamount using readings priced
  have column {β : Type} {name : String} {reading : Value α → Option β} {read : Nat → β}
      (required : name ∈ requiredColumns)
      (each : ∀ i < t.rowCount, reading (t.cell name i) = some (read i)) :
      ((t.cells name).map reading).filterMap id = (List.range t.rowCount).map read := by
    have readings : (t.cells name).map reading = ((List.range t.rowCount).map read).map some := by
      rw [cells_eq_map textual whole required, List.map_map, List.map_map]
      exact List.map_congr_left fun i hi => each i (List.mem_range.mp hi)
    rw [readings, filterMap_id_map_some]
  refine ⟨(List.range t.rowCount).map fun i => t.transaction i (date i) (amount i), ?_, by simp,
    fun i hi => ?_⟩
  · rw [transactionsBy_eq textual whole filled, settled, mapError_ok, ok_bind,
      if_neg (not_not.mpr dated), settled', mapError_ok, ok_bind, if_neg (not_not.mpr priced),
      column (by decide) hdate, column (by decide) hamount, List.zip_map']
    exact congrArg Except.ok (List.ext_getElem (by simp) fun i _ _ => by simp)
  · rw [List.getElem?_map, List.getElem?_range hi, TransactionReaders.transaction?]
    change _ = (r.dates.cell k (t.cell "date" i)).bind _
    rw [hdate i hi, Option.bind_some]
    change _ = (r.amounts.cell l (t.cell "amount" i)).map _
    rw [hamount i hi]
    rfl

end

/-- A table of texts is read row by row: the first thing it lacks is reported, with the columns or
the rows at fault in order, and otherwise each row gives its own transaction. -/
theorem isReadByRow_of_isTextual (r : TransactionReaders ε α) (textual : t.IsTextual) :
    t.IsReadByRow r where
  lacking := transactionsBy_of_absent
  empty := transactionsBy_of_empty
  refusedDates whole filled cause refused := by
    rw [transactionsBy_eq textual whole filled, refused]
    rfl
  undated whole filled k settled undated := by
    rw [transactionsBy_eq textual whole filled, settled, mapError_ok, ok_bind, if_pos undated]
  refusedAmounts whole filled k settled dated cause refused := by
    rw [transactionsBy_eq textual whole filled, settled, mapError_ok, ok_bind,
      if_neg (not_not.mpr dated), refused]
    rfl
  unpriced whole filled k settled dated l settled' unpriced := by
    rw [transactionsBy_eq textual whole filled, settled, mapError_ok, ok_bind,
      if_neg (not_not.mpr dated), settled', mapError_ok, ok_bind, if_pos unpriced]
  readable whole filled k settled dated l settled' priced :=
    transactionsBy_of_readable textual whole filled settled dated settled' priced

theorem exists_row_of_mem (textual : t.IsTextual) {ts : List (Transaction α)}
    (read : t.transactionsBy r = .ok ts) {p : Transaction α} (hp : p ∈ ts) :
    ∃ k l i, r.transaction? k l (t.row i) = some p := by
  have whole : t.absent = [] := by
    by_contra lacking
    rw [transactionsBy_of_absent lacking] at read
    cases read
  by_cases filled : t.rowCount = 0
  · rw [transactionsBy_of_empty whole filled] at read
    cases read
    cases hp
  have steps := read
  rw [transactionsBy_eq textual whole filled] at steps
  obtain ⟨k, settled, steps⟩ := bind_eq_ok_iff.mp steps
  by_cases dated : t.unread "date" (r.dates.cell k) = []
  swap
  · rw [if_pos dated] at steps
    cases steps
  rw [if_neg (not_not.mpr dated)] at steps
  obtain ⟨l, settled', steps⟩ := bind_eq_ok_iff.mp steps
  by_cases priced : t.unread "amount" (r.amounts.cell l) = []
  swap
  · rw [if_pos priced] at steps
    cases steps
  obtain ⟨own, same, length, rows⟩ := transactionsBy_of_readable textual whole filled
    (mapError_eq_ok_iff.mp settled) dated (mapError_eq_ok_iff.mp settled') priced
  rw [read] at same
  obtain rfl := Except.ok.inj same
  obtain ⟨i, hi, rfl⟩ := List.getElem_of_mem hp
  exact ⟨k, l, i, by rw [← rows i (length ▸ hi), List.getElem?_eq_getElem hi]⟩

end Table

namespace DateColumn

variable {cells : Column α} {layout : Option Calendar.Layout} (chosen : layout? cells = layout)
  (together : Moment.shareZone (cells.filterMap (ofCell? layout)) = true)
include chosen together

theorem manner_eq : reader.manner cells = .ok layout := by
  subst chosen
  exact if_pos together

theorem read_eq : reader.read cells = .ok (cells.map fun v => (ofCell? layout v).map (·.date)) :=
  congrArg (fun manner => manner >>= fun k => pure (cells.map (reader.cell k)))
    (manner_eq chosen together)

end DateColumn

def faultyTable : Table Float :=
  let gap : Value Float := .real Scalar.undefined
  let filled (s : String) : Column Float := List.replicate 3 (.text s)
  ⟨[("id", [.text "t-1", gap, .text "t-3"]), ("date", [.text "2025-01-13", gap, .text "soon"]),
    ("amount", [.text "ten", .text "1", .text "2"]), ("merchant", filled "Gym"),
    ("category", filled "Health"), ("account", filled "main"), ("type", filled "debit"),
    ("status", filled "posted")]⟩

theorem isReadByRow_faultyTable : faultyTable.IsTextual ∧
    faultyTable.transactionsBy .standard =
      .error (.own (.input (.unreadableDates ["nan", "'t-3'"]))) := by
  have textual : faultyTable.IsTextual := by
    constructor
    · simp [faultyTable, Table.rowCount]
    · have gap : (.real Scalar.undefined : Value Float).IsTextOrGap := .inr rfl
      simp [faultyTable, gap]
  have settled :
      DateColumn.reader.manner (faultyTable.cells "date") = .ok (some Calendar.plainLayout) :=
    DateColumn.manner_eq (by decide +kernel) (by decide +kernel)
  have faulty : faultyTable.quotedIds
      (faultyTable.unread "date" (DateColumn.reader.cell (some Calendar.plainLayout))) =
        ["nan", "'t-3'"] := by decide +kernel
  rw [← faulty]
  exact ⟨textual, (Table.isReadByRow_of_isTextual .standard textual).undated (by decide) (by decide)
    _ settled (by decide +kernel)⟩

/-! ### Dates that depend on other rows -/

/-- Two rows, the second of them the same whatever the date of the first. -/
def datedTable (first : String) : Table Float :=
  let column (a b : String) : Column Float := [.text a, .text b]
  ⟨[("id", column "t-1" "t-2"), ("date", column first "01/02/2025"), ("amount", column "10" "20"),
    ("merchant", column "Gym" "Gym"), ("category", column "Health" "Health"),
    ("account", column "main" "main"), ("type", column "debit" "debit"),
    ("status", column "posted" "posted")]⟩

theorem datedTable_isTextual (first : String) : (datedTable first).IsTextual where
  even := by simp [datedTable, Table.rowCount]
  cells := by simp [datedTable]

theorem row_datedTable (first other : String) :
    (datedTable first).row 1 = (datedTable other).row 1 := by
  funext name
  simp only [Table.row, Table.cell, Table.cells, Table.column?, datedTable, List.lookup_cons]
  cases name == "id" <;> cases name == "date" <;> rfl

theorem date_datedTable :
    ((datedTable "13/01/2025").transactions.toOption.bind (·[1]?)).bind (·.date.shortText?) =
        some "2025-02-01" ∧
      ((datedTable "12/01/2025").transactions.toOption.bind (·[1]?)).bind (·.date.shortText?) =
        some "2025-01-02" := by
  decide +kernel

/-- What is made of a row is not told by the row alone. -/
theorem Table.not_exists_transaction_of_row :
    ¬ ∃ made : Cells Float → Transaction Float, ∀ t : Table Float, t.IsTextual →
      ∀ ts, t.transactions = .ok ts → ∀ i < t.rowCount, ts[i]? = some (made (t.row i)) := by
  rintro ⟨made, byRow⟩
  have dated {first day : String} (shown : ((datedTable first).transactions.toOption.bind
      (·[1]?)).bind (·.date.shortText?) = some day) :
      (made ((datedTable first).row 1)).date.shortText? = some day := by
    cases read : (datedTable first).transactions with
    | error fault =>
      rw [read] at shown
      cases shown
    | ok ts =>
      have own := byRow _ (datedTable_isTextual first) ts read 1 (by simp [datedTable, rowCount])
      rw [read] at shown
      change ts[1]?.bind _ = _ at shown
      rwa [own] at shown
  have dayFirst := dated date_datedTable.1
  have monthFirst := dated date_datedTable.2
  rw [row_datedTable _ "13/01/2025", dayFirst] at monthFirst
  exact absurd monthFirst (by decide)

end RecurringPayments
