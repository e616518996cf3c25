import RecurringPayments.Number.Binary64
import RecurringPayments.Proofs.Calendar.Written
import RecurringPayments.Proofs.Detection.Timeline
import RecurringPayments.Proofs.Table.Stored
import RecurringPayments.Proofs.Table.Written
import RecurringPayments.Proofs.Text.Pieces
import RecurringPayments.Proofs.Transaction.Rows

/-!
A list of transactions that is written to a file and loaded again comes back field by field. Each
field has a form of its own in the file, and some values share one: what may be stored is said by
`Transaction.IsStorable`.
-/
namespace RecurringPayments

open Result

variable {α : Type} [Scalar α]

/-! ### What may be stored -/

/-- A text that is not taken for a missing cell; the empty text is. -/
def Value.IsKept (v : Value α) : Prop := ∃ s, v = .text s ∧ s ∉ Table.missingMarks

structure IsWholeTag (tag : List Char) : Prop where
  nonempty : tag ≠ []
  single : tagSeparator ∉ tag
  trimmed : Text.trim tag = tag

/-- The written figure is read as a decimal, and as the same figure. -/
def ReadsBack (x : α) : Prop :=
  ∃ negative digits exponent,
    Number.Amount.ofText? (Scalar.text x).toList = some (.decimal negative digits exponent) ∧
    Scalar.ofDecimal negative digits exponent = x

namespace Transaction

/-- A transaction whose fields have written forms of their own. -/
structure IsStorable (t : Transaction α) : Prop where
  id : t.id.IsKept
  date : ∃ d, t.date = .day d ∧ 1000 ≤ d.year
  amount : ∃ x, t.amount = .real x ∧ Scalar.isUndefined x = false ∧ ReadsBack x
  merchant : t.merchant.IsKept
  category : t.category.IsKept
  account : t.account.IsKept
  type : t.type.IsKept
  status : t.status.IsKept
  tags : ∃ tags : List String, t.tags = tags.map .text ∧
    (∀ tag ∈ tags, IsWholeTag tag.toList) ∧
    (tags = [] ∨ String.ofList (joinTags (tags.map String.toList)) ∉ Table.missingMarks)
  goalId : t.goalId = .null ∨ t.goalId.IsKept
  isRecurring : ∃ b, t.isRecurring = .bool b
  recurringId : t.recurringId = .null ∨ t.recurringId.IsKept
  notes : t.notes = .null ∨ t.notes.IsKept

/-- A transaction of the kind that a table gives: texts, a day and a figure. -/
structure IsTabular (t : Transaction α) : Prop where
  id : ∃ s, t.id = .text s
  date : ∃ d, t.date = .day d
  amount : ∃ x, t.amount = .real x
  merchant : ∃ s, t.merchant = .text s
  category : ∃ s, t.category = .text s
  account : ∃ s, t.account = .text s
  type : ∃ s, t.type = .text s
  status : ∃ s, t.status = .text s
  tags : ∃ tags : List String, t.tags = tags.map .text
  goalId : t.goalId = .null ∨ ∃ s, t.goalId = .text s
  isRecurring : ∃ b, t.isRecurring = .bool b
  recurringId : t.recurringId = .null ∨ ∃ s, t.recurringId = .text s
  notes : t.notes = .null ∨ ∃ s, t.notes = .text s

theorem IsStorable.isTabular {t : Transaction α} (h : t.IsStorable) : t.IsTabular := by
  have text {v : Value α} (kept : v.IsKept) : ∃ s, v = .text s := kept.imp fun _ => And.left
  obtain ⟨d, date, -⟩ := h.date
  obtain ⟨x, amount, -⟩ := h.amount
  obtain ⟨tags, texts, -⟩ := h.tags
  exact ⟨text h.id, ⟨d, date⟩, ⟨x, amount⟩, text h.merchant, text h.category, text h.account,
    text h.type, text h.status, ⟨tags, texts⟩, h.goalId.imp_right text, h.isRecurring,
    h.recurringId.imp_right text, h.notes.imp_right text⟩

/-! ### Writing -/

def columnNames : List String := requiredColumns ++ optionalColumns

def tagTexts (t : Transaction α) : List (List Char) :=
  t.tags.filterMap fun tag => (tagText tag).toOption

omit [Scalar α] in
theorem tagTexts_eq {t : Transaction α} {tags : List String} (texts : t.tags = tags.map .text) :
    t.tagTexts = tags.map String.toList := by
  rw [tagTexts, texts, List.filterMap_map]
  change tags.filterMap (fun tag => some tag.toList) = _
  rw [List.filterMap_eq_map']

omit [Scalar α] in
theorem tagsCell_eq {t : Transaction α} {tags : List String} (texts : t.tags = tags.map .text) :
    t.tagsCell = .ok (.text (String.ofList (joinTags t.tagTexts))) := by
  have read : t.tags.mapM tagText = .ok t.tagTexts := by
    rw [tagTexts_eq texts, texts, List.mapM_map]
    exact mapM_eq_map fun _ _ => rfl
  rw [tagsCell, read]
  rfl

def line (t : Transaction α) : List (Value α) :=
  [t.id, .text (t.date.shortText?.getD ""), t.amount, t.merchant, t.category, t.account, t.type,
    t.status, .text (String.ofList (joinTags t.tagTexts)), t.goalId, t.isRecurring, t.recurringId,
    t.notes]

omit [Scalar α] in
theorem cells_eq_line {t : Transaction α} (h : t.IsTabular) : t.cells = .ok t.line := by
  obtain ⟨d, date⟩ := h.date
  obtain ⟨tags, texts⟩ := h.tags
  have dated : t.dateCell = .ok (.text (t.date.shortText?.getD "")) := by
    rw [dateCell, date]
    rfl
  rw [cells, dated, tagsCell_eq texts]
  rfl

omit [Scalar α] in
theorem isWhole_line {t : Transaction α} (h : t.IsTabular) :
    ∀ v ∈ t.line, Column.isWhole v = false := by
  have text {v : Value α} (hv : ∃ s, v = .text s) : Column.isWhole v = false := by
    obtain ⟨s, rfl⟩ := hv
    rfl
  have optional {v : Value α} (hv : v = .null ∨ ∃ s, v = .text s) : Column.isWhole v = false := by
    rcases hv with rfl | hv
    · rfl
    · exact text hv
  obtain ⟨x, amount⟩ := h.amount
  obtain ⟨b, isRecurring⟩ := h.isRecurring
  simp only [line, List.forall_mem_cons, amount, isRecurring]
  exact ⟨text h.id, rfl, rfl, text h.merchant, text h.category, text h.account, text h.type,
    text h.status, rfl, optional h.goalId, rfl, optional h.recurringId, optional h.notes, by simp⟩

def storedCells (t : Transaction α) : Csv.Row := t.line.map writtenCell

theorem writeTransactions_eq (undefined : Column.isGap (.real Scalar.undefined : Value α) = true)
    {ts : List (Transaction α)} (tabular : ∀ t ∈ ts, t.IsTabular) :
    writeTransactions ts = .ok (String.ofList (Csv.writeRows
      (columnNames.map String.toList :: ts.map storedCells))) := by
  have lines : ts.mapM cells = .ok (ts.map line) :=
    mapM_eq_map fun t ht => cells_eq_line (tabular t ht)
  have long : ∀ row ∈ ts.map line, row.length = columnNames.length := by
    rw [List.forall_mem_map]
    exact fun _ _ => rfl
  have even : ∀ i < columnNames.length,
      Column.IsEven ((ts.map line).map fun row => row.getD i .null) := by
    intro i hi
    refine .inr fun v hv => ?_
    simp only [List.map_map, List.mem_map] at hv
    obtain ⟨t, ht, rfl⟩ := hv
    have inside : i < t.line.length := hi
    rw [Function.comp_apply, List.getD_eq_getElem _ _ inside]
    exact isWhole_line (tabular t ht) _ (List.getElem_mem inside)
  have written := writeColumns_rows undefined long even
  rw [writeTransactions, lines, ok_bind]
  rw [List.length_map, List.map_map] at written
  simp only [pure_eq, List.length_map]
  exact congrArg Except.ok written

/-! ### Reading -/

theorem ofCell_text {s : String} (kept : s ∉ Table.missingMarks) :
    Table.ofCell s.toList = (.text s : Value α) := by
  have absent : Table.missingMarks.contains s = false := by
    rwa [← Bool.not_eq_true, List.contains_iff_mem]
  rw [Table.ofCell]
  simp only [String.ofList_toList, absent]
  rfl

theorem ofCell_null :
    (Table.ofCell (writtenCell (.null : Value α)) : Value α) = .real Scalar.undefined := rfl

theorem ofCell_kept {v : Value α} (h : v.IsKept) : Table.ofCell (writtenCell v) = v := by
  obtain ⟨s, rfl, kept⟩ := h
  exact ofCell_text kept

theorem plain_kept {v : Value α} (h : v.IsKept) : (.text v.plain : Value α) = v := by
  obtain ⟨s, rfl, -⟩ := h
  rfl

section

variable (undefined : Column.isGap (.real Scalar.undefined : Value α) = true)
include undefined

theorem optionalText_stored {v : Value α} (h : v = .null ∨ v.IsKept) :
    optionalText (Table.ofCell (writtenCell v) : Value α) = v := by
  rcases h with rfl | h
  · rw [ofCell_null, optionalText, presentCell, if_pos undefined]
  · rw [ofCell_kept h]
    obtain ⟨s, rfl, -⟩ := h
    rfl

theorem optionalValue_stored {v : Value α} (h : v = .null ∨ v.IsKept) :
    optionalValue (Table.ofCell (writtenCell v) : Value α) = v := by
  rcases h with rfl | h
  · rw [ofCell_null, optionalValue, presentCell, if_pos undefined]
    rfl
  · rw [ofCell_kept h]
    obtain ⟨s, rfl, -⟩ := h
    rfl

omit undefined in
theorem tagsOfText_joinTags {tags : List (List Char)} (whole : ∀ tag ∈ tags, IsWholeTag tag) :
    tagsOfText (joinTags tags) = tags := by
  by_cases empty : tags = []
  · subst empty
    rfl
  · have trimmed : tags.map Text.trim = tags :=
      (List.map_congr_left fun tag htag => (whole tag htag).trimmed).trans (List.map_id _)
    have nonempty : tags.filter (fun tag => !tag.isEmpty) = tags := by
      rw [List.filter_eq_self]
      intro tag htag
      simpa using (whole tag htag).nonempty
    rw [tagsOfText, joinTags, Text.splitAt_joinWith empty fun tag htag => (whole tag htag).single,
      trimmed, nonempty]

theorem tagsOfCell_joinTags {tags : List String} (whole : ∀ tag ∈ tags, IsWholeTag tag.toList)
    (kept : tags = [] ∨ String.ofList (joinTags (tags.map String.toList)) ∉ Table.missingMarks) :
    tagsOfCell (Table.ofCell (joinTags (tags.map String.toList)) : Value α) = tags.map .text := by
  rcases kept with rfl | kept
  · change tagsOfCell (Table.ofCell (writtenCell (.null : Value α)) : Value α) = []
    rw [ofCell_null, tagsOfCell, presentCell, if_pos undefined]
  · have cell := ofCell_text (α := α) kept
    rw [String.toList_ofList] at cell
    rw [cell]
    change (tagsOfText (String.ofList _).toList).map _ = _
    rw [String.toList_ofList, tagsOfText_joinTags (List.forall_mem_map.mpr whole), List.map_map]
    exact List.map_congr_left fun tag _ => congrArg Value.text String.ofList_toList

theorem tagsOfCell_stored {t : Transaction α} (h : t.IsStorable) :
    tagsOfCell (Table.ofCell (joinTags t.tagTexts)) = t.tags := by
  obtain ⟨tags, texts, whole, kept⟩ := h.tags
  rw [tagTexts_eq texts, texts]
  exact tagsOfCell_joinTags undefined whole kept

omit undefined in
theorem flagOfCell_stored (b : Bool) :
    flagOfCell (Table.ofCell (writtenCell (.bool b : Value α)) : Value α) = b := by
  have kept : Value.boolText b ∉ Table.missingMarks := by cases b <;> decide
  have cell : Table.ofCell (writtenCell (.bool b : Value α)) =
      (.text (Value.boolText b) : Value α) :=
    ofCell_text kept
  rw [cell]
  change flagTexts.contains (String.ofList (Text.lower (Text.trim (Value.boolText b).toList))) = b
  cases b <;> decide

omit undefined in
theorem textCell_stored {table : Table α} {name : String} {row : Nat} {v : Value α}
    (cell : table.cell name row = Table.ofCell (writtenCell v)) (kept : v.IsKept) :
    table.textCell name row = v := by
  rw [Table.textCell, cell, ofCell_kept kept, plain_kept kept]

theorem transaction_stored {t : Transaction α} (h : t.IsStorable) {table : Table α} {row : Nat}
    (stored : ∀ i (hi : i < columnNames.length),
      table.cell columnNames[i] row = Table.ofCell (t.storedCells.getD i []))
    {d : Date} (date : t.date = .day d) {x : α} (amount : t.amount = .real x) :
    table.transaction row d x = t := by
  obtain ⟨b, isRecurring⟩ := h.isRecurring
  have goalId : table.cell "goal_id" row = Table.ofCell (writtenCell t.goalId) :=
      stored 9 (by decide)
  have recurringId : table.cell "recurring_id" row = Table.ofCell (writtenCell t.recurringId) :=
    stored 11 (by decide)
  have notes : table.cell "notes" row = Table.ofCell (writtenCell t.notes) := stored 12 (by decide)
  have flag : table.cell "is_recurring" row = Table.ofCell (writtenCell (.bool b : Value α)) := by
    have cell : table.cell "is_recurring" row = Table.ofCell (writtenCell t.isRecurring) :=
      stored 10 (by decide)
    rwa [isRecurring] at cell
  have tags : table.cell "tags" row = Table.ofCell (joinTags t.tagTexts) := by
    have cell : table.cell "tags" row = Table.ofCell (String.ofList (joinTags t.tagTexts)).toList :=
      stored 8 (by decide)
    rwa [String.toList_ofList] at cell
  have id : table.textCell "id" row = t.id := textCell_stored (stored 0 (by decide)) h.id
  have merchant : table.textCell "merchant" row = t.merchant :=
    textCell_stored (stored 3 (by decide)) h.merchant
  have category : table.textCell "category" row = t.category :=
    textCell_stored (stored 4 (by decide)) h.category
  have account : table.textCell "account" row = t.account :=
    textCell_stored (stored 5 (by decide)) h.account
  have type : table.textCell "type" row = t.type := textCell_stored (stored 6 (by decide)) h.type
  have status : table.textCell "status" row = t.status :=
    textCell_stored (stored 7 (by decide)) h.status
  rw [Table.transaction, id, merchant, category, account, type, status, tags,
    tagsOfCell_stored undefined h, goalId, optionalText_stored undefined h.goalId, flag,
    flagOfCell_stored, recurringId, optionalText_stored undefined h.recurringId, notes,
    optionalValue_stored undefined h.notes, ← date, ← amount, ← isRecurring]

end

/-! ### Dates and amounts of a file -/

theorem shortText_kept {d : Date} (low : 1000 ≤ d.year) {marks : List String}
    (noDate : ∀ mark ∈ marks, Calendar.Layout.of? mark.toList = none) : d.shortText ∉ marks := by
  intro missing
  have none := noDate _ missing
  rw [Calendar.of?_shortText low] at none
  cases none

omit [Scalar α] in
theorem text?_shortText {d : Date} (low : 1000 ≤ d.year) :
    DateColumn.text? (.text d.shortText : Value α) = some d.shortText := by
  have kept : d.shortText ∉ DateColumn.missingMarks := shortText_kept low (by decide)
  rw [DateColumn.text?, if_neg (by rwa [List.contains_iff_mem])]

theorem read_shortTexts {dates : List Date} (low : ∀ d ∈ dates, 1000 ≤ d.year) :
    DateColumn.reader.read (dates.map fun d => (.text d.shortText : Value α)) =
      .ok (dates.map some) := by
  cases dates with
  | nil => rfl
  | cons first others =>
    have text := text?_shortText (α := α) (low first List.mem_cons_self)
    have chosen : DateColumn.firstText? ((first :: others).map fun d =>
        (.text d.shortText : Value α)) = some first.shortText := by
      have present : (fun v : Value α => !Column.isGap v &&
          decide (v.isText = true → (DateColumn.text? v).isSome = true))
          (.text first.shortText) = true := by
        simp only [text]
        rfl
      rw [DateColumn.firstText?, List.map_cons,
        List.find?_cons_of_pos (l := others.map fun d => (.text d.shortText : Value α)) present]
      exact text
    have layout :
        DateColumn.layout? ((first :: others).map fun d => (.text d.shortText : Value α)) =
        some Calendar.plainLayout := by
      rw [DateColumn.layout?, chosen, Option.bind_some,
        Calendar.of?_shortText (low first List.mem_cons_self)]
    have read (d : Date) (hd : d ∈ first :: others) :
        DateColumn.ofCell? (some Calendar.plainLayout) (.text d.shortText : Value α) =
          some ⟨d, 0, none⟩ := Calendar.read?_shortText (low d hd)
    have together : Moment.shareZone (((first :: others).map fun d =>
        (.text d.shortText : Value α)).filterMap
          (DateColumn.ofCell? (some Calendar.plainLayout))) = true := by
      refine Moment.shareZone_of_bare fun m hm => ?_
      obtain ⟨v, hv, found⟩ := List.mem_filterMap.mp hm
      obtain ⟨d, hd, rfl⟩ := List.mem_map.mp hv
      rw [read d hd, Option.some_inj] at found
      rw [← found]
    rw [DateColumn.read_eq layout together, List.map_map]
    refine congrArg Except.ok (List.map_congr_left fun d hd => ?_)
    rw [Function.comp_apply, read d hd]
    rfl

theorem read_figureTexts {xs : List α} (back : ∀ x ∈ xs, ReadsBack x) :
    AmountColumn.reader.read (xs.map fun x => (.text (Scalar.text x) : Value α)) =
      .ok (xs.map some) := by
  cases xs with
  | nil => rfl
  | cons first others =>
    have unworded : AmountColumn.isWorded ((first :: others).map fun x =>
        (.text (Scalar.text x) : Value α)) = false := by
      obtain ⟨negative, digits, exponent, read, -⟩ := back first List.mem_cons_self
      have whole : AmountColumn.whole? (.text (Scalar.text first) : Value α) = none := by
        rw [AmountColumn.whole?, read]
        rfl
      rw [AmountColumn.isWorded, List.map_cons, List.mapM_cons, whole]
      rfl
    change Except.ok (((first :: others).map _).map (AmountColumn.reader.cell (AmountColumn.isWorded
      _))) = _
    rw [unworded, List.map_map]
    refine congrArg Except.ok (List.map_congr_left fun x hx => ?_)
    obtain ⟨negative, digits, exponent, read, same⟩ := back x hx
    change (Number.Amount.ofText? (Scalar.text x).toList).map _ = some x
    rw [read]
    exact congrArg some same

/-! ### The cells of a file -/

theorem dateCell_stored {t : Transaction α} {d : Date} (date : t.date = .day d)
    (low : 1000 ≤ d.year) :
    (Table.ofCell (t.storedCells.getD 1 []) : Value α) = .text d.shortText := by
  have written : t.storedCells.getD 1 [] = d.shortText.toList := by
    change (t.date.shortText?.getD "").toList = _
    rw [date]
    rfl
  rw [written, ofCell_text (shortText_kept low (by decide))]

theorem amountCell_stored {t : Transaction α} {x : α} (amount : t.amount = .real x)
    (defined : Scalar.isUndefined x = false)
    (read : (Number.Amount.ofText? (Scalar.text x).toList).isSome = true) :
    (Table.ofCell (t.storedCells.getD 2 []) : Value α) = .text (Scalar.text x) := by
  have kept : Scalar.text x ∉ Table.missingMarks := by
    intro missing
    have noAmount : ∀ mark ∈ Table.missingMarks, Number.Amount.ofText? mark.toList = none := by
      decide
    rw [noAmount _ missing] at read
    cases read
  have written : t.storedCells.getD 2 [] = (Scalar.text x).toList := by
    change writtenCell t.amount = _
    rw [amount, writtenCell, Column.isGap, defined]
    rfl
  rw [written, ofCell_text kept]

/-! ### The table of a file -/

def storedTable (ts : List (Transaction α)) : Table α :=
  Table.ofRows columnNames (ts.map storedCells)

theorem columnNames_distinct : columnNames.Nodup := by decide

theorem rowCount_storedTable (ts : List (Transaction α)) :
    (storedTable ts).rowCount = ts.length := by
  rw [storedTable, Table.rowCount_ofRows (by decide), List.length_map]

theorem missingColumns_storedTable (ts : List (Transaction α)) :
    (storedTable ts).missingColumns = [] := by
  rw [Table.missingColumns, List.filter_eq_nil_iff]
  intro name hname
  have listed : name ∈ columnNames := List.mem_append_left optionalColumns hname
  obtain ⟨i, hi, rfl⟩ := List.getElem_of_mem listed
  rw [storedTable, Table.column?_ofRows columnNames_distinct hi]
  exact Bool.false_ne_true

theorem column_storedTable (ts : List (Transaction α)) {i : Nat} (hi : i < columnNames.length) :
    (storedTable ts).cells columnNames[i] =
      ts.map fun t => Table.ofCell (t.storedCells.getD i []) := by
  rw [storedTable, Table.cells, Table.column?_ofRows columnNames_distinct hi, List.map_map]
  rfl

theorem cell_storedTable {ts : List (Transaction α)} {row : Nat} (hrow : row < ts.length) {i : Nat}
    (hi : i < columnNames.length) :
    (storedTable ts).cell columnNames[i] row = Table.ofCell (ts[row].storedCells.getD i []) := by
  rw [storedTable, Table.cell_ofRows columnNames_distinct hi (by rwa [List.length_map]),
    List.getElem_map]

theorem readDates_storedTable {ts : List (Transaction α)} {date : Transaction α → Date}
    (dated : ∀ t ∈ ts, t.date = .day (date t)) (low : ∀ t ∈ ts, 1000 ≤ (date t).year) :
    DateColumn.reader.read ((storedTable ts).cells "date") = .ok ((ts.map date).map some) := by
  have column : (storedTable ts).cells "date" = _ :=
    column_storedTable ts (i := 1) (by decide)
  have texts : ts.map (fun t => (Table.ofCell (t.storedCells.getD 1 []) : Value α)) =
      (ts.map date).map fun d => .text d.shortText := by
    rw [List.map_map]
    exact List.map_congr_left fun t ht => dateCell_stored (dated t ht) (low t ht)
  rw [column, texts, read_shortTexts (List.forall_mem_map.mpr low)]

theorem readAmounts_storedTable {ts : List (Transaction α)} {x : Transaction α → α}
    (amount : ∀ t ∈ ts, t.amount = .real (x t))
    (defined : ∀ t ∈ ts, Scalar.isUndefined (x t) = false) (back : ∀ t ∈ ts, ReadsBack (x t)) :
    AmountColumn.reader.read ((storedTable ts).cells "amount") = .ok ((ts.map x).map some) := by
  have column : (storedTable ts).cells "amount" = _ :=
    column_storedTable ts (i := 2) (by decide)
  have texts : ts.map (fun t => (Table.ofCell (t.storedCells.getD 2 []) : Value α)) =
      (ts.map x).map fun x => .text (Scalar.text x) := by
    rw [List.map_map]
    refine List.map_congr_left fun t ht => amountCell_stored (amount t ht) (defined t ht) ?_
    obtain ⟨negative, digits, exponent, read, -⟩ := back t ht
    rw [read]
    rfl
  rw [column, texts, read_figureTexts (List.forall_mem_map.mpr back)]

theorem idsWithout_some {β : Type} (table : Table α) (readings : List β) :
    table.idsWithout (readings.map some) = [] := by
  rw [Table.idsWithout, List.filterMap_eq_nil_iff]
  intro p hp
  obtain ⟨reading, -, some⟩ := List.mem_map.mp (List.of_mem_zip hp).2
  rw [← some]
  rfl

theorem ofCsv_writeRows (ts : List (Transaction α)) :
    Table.ofCsv (Csv.writeRows (columnNames.map String.toList :: ts.map storedCells)) =
      .ok (storedTable ts) := by
  have even : ∀ row ∈ ts.map storedCells, row.length = (columnNames.map String.toList).length :=
    List.forall_mem_map.mpr fun _ _ => rfl
  have unmarked : (Csv.writeRows (columnNames.map String.toList :: ts.map storedCells)).head? ≠
      some Csv.byteOrderMark := by
    change some 'i' ≠ _
    decide
  exact Table.ofCsv_eq (Csv.readTable_writeRows (by decide) even unmarked)

section

variable (undefined : Column.isGap (.real Scalar.undefined : Value α) = true)
include undefined

theorem transactions_storedTable {ts : List (Transaction α)} (storable : ∀ t ∈ ts, t.IsStorable) :
    (storedTable ts).transactionsBy .standard = .ok ts := by
  have someDate : Nonempty Date := ⟨⟨0, by decide⟩⟩
  have someFigure : Nonempty α := ⟨Scalar.undefined⟩
  choose! date dated low using fun t ht => (storable t ht).date
  choose! x amount defined back using fun t ht => (storable t ht).amount
  have rows : ((ts.map date).zip (ts.map x)).mapIdx
      (fun row p => (storedTable ts).transaction row p.1 p.2) = ts := by
    rw [List.zip_map']
    refine List.ext_getElem (by simp) fun row _ hrow => ?_
    have ht : ts[row] ∈ ts := List.getElem_mem hrow
    rw [List.getElem_mapIdx, List.getElem_map]
    exact transaction_stored undefined (storable _ ht) (fun i hi => cell_storedTable hrow hi)
      (dated _ ht) (amount _ ht)
  have dates := readDates_storedTable dated low
  have amounts := readAmounts_storedTable amount defined back
  rw [Table.transactionsBy, missingColumns_storedTable, rowCount_storedTable,
    TransactionReaders.standard, dates, amounts]
  by_cases empty : ts.length = 0
  · rw [List.length_eq_zero_iff.mp empty]
    rfl
  · have counted : (ts.length == 0) = false := beq_false_of_ne empty
    simp only [counted, mapError_ok, ok_bind, idsWithout_some, filterMap_id_map_some, rows]
    rfl

theorem loadTransactions_written {ts : List (Transaction α)} (storable : ∀ t ∈ ts, t.IsStorable) :
    ∃ text, writeTransactions ts = .ok text ∧
      ∀ path, loadTransactions path (some text.toList) = .ok ts := by
  refine ⟨_, writeTransactions_eq undefined fun t ht => (storable t ht).isTabular, fun path => ?_⟩
  rw [String.toList_ofList, loadTransactions, loadTransactionsBy, ofCsv_writeRows, mapError_ok,
    ok_bind, transactions_storedTable undefined storable, mapError_ok]

end

end Transaction

/-! ### Binary floating point -/

theorem Column.isGap_undefined : Column.isGap (.real Scalar.undefined : Value Float) = true := rfl

/-- Transactions that may be stored come back from the file they are written to. -/
theorem loadTransactions_writeTransactions {ts : List (Transaction Float)}
    (storable : ∀ t ∈ ts, t.IsStorable) :
    ∃ text, writeTransactions ts = .ok text ∧
      ∀ path, loadTransactions path (some text.toList) = .ok ts :=
  Transaction.loadTransactions_written Column.isGap_undefined storable

def Transaction.quotedSample : Transaction Float where
  id := .text "t-1"
  date := .day ⟨738885, by decide⟩
  amount := .real 9.99
  merchant := .text " Bread, \"Butter\"\nand Jam "
  category := .text "food"
  account := .text "acc-1"
  type := .text "expense"
  status := .text "completed"
  tags := [.text "home", .text "two words"]
  goalId := .text "goal,1"
  isRecurring := .bool true
  recurringId := .null
  notes := .text "\"\n"

def Transaction.bareSample : Transaction Float where
  id := .text "t-2"
  date := .day ⟨738886, by decide⟩
  amount := .real 1200.0
  merchant := .text "Landlord"
  category := .text "housing"
  account := .text "acc-1"
  type := .text "expense"
  status := .text "pending"

theorem readsBack_nines : ReadsBack (9.99 : Float) := ⟨false, 999, -2, by decide, rfl⟩

theorem readsBack_whole : ReadsBack (1200.0 : Float) := ⟨false, 12000, -1, by decide, rfl⟩

theorem Transaction.isStorable_quotedSample : Transaction.quotedSample.IsStorable where
  id := ⟨_, rfl, by decide⟩
  date := ⟨_, rfl, by decide⟩
  amount := ⟨9.99, rfl, rfl, readsBack_nines⟩
  merchant := ⟨_, rfl, by decide⟩
  category := ⟨_, rfl, by decide⟩
  account := ⟨_, rfl, by decide⟩
  type := ⟨_, rfl, by decide⟩
  status := ⟨_, rfl, by decide⟩
  tags := ⟨["home", "two words"], rfl, by
    rintro tag (_ | ⟨_, _ | ⟨_, ⟨⟩⟩⟩) <;> exact ⟨by decide, by decide, by decide⟩,
    .inr (by decide)⟩
  goalId := .inr ⟨_, rfl, by decide⟩
  isRecurring := ⟨true, rfl⟩
  recurringId := .inl rfl
  notes := .inr ⟨_, rfl, by decide⟩

theorem Transaction.isStorable_bareSample : Transaction.bareSample.IsStorable where
  id := ⟨_, rfl, by decide⟩
  date := ⟨_, rfl, by decide⟩
  amount := ⟨1200.0, rfl, rfl, readsBack_whole⟩
  merchant := ⟨_, rfl, by decide⟩
  category := ⟨_, rfl, by decide⟩
  account := ⟨_, rfl, by decide⟩
  type := ⟨_, rfl, by decide⟩
  status := ⟨_, rfl, by decide⟩
  tags := ⟨[], rfl, by simp, .inl rfl⟩
  goalId := .inl rfl
  isRecurring := ⟨false, rfl⟩
  recurringId := .inl rfl
  notes := .inl rfl

theorem loadTransactions_writeTransactions_samples :
    (∀ t ∈ [Transaction.quotedSample, Transaction.bareSample], t.IsStorable) ∧
      ∃ text, writeTransactions [Transaction.quotedSample, Transaction.bareSample] = .ok text ∧
        ∀ path, loadTransactions path (some text.toList) =
          .ok [Transaction.quotedSample, Transaction.bareSample] := by
  have storable : ∀ t ∈ [Transaction.quotedSample, Transaction.bareSample], t.IsStorable := by
    simp only [List.forall_mem_cons]
    exact ⟨Transaction.isStorable_quotedSample, Transaction.isStorable_bareSample, by simp⟩
  exact ⟨storable, loadTransactions_writeTransactions storable⟩

end RecurringPayments
