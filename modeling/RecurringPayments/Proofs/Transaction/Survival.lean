import RecurringPayments.Proofs.Number.Defined
import RecurringPayments.Proofs.Number.Numeral
import RecurringPayments.Proofs.Report.Completion
import RecurringPayments.Proofs.Transaction.Tags

/-!
What rules write into loaded transactions, and what is left of it once the transactions have been
written to a file and loaded again. Rules may write any text, but a cell that reads like a missing
one is missing, and tags share one cell: a field comes back exactly if it has a written form of
its own.
-/
namespace RecurringPayments

open Result

/-! ### Fields in a file -/

namespace Value

/-- A text that a cell gives back: no mark of a missing cell, or the text that a missing cell is
shown as. -/
def IsLegible (v : Value Float) : Prop := v = .text "nan" ∨ v.IsKept

end Value

/-- Tags that stay apart in one cell, which is not taken for a missing one. -/
def AreLegibleTags (tags : List String) : Prop :=
  tags = [] ∨ (∀ tag ∈ tags, IsWholeTag tag.toList) ∧
    String.ofList (Transaction.joinTags (tags.map String.toList)) ∉ Table.missingMarks

theorem Table.ofCell_of_mem {s : String} (mark : s ∈ Table.missingMarks) :
    (Table.ofCell s.toList : Value Float) = .real Scalar.undefined := by
  rw [Table.ofCell]
  simp only [String.ofList_toList, List.contains_iff_mem.mpr mark, if_true]

theorem plain_undefined : (Value.real Scalar.undefined : Value Float).plain = "nan" := by
  decide +kernel

namespace Transaction

theorem text_stored_iff {v : Value Float} (text : ∃ s, v = .text s) :
    (.text (Table.ofCell (writtenCell v) : Value Float).plain : Value Float) = v ↔ v.IsLegible := by
  obtain ⟨s, rfl⟩ := text
  change Value.text (Table.ofCell s.toList : Value Float).plain = _ ↔ _
  by_cases mark : s ∈ Table.missingMarks
  · rw [Table.ofCell_of_mem mark, plain_undefined]
    simp [Value.IsLegible, Value.IsKept, mark, eq_comm]
  · rw [ofCell_text mark]
    simp [Value.IsLegible, Value.IsKept, mark, Value.plain]

theorem optionalText_stored_iff {v : Value Float} (text : v = .null ∨ ∃ s, v = .text s) :
    optionalText (Table.ofCell (writtenCell v) : Value Float) = v ↔ v = .null ∨ v.IsKept := by
  refine ⟨fun back => ?_, optionalText_stored Column.isGap_undefined⟩
  rcases text with rfl | ⟨s, rfl⟩
  · exact .inl rfl
  · refine .inr ⟨s, rfl, fun mark => ?_⟩
    change optionalText (Table.ofCell s.toList : Value Float) = _ at back
    rw [Table.ofCell_of_mem mark] at back
    cases back

theorem tagsOfCell_stored_iff (tags : List String) :
    tagsOfCell (Table.ofCell (joinTags (tags.map String.toList)) : Value Float) = tags.map .text ↔
      AreLegibleTags tags := by
  constructor
  · intro back
    generalize joined : String.ofList (joinTags (tags.map String.toList)) = cell
    have written : joinTags (tags.map String.toList) = cell.toList := by
      rw [← joined, String.toList_ofList]
    rw [written] at back
    by_cases mark : cell ∈ Table.missingMarks
    · rw [Table.ofCell_of_mem mark] at back
      exact .inl (List.map_eq_nil_iff.mp back.symm)
    · refine .inr ⟨fun tag htag => ?_, by rwa [joined]⟩
      rw [ofCell_text mark] at back
      have listed : (Value.text tag : Value Float) ∈ tags.map .text := List.mem_map_of_mem htag
      rw [← back] at listed
      obtain ⟨piece, hpiece, same⟩ := List.mem_map.mp listed
      cases same
      rw [String.toList_ofList]
      exact isWholeTag_of_mem_tagsOfText hpiece
  · rintro (rfl | ⟨whole, kept⟩)
    · rfl
    · exact tagsOfCell_joinTags Column.isGap_undefined whole (.inr kept)

end Transaction

/-! ### Loaded transactions -/

theorem AmountColumn.exists_value?_of_cell {worded : Bool} {v : Value Float}
    (plain : v.IsTextOrGap) {x : Float} (read : reader.cell worded v = some x) :
    ∃ a, LawfulScalar.value? x = some a := by
  rcases plain with ⟨s, rfl⟩ | gap
  swap
  · rw [reader.cell_gap worded v gap] at read
    cases read
  simp only [reader] at read
  split at read
  · cases read
    exact exists_value?_ofDecimal _ _ 0
  · obtain ⟨written, -, rfl⟩ := Option.map_eq_some_iff.mp read
    cases written with
    | whole negative digits => exact exists_value?_ofDecimal negative digits 0
    | decimal negative digits exponent => exact exists_value?_ofDecimal negative digits exponent
    | infinite negative => exact exists_value?_infinite negative

theorem optionalText_isText (v : Value Float) :
    optionalText v = .null ∨ ∃ s, optionalText v = .text s := by
  rw [optionalText]
  cases presentCell v with
  | none => exact .inl rfl
  | some w => exact .inr ⟨_, rfl⟩

theorem optionalValue_isText {v : Value Float} (plain : v.IsTextOrGap) :
    optionalValue v = .null ∨ ∃ s, optionalValue v = .text s := by
  rw [optionalValue, presentCell]
  rcases plain with ⟨s, rfl⟩ | gap
  · exact .inr ⟨s, rfl⟩
  · rw [if_pos gap]
    exact .inl rfl

theorem Cells.isTabular_transaction {c : Cells Float} (notes : (c "notes").IsTextOrGap)
    (date : Date) (amount : Float) : (c.transaction date amount).IsTabular where
  id := ⟨_, rfl⟩
  date := ⟨date, rfl⟩
  amount := ⟨amount, rfl⟩
  merchant := ⟨_, rfl⟩
  category := ⟨_, rfl⟩
  account := ⟨_, rfl⟩
  type := ⟨_, rfl⟩
  status := ⟨_, rfl⟩
  tags := exists_tagsOfCell _
  goalId := optionalText_isText _
  isRecurring := ⟨_, rfl⟩
  recurringId := optionalText_isText _
  notes := optionalValue_isText notes

structure Transaction.IsWritable (t : Transaction Float) : Prop extends t.IsTabular where
  defined : ∃ x a, t.amount = .real x ∧ LawfulScalar.value? x = some a

theorem isWritable_of_loadTransactions {path : String} {content : Option (List Char)}
    {ts : List (Transaction Float)} (loaded : loadTransactions path content = .ok ts) :
    ∀ t ∈ ts, t.IsWritable := by
  intro t ht
  cases content with
  | none => cases loaded
  | some text =>
    obtain ⟨table, read, loaded⟩ := bind_eq_ok_iff.mp (mapError_eq_ok_iff.mp loaded)
    have textual := Table.isTextual_of_ofCsv Column.isGap_undefined (mapError_eq_ok_iff.mp read)
    obtain ⟨k, l, i, made⟩ := Table.exists_row_of_mem textual loaded ht
    obtain ⟨date, amount, priced, rfl⟩ := TransactionReaders.exists_of_transaction? made
    obtain ⟨a, value⟩ :=
      AmountColumn.exists_value?_of_cell (Table.isTextOrGap_cell textual _ i) priced
    exact ⟨Cells.isTabular_transaction (Table.isTextOrGap_cell textual _ i) date amount,
      amount, a, rfl, value⟩

/-! ### Rules -/

namespace Action

theorem getD_lastOf? {P : Value Float → Prop} (text : ∀ s, P (.text s))
    {actions : List (Action Float)} (texts : ∀ a ∈ actions, a.value.isText = true)
    (type : String) {v : Value Float} (own : P v) : P ((lastOf? type actions).getD v) := by
  cases last : lastOf? type actions with
  | none => exact own
  | some w =>
    obtain ⟨a, ha, rfl⟩ := List.mem_map.mp (List.mem_of_getLast? last)
    obtain ⟨s, value⟩ := Value.isText_iff.mp (texts a (List.mem_filter.mp ha).1)
    rw [Option.getD_some, value]
    exact text s

end Action

theorem Rule.isText_of_mem_carriedOut {rules : List (Rule Float)} (texts : ∀ r ∈ rules, r.HasTexts)
    (t : Transaction Float) : ∀ a ∈ carriedOut rules t, a.value.isText = true := by
  induction rules generalizing t with
  | nil => exact List.forall_mem_nil _
  | cons r rest ih =>
    rw [List.forall_mem_cons] at texts
    rw [carriedOut_cons texts.1, List.forall_mem_append]
    refine ⟨?_, ih texts.2 _⟩
    split
    · obtain ⟨actions, listed, texts⟩ := texts.1
      rwa [listed]
    · exact List.forall_mem_nil _

theorem Transaction.IsWritable.afterAll {t : Transaction Float} (h : t.IsWritable)
    {actions : List (Action Float)} (texts : ∀ a ∈ actions, a.value.isText = true) :
    (t.afterAll actions).IsWritable := by
  have text (type : String) {v : Value Float} (own : ∃ s, v = .text s) :
      ∃ s, (Action.lastOf? type actions).getD v = .text s :=
    Action.getD_lastOf? (P := fun v => ∃ s, v = .text s) (fun s => ⟨s, rfl⟩) texts type own
  have optional (type : String) {v : Value Float} (own : v = .null ∨ ∃ s, v = .text s) :
      (Action.lastOf? type actions).getD v = .null ∨
        ∃ s, (Action.lastOf? type actions).getD v = .text s :=
    Action.getD_lastOf? (P := fun v => v = .null ∨ ∃ s, v = .text s) (fun s => .inr ⟨s, rfl⟩) texts
      type own
  obtain ⟨tags, listed⟩ := h.tags
  have joined : (t.afterAll actions).tags = (tags ++ Action.newTags t.tags actions).map .text := by
    rw [List.map_append, ← listed]
    rfl
  have flag : ∃ b, (t.afterAll actions).isRecurring = .bool b := by
    rw [Transaction.afterAll]
    dsimp only
    split
    · exact ⟨true, rfl⟩
    · exact h.isRecurring
  exact ⟨⟨h.id, h.date, h.amount, h.merchant, text _ h.category, h.account, h.type, text _ h.status,
    ⟨_, joined⟩, optional _ h.goalId, flag, optional _ h.recurringId, h.notes⟩, h.defined⟩

/-! ### Writing and loading again -/

/-- What a file gives back of the fields that rules write. -/
structure Transaction.KeepsLegible (t u : Transaction Float) : Prop where
  category : u.category = t.category ↔ t.category.IsLegible
  status : u.status = t.status ↔ t.status.IsLegible
  tags : ∃ tags : List String, t.tags = tags.map .text ∧ (u.tags = t.tags ↔ AreLegibleTags tags)
  goalId : u.goalId = t.goalId ↔ t.goalId = .null ∨ t.goalId.IsKept
  recurringId : u.recurringId = t.recurringId ↔ t.recurringId = .null ∨ t.recurringId.IsKept

namespace Transaction

theorem keepsLegible_of_stored {t : Transaction Float} (h : t.IsTabular) {c : Cells Float}
    (stored : ∀ i (hi : i < columnNames.length),
      c columnNames[i] = Table.ofCell (t.storedCells.getD i []))
    (date : Date) (amount : Float) : t.KeepsLegible (c.transaction date amount) := by
  have shown (name : String) {v : Value Float} (cell : c name = Table.ofCell (writtenCell v)) :
      c.text name = .text (Table.ofCell (writtenCell v) : Value Float).plain := by
    rw [Cells.text, cell]
  have category := shown "category" (stored 4 (by decide))
  have status := shown "status" (stored 7 (by decide))
  have tags : c "tags" = Table.ofCell (String.ofList (joinTags t.tagTexts)).toList :=
    stored 8 (by decide)
  have goalId : c "goal_id" = Table.ofCell (writtenCell t.goalId) := stored 9 (by decide)
  have recurringId : c "recurring_id" = Table.ofCell (writtenCell t.recurringId) :=
    stored 11 (by decide)
  obtain ⟨texts, listed⟩ := h.tags
  rw [String.toList_ofList, tagTexts_eq listed] at tags
  rw [Cells.transaction, category, status, tags, goalId, recurringId]
  refine ⟨text_stored_iff h.category, text_stored_iff h.status, ⟨texts, listed, ?_⟩,
    optionalText_stored_iff h.goalId, optionalText_stored_iff h.recurringId⟩
  rw [listed]
  exact tagsOfCell_stored_iff texts

section

variable {x : Float} {a : EReal} (value : LawfulScalar.value? x = some a)
include value

theorem isUndefined_of_value? : Scalar.isUndefined x = false := by
  rw [Scalar.isUndefined, Scalar.order_value value value]
  rfl

theorem isSome_ofText?_text : (Number.Amount.ofText? (Scalar.text x).toList).isSome = true := by
  have number : Binary64.ofFloat x ≠ .undefined := by
    intro undefined
    change (Binary64.ofFloat x).value? = _ at value
    rw [undefined] at value
    cases value
  change (Number.Amount.ofText? (String.ofList (Binary64.ofFloat x).write).toList).isSome = true
  rw [String.toList_ofList]
  exact Binary64.isSome_ofText?_write number

end

variable {ts : List (Transaction Float)} (writable : ∀ t ∈ ts, t.IsWritable)
include writable

theorem unpriced_storedTable (worded : Bool) :
    (storedTable ts).unread "amount" (AmountColumn.reader.cell worded) = [] := by
  rw [Table.unread, List.filter_eq_nil_iff]
  intro i hi
  rw [List.mem_range, rowCount_storedTable] at hi
  obtain ⟨x, a, amount, value⟩ := (writable _ (List.getElem_mem hi)).defined
  have cell : (storedTable ts).cell "amount" i = .text (Scalar.text x) :=
    (cell_storedTable hi (i := 2) (by decide)).trans
      (amountCell_stored amount (isUndefined_of_value? value) (isSome_ofText?_text value))
  obtain ⟨figure, read⟩ := Option.isSome_iff_exists.mp (isSome_ofText?_text value)
  rw [cell]
  simp only [Column.isGap, AmountColumn.reader, AmountColumn.figure?, read]
  split <;> simp

variable (dated : ∀ t ∈ ts, ∀ d, t.date = .day d → 1000 ≤ d.year)
include dated

theorem readDates_writable : ∃ dates : List Date,
    DateColumn.reader.read ((storedTable ts).cells "date") = .ok (dates.map some) := by
  have someDate : Nonempty Date := ⟨⟨0, by decide⟩⟩
  choose! date hdate using fun t ht => (writable t ht).date
  exact ⟨ts.map date, readDates_storedTable hdate fun t ht => dated t ht _ (hdate t ht)⟩

theorem exists_reload : ∃ text us, writeTransactions ts = .ok text ∧
    (∀ path, loadTransactions path (some text.toList) = .ok us) ∧
      List.Forall₂ KeepsLegible ts us := by
  have stored := ofCsv_writeRows ts
  have textual := Table.isTextual_of_ofCsv Column.isGap_undefined stored
  have whole : (storedTable ts).absent = [] := by
    rw [← Table.missingColumns_eq, missingColumns_storedTable]
  obtain ⟨dates, readDates⟩ := readDates_writable writable dated
  obtain ⟨k, settled, read⟩ := Table.exists_manner_of_read textual whole (by decide) readDates
  obtain ⟨us, loaded, length, rows⟩ : ∃ us, (storedTable ts).transactionsBy .standard = .ok us ∧
      us.length = (storedTable ts).rowCount ∧ ∀ i < (storedTable ts).rowCount,
        us[i]? = TransactionReaders.standard.transaction? k
          (AmountColumn.isWorded ((storedTable ts).cells "amount")) ((storedTable ts).row i) := by
    by_cases filled : (storedTable ts).rowCount = 0
    · exact ⟨[], Table.transactionsBy_of_empty whole filled, filled.symm, by omega⟩
    · exact Table.transactionsBy_of_readable (r := .standard) textual whole filled settled read rfl
        (unpriced_storedTable writable _)
  refine ⟨_, us, writeTransactions_eq Column.isGap_undefined fun t ht =>
    (writable t ht).toIsTabular, fun path => ?_, ?_⟩
  · rw [String.toList_ofList, loadTransactions, loadTransactionsBy, stored, mapError_ok, ok_bind,
      loaded, mapError_ok]
  · rw [rowCount_storedTable] at length rows
    refine List.forall₂_iff_get.mpr ⟨length.symm, fun i hi hi' => ?_⟩
    have made := rows i hi
    rw [List.getElem?_eq_getElem hi', eq_comm] at made
    obtain ⟨date, amount, -, same⟩ := TransactionReaders.exists_of_transaction? made
    rw [List.get_eq_getElem, List.get_eq_getElem, same]
    exact keepsLegible_of_stored (writable _ (List.getElem_mem hi)).toIsTabular
      (fun k hk => cell_storedTable hi hk) date amount

end Transaction

def shopFile (days : List String) : String :=
  String.join ("id,date,amount,merchant,category,account,type,status\n" :: days.map fun day =>
    "t-" ++ day ++ "," ++ day ++ ",9.5,Corner shop,Food,main,debit,posted\n")

def shopRecords (category tag : String) : Value Float :=
  let action (type value : String) : Value Float :=
    .mapping [(.text "type", .text type), (.text "value", .text value)]
  .list [.mapping [
    (.text "name", .text "Shops"),
    (.text "logic", .text "and"),
    (.text "conditions", .list [.mapping [
      (.text "field", .text "merchant"), (.text "operator", .text "contains"),
      (.text "value", .text "shop")]]),
    (.text "actions", .list [action "setCategory" category, action "addTag" tag])]]

theorem exists_of_any {ε β : Type} {x : Except ε β} {p : β → Bool} (h : x.toOption.any p = true) :
    ∃ b, x = .ok b ∧ p b = true := by
  cases x with
  | ok b => exact ⟨b, rfl, h⟩
  | error e => cases h

/-- Of loaded transactions, rules without problems and the file written after them, a later load
gives back each field that rules write exactly if it has a written form of its own. -/
theorem exists_reload_afterRules {path : String} {content : Option (List Char)}
    {ts : List (Transaction Float)} (loaded : loadTransactions path content = .ok ts)
    (dated : ∀ t ∈ ts, ∀ d, t.date = .day d → 1000 ≤ d.year) {rules : List (Rule Float)}
    (valid : ∀ r ∈ rules, r.isValid = true) :
    ∃ outcomes text us, Rule.applyToMany rules ts = .ok outcomes ∧
      writeTransactions (outcomes.map (·.transaction)) = .ok text ∧
      (∀ path', loadTransactions path' (some text.toList) = .ok us) ∧
      List.Forall₂ Transaction.KeepsLegible (outcomes.map (·.transaction)) us := by
  have texts : ∀ r ∈ rules, r.HasTexts := fun r hr => Rule.hasTexts_of_isValid (valid r hr)
  obtain ⟨outcomes, applied, after⟩ := Rule.transactions_applyToMany texts ts
  have writable : ∀ t ∈ outcomes.map (·.transaction), t.IsWritable := by
    rw [after, List.forall_mem_map]
    exact fun t ht => (isWritable_of_loadTransactions loaded t ht).afterAll
      (Rule.isText_of_mem_carriedOut texts t)
  have datedAfter : ∀ t ∈ outcomes.map (·.transaction), ∀ d, t.date = .day d → 1000 ≤ d.year := by
    rw [after, List.forall_mem_map]
    exact fun t ht => dated t ht
  obtain ⟨text, us, written, reloaded, back⟩ := Transaction.exists_reload writable datedAfter
  exact ⟨outcomes, text, us, applied, written, reloaded, back⟩

theorem exists_reload_afterRules_shopFile :
    ∃ ts rules, loadTransactions "bank.csv" (some (shopFile ["2025-01-13"]).toList) = .ok ts ∧
      Rule.ofRecords (shopRecords "NA" "home") = .ok rules ∧
      (∀ t ∈ ts, ∀ d, t.date = .day d → 1000 ≤ d.year) ∧ (∀ r ∈ rules, r.isValid = true) ∧
      ∃ outcomes text us, Rule.applyToMany rules ts = .ok outcomes ∧
        writeTransactions (outcomes.map (·.transaction)) = .ok text ∧
        (∀ path, loadTransactions path (some text.toList) = .ok us) ∧
        List.Forall₂ Transaction.KeepsLegible (outcomes.map (·.transaction)) us := by
  obtain ⟨ts, loaded, days⟩ : ∃ ts, loadTransactions (α := Float) "bank.csv"
      (some (shopFile ["2025-01-13"]).toList) = .ok ts ∧
      (ts.all fun t => t.date == .day ⟨739263, by decide⟩) = true :=
    exists_of_any (by decide +kernel)
  obtain ⟨rules, listed, valid⟩ : ∃ rules, Rule.ofRecords (shopRecords "NA" "home") = .ok rules ∧
      ∀ r ∈ rules, r.isValid = true := ⟨_, rfl, by decide +kernel⟩
  have dated : ∀ t ∈ ts, ∀ d, t.date = .day d → 1000 ≤ d.year := by
    intro t ht d date
    have day := beq_iff_eq.mp (List.all_eq_true.mp days t ht)
    rw [date] at day
    rw [When.day.inj day]
    decide +kernel
  exact ⟨ts, rules, loaded, listed, dated, valid, exists_reload_afterRules loaded dated valid⟩

/-! ### Labels that are lost -/

def rewritten (content : String) (records : Value Float) :
    Except Fault (List (Transaction Float) × List (Transaction Float)) := do
  let ts ← loadTransactions "bank.csv" (some content.toList)
  let rules ← Rule.ofRecords records
  let outcomes ← Rule.applyToMany rules ts
  let text ← writeTransactions (outcomes.map (·.transaction))
  let us ← loadTransactions "labelled.csv" (some text.toList)
  return (outcomes.map (·.transaction), us)

def KeepsLabels (content : String) (records : Value Float) : Prop :=
  ∀ ts rules, loadTransactions "bank.csv" (some content.toList) = .ok ts →
    Rule.ofRecords records = .ok rules → (∀ r ∈ rules, r.isValid = true) →
    ∃ outcomes text us, Rule.applyToMany rules ts = .ok outcomes ∧
      writeTransactions (outcomes.map (·.transaction)) = .ok text ∧
      loadTransactions "labelled.csv" (some text.toList) = .ok us ∧
      List.Forall₂ (fun t u => u.category = t.category ∧ u.status = t.status ∧ u.tags = t.tags ∧
        u.goalId = t.goalId ∧ u.recurringId = t.recurringId) (outcomes.map (·.transaction)) us

def shownLabels (t : Transaction Float) : String × List String :=
  (t.category.plain, t.tags.map (·.plain))

theorem any_rewritten_of_keepsLabels {content : String} {records : Value Float}
    (keeps : KeepsLabels content records)
    (loaded : (loadTransactions (α := Float) "bank.csv" (some content.toList)).toOption.any
      (fun _ => true) = true)
    (valid : ∃ rules, Rule.ofRecords records = .ok rules ∧ ∀ r ∈ rules, r.isValid = true) :
    (rewritten content records).toOption.any
      (fun p => p.1.map shownLabels == p.2.map shownLabels) = true := by
  obtain ⟨ts, loaded, -⟩ := exists_of_any loaded
  obtain ⟨rules, listed, valid⟩ := valid
  obtain ⟨outcomes, text, us, applied, written, reloaded, same⟩ :=
    keeps ts rules loaded listed valid
  have shown : (outcomes.map (·.transaction)).map shownLabels = us.map shownLabels :=
    map_eq_map_of_forall₂ same fun t u fields => by
      rw [shownLabels, shownLabels, fields.1, fields.2.2.1]
  have run : rewritten content records = .ok (outcomes.map (·.transaction), us) := by
    simp only [rewritten, loaded, listed, applied, written, reloaded, ok_bind, pure_eq]
  rw [run]
  exact beq_iff_eq.mpr shown

/-- A category that reads like a missing cell is lost, and a tag with a separator; and beside other
dates one whose year is written in three digits cannot be read. -/
theorem not_keepsLabels_shopFile :
    ¬ KeepsLabels (shopFile ["2025-01-13"]) (shopRecords "NA" "home") ∧
      ¬ KeepsLabels (shopFile ["2025-01-13"]) (shopRecords "Shops" "home|garden") ∧
      ¬ KeepsLabels (shopFile ["2025-01-13", "0999-01-13"]) (shopRecords "Shops" "home") := by
  refine ⟨fun keeps => ?_, fun keeps => ?_, fun keeps => ?_⟩
  · exact absurd (any_rewritten_of_keepsLabels keeps (by decide +kernel)
    ⟨_, rfl, by decide +kernel⟩)
      (by decide +kernel)
  · exact absurd (any_rewritten_of_keepsLabels keeps (by decide +kernel)
    ⟨_, rfl, by decide +kernel⟩)
      (by decide +kernel)
  · exact absurd (any_rewritten_of_keepsLabels keeps (by decide +kernel)
    ⟨_, rfl, by decide +kernel⟩)
      (by decide +kernel)

end RecurringPayments
