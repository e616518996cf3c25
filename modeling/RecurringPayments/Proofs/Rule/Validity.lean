import RecurringPayments.Number.Binary64
import RecurringPayments.Rule.Record
import RecurringPayments.Rule.Validation
import RecurringPayments.Proofs.Result
import RecurringPayments.Proofs.Text.Blank

/-!
What makes a rule sound, said without reference to the check: `Rule.IsSound`. The check agrees
with it on every rule that comes from records, whatever values stand in them, because the reader
of records gives each condition the kind that its value calls for.
-/
namespace RecurringPayments

variable {α : Type}

/-! ### Names -/

namespace Value

theorem isOneOf_iff {names : List String} {v : Value α} :
    v.isOneOf names = true ↔ ∃ s ∈ names, v = .text s := by
  cases v <;> simp [isOneOf]

theorem isOneOf_mono {names more : List String} (h : names ⊆ more) {v : Value α}
    (hv : v.isOneOf names = true) : v.isOneOf more = true := by
  obtain ⟨s, hs, rfl⟩ := isOneOf_iff.mp hv
  exact isOneOf_iff.mpr ⟨s, h hs, rfl⟩

variable [Scalar α]

theorem isEmpty_of_isOneOf {names : List String} (nonempty : "" ∉ names) {v : Value α}
    (hv : v.isOneOf names = true) : v.isEmpty = false := by
  obtain ⟨s, hs, rfl⟩ := isOneOf_iff.mp hv
  have : s ≠ "" := fun e => nonempty (e ▸ hs)
  simpa [isEmpty] using this

end Value

namespace ConditionKind

theorem fields_subset (k : ConditionKind) : k.fields ⊆ conditionFields := by
  cases k <;> decide

theorem operators_subset (k : ConditionKind) : k.operators ⊆ conditionOperators := by
  cases k <;> decide

end ConditionKind

/-! ### Soundness -/

def HasInk (s : String) : Prop := ∃ c ∈ s.toList, Text.isBlank c = false

theorem isBlankText_eq_false_iff (s : String) : isBlankText s = false ↔ HasInk s := by
  have blank := Text.trim_eq_nil_iff s.toList
  rw [isBlankText, HasInk, ← Bool.not_eq_true, List.isEmpty_iff, blank]
  simp

namespace Condition

structure ComparesText (c : Condition α) : Prop where
  field : ∃ name ∈ textFields, c.field = .text name
  operator : ∃ name ∈ textOperators, c.operator = .text name
  value : ∃ s, s ≠ "" ∧ c.value = .text s

/-- The amount is compared with a number, truth values not counted, by an operator for numbers. -/
structure ComparesAmount (c : Condition α) : Prop where
  field : c.field = .text "amount"
  operator : ∃ name ∈ numericOperators, c.operator = .text name
  value : (∃ n, c.value = .int n) ∨ ∃ x, c.value = .real x

end Condition

structure Action.IsSound (a : Action α) : Prop where
  type : ∃ name ∈ actionTypes, a.type = .text name
  value : ∃ s, HasInk s ∧ a.value = .text s

structure Rule.IsSound [Scalar α] (r : Rule α) : Prop where
  name : HasInk r.name.plain
  logic : r.logic = .text "and" ∨ r.logic = .text "or"
  hasCondition : r.conditions ≠ []
  conditions : ∀ c ∈ r.conditions, c.ComparesText ∨ c.ComparesAmount
  hasAction : ∃ actions, r.actions = some actions ∧ actions ≠ [] ∧ ∀ a ∈ actions, a.IsSound

/-! ### Rules from records -/

/-- What the reader of records gives every rule. -/
structure Rule.IsFromRecord [Scalar α] (r : Rule α) : Prop where
  name : r.name.isEmpty = true → r.name = .text ""
  kinds : ∀ c ∈ r.conditions, c.kind = ConditionKind.ofValue c.value
  hasActions : ∃ actions, r.actions = some actions

variable [Scalar α]

namespace Record

theorem isEmpty_name {r : Record α} (h : r.name.isEmpty = true) : r.name = .text "" := by
  simp only [name] at h ⊢
  split
  · rfl
  · simp_all

omit [Scalar α] in
theorem mem_items {β : Type} {place : Nat → RulePlace} {read : Record α → β} {n : Nat}
    {vs : List (Value α)} {bs : List β} (h : items place read n vs = .ok bs) {b : β}
    (hb : b ∈ bs) : ∃ r, b = read r := by
  induction vs generalizing n bs with
  | nil =>
    simp only [items, Except.ok.injEq] at h
    simp [← h] at hb
  | cons v rest ih =>
    simp only [items] at h
    obtain ⟨r, -, h⟩ := Result.bind_eq_ok_iff.mp h
    obtain ⟨more, hmore, h⟩ := Result.bind_eq_ok_iff.mp h
    simp only [Result.pure_eq, Except.ok.injEq] at h
    subst h
    rcases List.mem_cons.mp hb with rfl | hb
    · exact ⟨r, rfl⟩
    · exact ih hmore hb

theorem rule_isFromRecord {n : Nat} {v : Value α} {r : Rule α} (h : rule n v = .ok r) :
    r.IsFromRecord := by
  simp only [rule] at h
  obtain ⟨entries, -, h⟩ := Result.bind_eq_ok_iff.mp h
  obtain ⟨conditionValues, -, h⟩ := Result.bind_eq_ok_iff.mp h
  obtain ⟨conditions, hconditions, h⟩ := Result.bind_eq_ok_iff.mp h
  obtain ⟨actionValues, -, h⟩ := Result.bind_eq_ok_iff.mp h
  obtain ⟨actions, -, h⟩ := Result.bind_eq_ok_iff.mp h
  simp only [Result.pure_eq, Except.ok.injEq] at h
  subst h
  refine ⟨isEmpty_name, ?_, actions, rfl⟩
  intro c hc
  obtain ⟨item, rfl⟩ := mem_items hconditions hc
  rfl

theorem mem_rulesFrom {n : Nat} {vs : List (Value α)} {rules : List (Rule α)}
    (h : rulesFrom n vs = .ok rules) {r : Rule α} (hr : r ∈ rules) : r.IsFromRecord := by
  induction vs generalizing n rules with
  | nil =>
    simp only [rulesFrom, Except.ok.injEq] at h
    simp [← h] at hr
  | cons v rest ih =>
    simp only [rulesFrom] at h
    obtain ⟨first, hfirst, h⟩ := Result.bind_eq_ok_iff.mp h
    obtain ⟨more, hmore, h⟩ := Result.bind_eq_ok_iff.mp h
    simp only [Result.pure_eq, Except.ok.injEq] at h
    subst h
    rcases List.mem_cons.mp hr with rfl | hr
    · exact rule_isFromRecord hfirst
    · exact ih hmore hr

end Record

theorem Rule.isFromRecord_of_ofRecords {records : Value α} {rules : List (Rule α)}
    (h : Rule.ofRecords records = .ok rules) {r : Rule α} (hr : r ∈ rules) : r.IsFromRecord := by
  obtain ⟨values, -, h⟩ := Result.bind_eq_ok_iff.mp h
  exact Record.mem_rulesFrom h hr

/-! ### The check -/

namespace Condition

theorem unknownNames_eq_nil_iff {c : Condition α} (field : c.field.isEmpty = false)
    (operator : c.operator.isEmpty = false) :
    c.unknownNames = [] ↔
      c.field.isOneOf conditionFields = true ∧ c.operator.isOneOf conditionOperators = true := by
  simp [unknownNames, field, operator]

theorem disagreements_eq_nil_iff {c : Condition α} (field : c.field.isEmpty = false)
    (operator : c.operator.isEmpty = false) :
    c.disagreements = [] ↔
      c.field.isOneOf c.kind.fields = true ∧ c.operator.isOneOf c.kind.operators = true := by
  simp [disagreements, field, operator]

theorem typeProblems_eq_nil_iff {c : Condition α} (kind : c.kind ≠ .untyped)
    (field : c.field.isEmpty = false) (operator : c.operator.isEmpty = false) :
    c.typeProblems = [] ↔
      c.field.isOneOf c.kind.fields = true ∧ c.operator.isOneOf c.kind.operators = true := by
  rw [← disagreements_eq_nil_iff field operator]
  by_cases known : c.unknownNames = []
  · simp [typeProblems, known, kind]
  · constructor
    · intro h
      simp [typeProblems, known] at h
    · intro agree
      obtain ⟨hf, ho⟩ := (disagreements_eq_nil_iff field operator).mp agree
      refine absurd ((unknownNames_eq_nil_iff field operator).mpr ⟨?_, ?_⟩) known
      · exact Value.isOneOf_mono (ConditionKind.fields_subset _) hf
      · exact Value.isOneOf_mono (ConditionKind.operators_subset _) ho

theorem problems_eq_nil_iff {c : Condition α} (kind : c.kind ≠ .untyped) :
    c.problems = [] ↔ c.valueProblems = [] ∧
      c.field.isOneOf c.kind.fields = true ∧ c.operator.isOneOf c.kind.operators = true := by
  have fields : "" ∉ c.kind.fields := by cases c.kind <;> decide
  have operators : "" ∉ c.kind.operators := by cases c.kind <;> decide
  constructor
  · intro h
    simp only [problems, List.append_eq_nil_iff, ite_eq_right_iff, List.cons_ne_nil, imp_false,
      Bool.not_eq_true] at h
    obtain ⟨⟨⟨field, operator⟩, value⟩, type⟩ := h
    exact ⟨value, (typeProblems_eq_nil_iff kind field operator).mp type⟩
  · rintro ⟨value, hf, ho⟩
    have field := Value.isEmpty_of_isOneOf fields hf
    have operator := Value.isEmpty_of_isOneOf operators ho
    have type := (typeProblems_eq_nil_iff kind field operator).mpr ⟨hf, ho⟩
    simp [problems, field, operator, value, type]

theorem problems_eq_nil_iff_of_kind {c : Condition α}
    (kind : c.kind = ConditionKind.ofValue c.value) :
    c.problems = [] ↔ c.ComparesText ∨ c.ComparesAmount := by
  by_cases text : ∃ s, c.value = .text s
  · obtain ⟨s, value⟩ := text
    have kind : c.kind = .text := by rw [kind, value]; rfl
    have noAmount : ¬ c.ComparesAmount := by
      rintro ⟨-, -, number⟩
      simp [value] at number
    rw [problems_eq_nil_iff (by simp [kind]), kind]
    simp only [ConditionKind.fields, ConditionKind.operators, Value.isOneOf_iff, noAmount, or_false]
    constructor
    · rintro ⟨present, field, operator⟩
      have : s ≠ "" := by simpa [valueProblems, value] using present
      exact ⟨field, operator, s, this, value⟩
    · rintro ⟨field, operator, s', nonempty, value'⟩
      have : s ≠ "" := by simp_all
      exact ⟨by simpa [valueProblems, value] using this, field, operator⟩
  by_cases number : (∃ n, c.value = .int n) ∨ ∃ x, c.value = .real x
  · have kind : c.kind = .numeric := by
      rcases number with ⟨n, value⟩ | ⟨x, value⟩ <;> rw [kind, value] <;> rfl
    have present : c.valueProblems = [] := by
      rcases number with ⟨n, value⟩ | ⟨x, value⟩ <;> simp [valueProblems, value, Value.isNumber]
    have noText : ¬ c.ComparesText := by
      rintro ⟨-, -, s, -, value⟩
      exact text ⟨s, value⟩
    rw [problems_eq_nil_iff (by simp [kind]), kind]
    simp only [ConditionKind.fields, ConditionKind.operators, Value.isOneOf_iff, noText, false_or,
      present, true_and, numericFields, List.mem_singleton, exists_eq_left]
    constructor
    · rintro ⟨field, operator⟩
      exact ⟨field, operator, number⟩
    · rintro ⟨field, operator, -⟩
      exact ⟨field, operator⟩
  · have absent : c.valueProblems ≠ [] := by
      cases value : c.value <;> simp_all [valueProblems, Value.isNumber]
    have problem : c.problems ≠ [] := by simp [problems, absent]
    refine iff_of_false problem ?_
    rintro (⟨-, -, s, -, value⟩ | ⟨-, -, value⟩)
    · exact text ⟨s, value⟩
    · exact number value

end Condition

theorem Action.problems_eq_nil_iff (a : Action α) : a.problems = [] ↔ a.IsSound := by
  have sound : a.IsSound ↔
      (∃ name ∈ actionTypes, a.type = .text name) ∧ ∃ s, HasInk s ∧ a.value = .text s :=
    ⟨fun sound => ⟨sound.type, sound.value⟩, fun sound => ⟨sound.1, sound.2⟩⟩
  rw [problems, List.append_eq_nil_iff, sound]
  refine and_congr ?type ?value
  case type =>
    rw [← Value.isOneOf_iff]
    by_cases known : a.type.isOneOf actionTypes = true
    · simp [known, Value.isEmpty_of_isOneOf (by decide) known]
    · by_cases empty : a.type.isEmpty <;> simp [known, empty]
  case value =>
    cases a.value <;> simp [← isBlankText_eq_false_iff]

namespace Rule

omit [Scalar α] in
theorem numbered_eq_nil_iff {β γ δ : Type} (parts : List β) (problems : β → List γ)
    (numbered : Nat → γ → δ) :
    (parts.mapIdx fun i x => (problems x).map (numbered (i + 1))).flatten = [] ↔
      ∀ x ∈ parts, problems x = [] := by
  simp only [List.flatten_eq_nil_iff, List.mem_mapIdx]
  constructor
  · intro none x hx
    obtain ⟨i, hi, rfl⟩ := List.getElem_of_mem hx
    simpa using none _ ⟨i, hi, rfl⟩
  · rintro none l ⟨i, hi, rfl⟩
    simp [none _ (List.getElem_mem hi)]

theorem name_hasInk_iff {r : Rule α} (loaded : r.IsFromRecord) :
    (r.name.isEmpty || isBlankText r.name.plain) = false ↔ HasInk r.name.plain := by
  rw [Bool.or_eq_false_iff, isBlankText_eq_false_iff]
  refine ⟨And.right, fun ink => ⟨?_, ink⟩⟩
  rw [← Bool.not_eq_true]
  intro empty
  rw [loaded.name empty] at ink
  simp [HasInk, Value.plain] at ink

omit [Scalar α] in
theorem logic_iff (r : Rule α) :
    r.logic.isOneOf logics = true ↔ r.logic = .text "and" ∨ r.logic = .text "or" := by
  simp [Value.isOneOf_iff, logics]

theorem isValid_iff_isSound {r : Rule α} (loaded : r.IsFromRecord) :
    r.isValid = true ↔ r.IsSound := by
  obtain ⟨actions, hactions⟩ := loaded.hasActions
  have conditions : (∀ c ∈ r.conditions, c.problems = []) ↔
      ∀ c ∈ r.conditions, c.ComparesText ∨ c.ComparesAmount :=
    forall₂_congr fun c hc => Condition.problems_eq_nil_iff_of_kind (loaded.kinds c hc)
  have each : (∀ a ∈ actions, a.problems = []) ↔ ∀ a ∈ actions, a.IsSound :=
    forall₂_congr fun a _ => a.problems_eq_nil_iff
  simp only [isValid, problems, hactions, Option.getD_some, List.isEmpty_iff,
    List.append_eq_nil_iff, ite_eq_right_iff, List.cons_ne_nil, imp_false, Bool.not_eq_true,
    Bool.not_eq_true', Bool.not_eq_false, numbered_eq_nil_iff, name_hasInk_iff loaded, logic_iff,
    conditions, each]
  constructor
  · rintro ⟨⟨⟨⟨⟨name, logic⟩, some⟩, all⟩, someAction⟩, allActions⟩
    exact ⟨name, logic, some, all, actions, hactions, someAction, allActions⟩
  · rintro ⟨name, logic, some, all, actions', hactions', someAction, allActions⟩
    obtain rfl : actions = actions' := by simp_all
    exact ⟨⟨⟨⟨⟨name, logic⟩, some⟩, all⟩, someAction⟩, allActions⟩

/-- On rules from records the check and soundness agree, whatever values the records hold. -/
theorem ofRecords_isValid_iff {records : Value α} {rules : List (Rule α)}
    (h : Rule.ofRecords records = .ok rules) {r : Rule α} (hr : r ∈ rules) :
    r.isValid = true ↔ r.IsSound :=
  isValid_iff_isSound (isFromRecord_of_ofRecords h hr)

def oddRecords : Value Float :=
  let record (name value : Value Float) : Value Float :=
    .mapping [
      (.text "name", name),
      (.text "logic", .text "OR"),
      (.text "conditions", .list [.mapping [
        (.text "field", .text "amount"), (.text "operator", .text "greaterThan"),
        (.text "value", value)]]),
      (.text "actions", .list [.mapping [
        (.text "type", .text "addTag"), (.text "value", .bool true)]])]
  .list [record (.list [.null]) (.int 50), record (.text "Large") (.bool true)]

theorem ofRecords_isValid_iff_oddRecords :
    ∃ r s, Rule.ofRecords oddRecords = .ok [r, s] ∧
      (r.isValid = true ∧ r.IsSound) ∧ (s.isValid = false ∧ ¬ s.IsSound) := by
  refine ⟨_, _, rfl, ⟨rfl, ?_⟩, rfl, ?_⟩
  · have first := @ofRecords_isValid_iff _ _ oddRecords _ rfl _ (.head _)
    exact first.mp rfl
  · have second := @ofRecords_isValid_iff _ _ oddRecords _ rfl _ (.tail _ (.head _))
    rw [← second]
    exact Bool.false_ne_true

end Rule

end RecurringPayments
