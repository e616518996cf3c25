import RecurringPayments.Number.Binary64
import RecurringPayments.Rule.Application
import RecurringPayments.Proofs.Result
import RecurringPayments.Proofs.Value.Equality
import Mathlib

/-!
The outcome of a list of rules in closed form. Of the actions carried out, the last one of its
type decides each field, and the tags grow by the new ones in order. Which actions are carried out
depends on the rules before them, `Rule.carriedOut`; what they do does not. To carry out the same
actions again changes nothing.
-/
namespace RecurringPayments

variable {α : Type}

namespace Value

def text? : Value α → Option String
  | .text s => some s
  | _ => none

@[simp] theorem text?_text (s : String) : text? (.text s : Value α) = some s := rfl

theorem filterMap_text?_map_text (texts : List String) :
    (texts.map (Value.text (α := α))).filterMap text? = texts := by
  simp [List.filterMap_map, Function.comp_def]

theorem isName_iff {name : String} {v : Value α} : v.isName name = true ↔ v = .text name := by
  cases v <;> simp [isName]

end Value

namespace Action

def valuesOf (type : String) (actions : List (Action α)) : List (Value α) :=
  (actions.filter (·.type.isName type)).map (·.value)

def lastOf? (type : String) (actions : List (Action α)) : Option (Value α) :=
  (valuesOf type actions).getLast?

/-- The tags that actions add to some tags: each that is not there yet, once, in order of first
occurrence. -/
def newTags (tags : List (Value α)) (actions : List (Action α)) : List String :=
  let present := tags.filterMap Value.text?
  (((valuesOf "addTag" actions).filterMap Value.text?).filter (!present.contains ·)).eraseDups

@[simp] theorem valuesOf_nil (type : String) : valuesOf type ([] : List (Action α)) = [] := rfl

theorem valuesOf_append (type : String) (as bs : List (Action α)) :
    valuesOf type (as ++ bs) = valuesOf type as ++ valuesOf type bs := by
  simp [valuesOf]

theorem valuesOf_singleton (type : String) (a : Action α) :
    valuesOf type [a] = if a.type.isName type then [a.value] else [] := by
  by_cases h : a.type.isName type <;> simp [valuesOf, h]

@[simp] theorem lastOf?_nil (type : String) : lastOf? type ([] : List (Action α)) = none := rfl

theorem lastOf?_append (type : String) (as bs : List (Action α)) :
    lastOf? type (as ++ bs) = (lastOf? type bs).or (lastOf? type as) := by
  rw [lastOf?, valuesOf_append, List.getLast?_append]
  rfl

theorem lastOf?_singleton (type : String) (a : Action α) :
    lastOf? type [a] = if a.type.isName type then some a.value else none := by
  rw [lastOf?, valuesOf_singleton]
  split <;> rfl

theorem newTags_append (tags : List (Value α)) (as bs : List (Action α)) :
    newTags tags (as ++ bs) =
      newTags tags as ++ newTags (tags ++ (newTags tags as).map .text) bs := by
  simp only [newTags, valuesOf_append, List.filterMap_append, List.filter_append,
    Value.filterMap_text?_map_text, List.eraseDups_append, List.removeAll, List.filter_filter]
  congr 3
  funext s
  simp [List.mem_eraseDups, Bool.and_comm]

theorem newTags_again (tags : List (Value α)) (actions : List (Action α)) :
    newTags (tags ++ (newTags tags actions).map .text) actions = [] := by
  have nothing : ((valuesOf "addTag" actions).filterMap Value.text?).filter (fun s =>
      !((tags ++ (newTags tags actions).map Value.text).filterMap
        Value.text?).contains s) = [] := by
    refine List.filter_eq_nil_iff.mpr fun s hs => ?_
    rw [List.filterMap_append, Value.filterMap_text?_map_text]
    by_cases old : s ∈ tags.filterMap Value.text?
    · simp [old]
    · have new : s ∈ newTags tags actions := by
        rw [newTags, List.mem_eraseDups, List.mem_filter]
        exact ⟨hs, by simpa using old⟩
      simp [new]
  rw [newTags]
  simp only [nothing]
  rfl

end Action

open RecurringPayments.Action

def Transaction.afterAll (t : Transaction α) (actions : List (Action α)) : Transaction α :=
  { t with
    category := (lastOf? "setCategory" actions).getD t.category
    status := (lastOf? "setStatus" actions).getD t.status
    goalId := (lastOf? "assignGoal" actions).getD t.goalId
    isRecurring := if (lastOf? "markRecurring" actions).isSome then .bool true else t.isRecurring
    recurringId := (lastOf? "markRecurring" actions).getD t.recurringId
    tags := t.tags ++ (newTags t.tags actions).map .text }

namespace Transaction

@[simp] theorem afterAll_nil (t : Transaction α) : t.afterAll [] = t := by
  simp [afterAll, newTags]

theorem afterAll_append (t : Transaction α) (as bs : List (Action α)) :
    t.afterAll (as ++ bs) = (t.afterAll as).afterAll bs := by
  simp only [afterAll, lastOf?_append, newTags_append, List.map_append, List.append_assoc,
    Option.isSome_or, Option.getD_or]
  cases lastOf? "markRecurring" as <;> cases lastOf? "markRecurring" bs <;> simp

theorem afterAll_afterAll (t : Transaction α) (actions : List (Action α)) :
    (t.afterAll actions).afterAll actions = t.afterAll actions := by
  rw [← afterAll_append]
  simp only [afterAll, lastOf?_append, newTags_append, newTags_again, Option.or_self,
    List.append_nil]

end Transaction

variable [Scalar α]

namespace Action

/-- A tag is there in the sense of values exactly when it is among the texts of the tags. -/
theorem any_same_text (tags : List (Value α)) (s : String) :
    tags.any (·.same (.text s)) = (tags.filterMap Value.text?).contains s := by
  rw [Bool.eq_iff_iff, List.any_eq_true, List.contains_iff_mem, List.mem_filterMap]
  refine exists_congr fun v => and_congr_right fun _ => ?_
  rw [Value.same_text_iff]
  cases v <;> simp [Value.text?]

theorem perform?_eq (a : Action α) (t : Transaction α) (text : a.value.isText = true) :
    (a.perform? t).getD t = t.afterAll [a] := by
  obtain ⟨s, value⟩ : ∃ s, a.value = .text s := by
    cases h : a.value <;> simp_all [Value.isText]
  simp only [perform?, Transaction.afterAll, lastOf?_singleton, newTags, valuesOf_singleton]
  split
  case h_2 type =>
    simp only [type, value, Value.isName, any_same_text]
    generalize t.tags.filterMap Value.text? = present
    by_cases there : s ∈ present <;> simp [there, List.eraseDups_cons]
  case h_6 noCategory noTag noStatus noGoal noMark =>
    have other {name : String} (h : ¬ a.type = .text name) : a.type.isName name = false := by
      rwa [← Value.isName_iff, Bool.not_eq_true] at h
    simp [other noCategory, other noTag, other noStatus, other noGoal, other noMark]
  all_goals
    rename_i type
    simp [type, Value.isName]

theorem perform_transaction (o : Outcome α) (a : Action α) (text : a.value.isText = true) :
    (a.perform o).transaction = o.transaction.afterAll [a] := by
  rw [← perform?_eq a o.transaction text, perform]
  cases a.perform? o.transaction <;> rfl

theorem perform_replaced {o : Outcome α} {a : Action α} (same : (a.perform o).replaced = false) :
    a.perform o = o := by
  unfold perform at same ⊢
  split at same <;> simp_all

variable {actions : List (Action α)}

theorem foldl_perform_transaction (texts : ∀ a ∈ actions, a.value.isText = true) (o : Outcome α) :
    (actions.foldl perform o).transaction = o.transaction.afterAll actions := by
  induction actions generalizing o with
  | nil => simp
  | cons a rest ih =>
    rw [List.foldl_cons, ih (fun b hb => texts b (.tail _ hb)),
      perform_transaction o a (texts a (.head _)), ← Transaction.afterAll_append]
    rfl

theorem foldl_perform_replaced {o : Outcome α} (same : (actions.foldl perform o).replaced = false) :
    actions.foldl perform o = o := by
  induction actions generalizing o with
  | nil => rfl
  | cons a rest ih =>
    have later : rest.foldl perform (a.perform o) = a.perform o := ih same
    rw [List.foldl_cons, later] at same ⊢
    exact perform_replaced same

end Action

namespace Rule

/-- The actions that rules carry out in turn: those of each rule that matches the transaction as
the rules before it left it. -/
def carriedOut : List (Rule α) → Transaction α → List (Action α)
  | [], _ => []
  | r :: rest, t =>
    match r.apply t with
    | .ok o =>
      (if r.isMatch t then r.actions.getD [] else []) ++ carriedOut rest o.transaction
    | .error _ => []

def HasTexts (r : Rule α) : Prop :=
  ∃ actions, r.actions = some actions ∧ ∀ a ∈ actions, a.value.isText = true

theorem applyTo_eq {r : Rule α} (texts : r.HasTexts) (o : Outcome α) :
    ∃ o', applyTo o r = .ok o' ∧
      o'.transaction =
        o.transaction.afterAll (if r.isMatch o.transaction then r.actions.getD [] else []) ∧
      (o'.replaced = false → o' = o) := by
  obtain ⟨actions, some, texts⟩ := texts
  by_cases matched : r.isMatch o.transaction = true
  · refine ⟨actions.foldl Action.perform o, by simp [applyTo, matched, some], ?_, ?_⟩
    · simp [matched, some, Action.foldl_perform_transaction texts]
    · exact Action.foldl_perform_replaced
  · exact ⟨o, by simp [applyTo, matched], by simp [matched], fun _ => rfl⟩

theorem carriedOut_cons {r : Rule α} (texts : r.HasTexts) (rest : List (Rule α))
    (t : Transaction α) :
    carriedOut (r :: rest) t =
      (if r.isMatch t then r.actions.getD [] else []) ++
        carriedOut rest (t.afterAll (if r.isMatch t then r.actions.getD [] else [])) := by
  obtain ⟨o, applied, transaction, -⟩ := applyTo_eq texts ⟨t, false⟩
  simp only [carriedOut, apply, applied, transaction]

theorem foldlM_applyTo {rules : List (Rule α)} (texts : ∀ r ∈ rules, r.HasTexts) (o : Outcome α) :
    ∃ o', rules.foldlM applyTo o = .ok o' ∧
      o'.transaction = o.transaction.afterAll (carriedOut rules o.transaction) ∧
      (o'.replaced = false → o' = o) := by
  induction rules generalizing o with
  | nil => exact ⟨o, rfl, by simp [carriedOut], fun _ => rfl⟩
  | cons r rest ih =>
    have first := texts r (.head _)
    obtain ⟨o₁, applied, transaction₁, same₁⟩ := applyTo_eq first o
    obtain ⟨o₂, run, transaction₂, same₂⟩ := ih (fun s hs => texts s (.tail _ hs)) o₁
    refine ⟨o₂, by simp [applied, run], ?_, ?_⟩
    · rw [transaction₂, transaction₁, carriedOut_cons first, Transaction.afterAll_append]
    · intro same
      obtain rfl := same₂ same
      exact same₁ same

/-- The outcome of a list of rules on any transaction, in closed form. -/
theorem applyAll_eq_afterAll {rules : List (Rule α)} (texts : ∀ r ∈ rules, r.HasTexts)
    (t : Transaction α) :
    ∃ o, applyAll rules t = .ok o ∧ o.transaction = t.afterAll (carriedOut rules t) ∧
      (o.replaced = false → o.transaction = t) := by
  obtain ⟨o, run, transaction, same⟩ := foldlM_applyTo texts ⟨t, false⟩
  refine ⟨o, run, transaction, fun unreplaced => ?_⟩
  rw [same unreplaced]

def labelRules : List (Rule Float) :=
  [{ id := "first", name := .text "First", logic := .text "and"
     conditions := [⟨.text, .text "merchant", .text "contains", .text "SHOP", .text ""⟩]
     actions := some [⟨.text "addTag", .text "new", .text ""⟩,
       ⟨.text "addTag", .text "old", .text ""⟩,
       ⟨.text "setColour", .text "red", .text ""⟩,
       ⟨.text "setCategory", .text "Shopping", .text ""⟩] },
   { id := "second", name := .text "Second", logic := .text "and"
     conditions := [⟨.text, .text "category", .text "equals", .text "Shopping", .text ""⟩]
     actions := some [⟨.text "addTag", .text "new", .text ""⟩,
       ⟨.text "markRecurring", .text "series", .text ""⟩] }]

def labelTransaction : Transaction Float where
  id := .text "t1"
  date := .never
  amount := .int 12
  merchant := .text "Corner shop"
  category := .text "Other"
  account := .text "main"
  type := .text "debit"
  status := .text "posted"
  tags := [.text "old"]

theorem applyAll_eq_afterAll_labelRules :
    (∀ r ∈ labelRules, r.HasTexts) ∧
    ∃ o, applyAll labelRules labelTransaction = .ok o ∧
      o.transaction = labelTransaction.afterAll (carriedOut labelRules labelTransaction) ∧
      o.transaction.tags = [.text "old", .text "new"] ∧
      o.transaction.category = .text "Shopping" ∧ o.transaction.recurringId = .text "series" := by
  have texts : ∀ r ∈ labelRules, r.HasTexts := by
    simp [labelRules, HasTexts, Value.isText]
  obtain ⟨o, run, transaction, -⟩ := applyAll_eq_afterAll texts labelTransaction
  exact ⟨texts, o, run, transaction, by rw [transaction]; rfl, by rw [transaction]; rfl,
    by rw [transaction]; rfl⟩

/-- A rule that is applied to what it left changes nothing more, also if it matches no longer. -/
theorem apply_apply {r : Rule α} (texts : r.HasTexts) (t : Transaction α) :
    ∃ o o', r.apply t = .ok o ∧ r.apply o.transaction = .ok o' ∧
      o'.transaction = o.transaction := by
  obtain ⟨o, applied, after, -⟩ := applyTo_eq texts ⟨t, false⟩
  obtain ⟨o', applied', after', -⟩ := applyTo_eq texts ⟨o.transaction, false⟩
  refine ⟨o, o', applied, applied', ?_⟩
  by_cases matched : r.isMatch t = true
  · rw [if_pos matched] at after
    rw [after', after]
    split
    · exact t.afterAll_afterAll _
    · exact Transaction.afterAll_nil _
  · -- a rule that does not match leaves the very transaction that it does not match
    rw [if_neg matched, Transaction.afterAll_nil] at after
    rw [after', after, if_neg matched, Transaction.afterAll_nil]

def sortingRule : Rule Float where
  id := "sort"
  name := .text "Sort"
  conditions := [⟨.text, .text "category", .text "equals", .text "Other", .text ""⟩]
  actions := some [⟨.text "addTag", .text "sorted", .text ""⟩,
    ⟨.text "setCategory", .text "Groceries", .text ""⟩,
    ⟨.text "setCategory", .text "Shopping", .text ""⟩,
    ⟨.text "addTag", .text "sorted", .text ""⟩]

theorem apply_apply_sortingRule :
    sortingRule.HasTexts ∧
    ∃ o o', sortingRule.apply labelTransaction = .ok o ∧
      sortingRule.apply o.transaction = .ok o' ∧ o'.transaction = o.transaction ∧
      o.transaction.category = .text "Shopping" ∧
      o.transaction.tags = [.text "old", .text "sorted"] ∧
      sortingRule.isMatch labelTransaction = true ∧
      sortingRule.isMatch o.transaction = false := by
  have texts : sortingRule.HasTexts := by
    simp [sortingRule, HasTexts, Value.isText]
  obtain ⟨o, o', applied, applied', same⟩ := apply_apply texts labelTransaction
  obtain rfl := Except.ok.inj (Eq.trans rfl applied)
  exact ⟨texts, _, o', applied, applied', same, rfl, rfl, rfl, rfl⟩

end Rule

end RecurringPayments
