import RecurringPayments.Proofs.Rule.Outcome

/-!
The footprint of a rule: the fields that its conditions read and those that its actions write.
Whether a rule matches depends on the fields that it reads, and actions that write different fields
may change places. So may neighbouring rules that leave each other alone; and where no rule writes
what a later one reads, each does what it would do alone.
-/
namespace RecurringPayments

open Result

variable {α : Type}

/-! ### Reading and writing -/

namespace Condition

def reads (c : Condition α) : List String := conditionFields.filter fun name => c.field.isName name

theorem mem_reads_iff {c : Condition α} {field : String} :
    field ∈ c.reads ↔ field ∈ conditionFields ∧ c.field = .text field := by
  rw [reads, List.mem_filter, Value.isName_iff]

end Condition

namespace Action

def writes (a : Action α) : List String :=
  match a.type with
  | .text "setCategory" => ["category"]
  | .text "addTag" => ["tags"]
  | .text "setStatus" => ["status"]
  | .text "assignGoal" => ["goal_id"]
  | .text "markRecurring" => ["is_recurring", "recurring_id"]
  | _ => []

theorem category_mem_writes_iff {a : Action α} :
    "category" ∈ a.writes ↔ a.type = .text "setCategory" := by
  unfold writes
  split <;> simp_all

theorem status_mem_writes_iff {a : Action α} :
    "status" ∈ a.writes ↔ a.type = .text "setStatus" := by
  unfold writes
  split <;> simp_all

theorem eq_of_mem_writes {a : Action α} {field : String} (written : field ∈ a.writes)
    (known : field ∈ conditionFields) : field = "category" ∨ field = "status" := by
  unfold writes at written
  split at written
  all_goals
    simp only [List.mem_cons, List.not_mem_nil, or_false] at written
  · exact .inl written
  · simp [written, conditionFields] at known
  · exact .inr written
  · simp [written, conditionFields] at known
  · rcases written with rfl | rfl <;> simp [conditionFields] at known

end Action

namespace Rule

def reads (r : Rule α) : List String := r.conditions.flatMap (·.reads)

def writes (r : Rule α) : List String := (r.actions.getD []).flatMap (·.writes)

def HasAction (type : String) (r : Rule α) : Prop := ∃ a ∈ r.actions.getD [], a.type = .text type

def HasConditionOn (field : String) (r : Rule α) : Prop := ∃ c ∈ r.conditions, c.field = .text field

/-- The second rule reads nothing that the first one writes. -/
def Spares (r s : Rule α) : Prop := ∀ field ∈ r.writes, field ∉ s.reads

/-- The second rule neither reads nor writes what the first one writes. -/
def LeavesAlone (r s : Rule α) : Prop := ∀ field ∈ r.writes, field ∉ s.reads ∧ field ∉ s.writes

instance (r s : Rule α) : Decidable (r.LeavesAlone s) :=
  inferInstanceAs (Decidable (∀ field ∈ r.writes, field ∉ s.reads ∧ field ∉ s.writes))

theorem LeavesAlone.spares {r s : Rule α} (alone : r.LeavesAlone s) : r.Spares s :=
  fun field written => (alone field written).1

theorem category_mem_writes_iff {r : Rule α} :
    "category" ∈ r.writes ↔ r.HasAction "setCategory" := by
  simp only [writes, HasAction, List.mem_flatMap, Action.category_mem_writes_iff]

theorem status_mem_writes_iff {r : Rule α} : "status" ∈ r.writes ↔ r.HasAction "setStatus" := by
  simp only [writes, HasAction, List.mem_flatMap, Action.status_mem_writes_iff]

theorem mem_reads_iff {r : Rule α} {field : String} :
    field ∈ r.reads ↔ field ∈ conditionFields ∧ r.HasConditionOn field := by
  simp only [reads, HasConditionOn, List.mem_flatMap, Condition.mem_reads_iff]
  constructor
  · rintro ⟨c, hc, known, asked⟩
    exact ⟨known, c, hc, asked⟩
  · rintro ⟨known, c, hc, asked⟩
    exact ⟨c, hc, known, asked⟩

theorem spares_iff {r s : Rule α} : r.Spares s ↔
    (r.HasAction "setCategory" → ¬ s.HasConditionOn "category") ∧
      (r.HasAction "setStatus" → ¬ s.HasConditionOn "status") := by
  rw [← category_mem_writes_iff, ← status_mem_writes_iff]
  constructor
  · intro spares
    refine ⟨fun written asked => spares _ written ?_, fun written asked => spares _ written ?_⟩
    · exact mem_reads_iff.mpr ⟨by decide, asked⟩
    · exact mem_reads_iff.mpr ⟨by decide, asked⟩
  · rintro ⟨category, status⟩ field written read
    obtain ⟨known, asked⟩ := mem_reads_iff.mp read
    obtain ⟨a, ha, written'⟩ := List.mem_flatMap.mp written
    rcases Action.eq_of_mem_writes written' known with rfl | rfl
    · exact category written asked
    · exact status written asked

end Rule

variable [Scalar α]

/-! ### Reading -/

omit [Scalar α] in
theorem Transaction.field?_eq_none (t : Transaction α) {name : String}
    (unknown : name ∉ conditionFields) : t.field? name = none := by
  unfold field?
  split <;> simp_all [conditionFields]

theorem Condition.holds_congr {c : Condition α} {t u : Transaction α}
    (same : ∀ field ∈ c.reads, t.field? field = u.field? field) : c.holds t = c.holds u := by
  unfold holds
  split
  · rename_i name operator hname hoperator
    have value : t.field? name = u.field? name := by
      by_cases known : name ∈ conditionFields
      · exact same name (mem_reads_iff.mpr ⟨known, hname⟩)
      · rw [t.field?_eq_none known, u.field?_eq_none known]
    rw [value]
  · rfl

theorem Rule.isMatch_congr {r : Rule α} {t u : Transaction α}
    (same : ∀ field ∈ r.reads, t.field? field = u.field? field) : r.isMatch t = r.isMatch u := by
  have holds : ∀ c ∈ r.conditions, c.holds t = c.holds u := fun c hc =>
    Condition.holds_congr fun field read => same field (List.mem_flatMap.mpr ⟨c, hc, read⟩)
  have all : r.conditions.all (·.holds t) = r.conditions.all (·.holds u) := by
    rw [Bool.eq_iff_iff, List.all_eq_true, List.all_eq_true]
    exact forall₂_congr fun c hc => by rw [holds c hc]
  have any : r.conditions.any (·.holds t) = r.conditions.any (·.holds u) := by
    rw [Bool.eq_iff_iff, List.any_eq_true, List.any_eq_true]
    exact exists_congr fun c => and_congr_right fun hc => by rw [holds c hc]
  rw [isMatch, isMatch, all, any]

/-! ### Writing -/

namespace Action

theorem perform_cases (a : Action α) :
    (a.writes = ["category"] ∧
      ∀ o, a.perform o = ⟨{ o.transaction with category := a.value }, true⟩) ∨
    (a.writes = ["tags"] ∧
      ∀ o, a.perform o = if o.transaction.tags.any (·.same a.value) then o
        else ⟨{ o.transaction with tags := o.transaction.tags ++ [a.value] }, true⟩) ∨
    (a.writes = ["status"] ∧
      ∀ o, a.perform o = ⟨{ o.transaction with status := a.value }, true⟩) ∨
    (a.writes = ["goal_id"] ∧
      ∀ o, a.perform o = ⟨{ o.transaction with goalId := a.value }, true⟩) ∨
    (a.writes = ["is_recurring", "recurring_id"] ∧
      ∀ o, a.perform o =
        ⟨{ o.transaction with isRecurring := .bool true, recurringId := a.value }, true⟩) ∨
    (a.writes = [] ∧ ∀ o, a.perform o = o) := by
  unfold writes
  split
  case h_1 type => exact .inl ⟨rfl, fun o => by simp only [perform, perform?, type]⟩
  case h_2 type =>
    refine .inr (.inl ⟨rfl, fun o => ?_⟩)
    simp only [perform, perform?, type]
    by_cases there : o.transaction.tags.any (·.same a.value) = true <;> simp [there]
  case h_3 type => exact .inr (.inr (.inl ⟨rfl, fun o => by simp only [perform, perform?, type]⟩))
  case h_4 type =>
    exact .inr (.inr (.inr (.inl ⟨rfl, fun o => by simp only [perform, perform?, type]⟩)))
  case h_5 type =>
    exact .inr (.inr (.inr (.inr (.inl ⟨rfl, fun o => by simp only [perform, perform?, type]⟩))))
  case h_6 =>
    refine .inr (.inr (.inr (.inr (.inr ⟨rfl, fun o => ?_⟩))))
    simp [perform, perform?, *]

theorem field?_perform {a : Action α} {field : String} (unwritten : field ∉ a.writes)
    (o : Outcome α) : (a.perform o).transaction.field? field = o.transaction.field? field := by
  rcases a.perform_cases with ⟨writes, perform⟩ | ⟨writes, perform⟩ | ⟨writes, perform⟩ |
    ⟨writes, perform⟩ | ⟨writes, perform⟩ | ⟨writes, perform⟩
  all_goals
    rw [writes] at unwritten
    rw [perform]
  · unfold Transaction.field?
    split <;> simp_all
  · split <;> rfl
  · unfold Transaction.field?
    split <;> simp_all
  · rfl
  · rfl

theorem perform_comm {a b : Action α} (apart : ∀ field ∈ a.writes, field ∉ b.writes)
    (o : Outcome α) : b.perform (a.perform o) = a.perform (b.perform o) := by
  rcases a.perform_cases with ⟨wa, pa⟩ | ⟨wa, pa⟩ | ⟨wa, pa⟩ | ⟨wa, pa⟩ | ⟨wa, pa⟩ | ⟨wa, pa⟩ <;>
  rcases b.perform_cases with ⟨wb, pb⟩ | ⟨wb, pb⟩ | ⟨wb, pb⟩ | ⟨wb, pb⟩ | ⟨wb, pb⟩ | ⟨wb, pb⟩
  -- two actions of one type write the same fields; of the others, those that add a tag branch
  all_goals
    rw [wa, wb] at apart
    rw [pa o, pb o]
    first
    | (simp at apart; done)
    | (simp only [pa, pb]; done)
    | (simp only [pa, pb]; split <;> rfl)

variable {as bs : List (Action α)} {field : String}

theorem field?_foldl_perform (unwritten : ∀ a ∈ as, field ∉ a.writes) (o : Outcome α) :
    (as.foldl perform o).transaction.field? field = o.transaction.field? field := by
  induction as generalizing o with
  | nil => rfl
  | cons a rest ih =>
    rw [List.forall_mem_cons] at unwritten
    rw [List.foldl_cons, ih unwritten.2, field?_perform unwritten.1]

theorem perform_foldl_perform {a : Action α}
    (apart : ∀ field ∈ a.writes, ∀ b ∈ bs, field ∉ b.writes) (o : Outcome α) :
    bs.foldl perform (a.perform o) = a.perform (bs.foldl perform o) := by
  induction bs generalizing o with
  | nil => rfl
  | cons b rest ih =>
    rw [List.foldl_cons, List.foldl_cons, ← ih fun field ha c hc => apart field ha c (.tail _ hc),
      perform_comm fun field ha => apart field ha b (.head _)]

/-- Actions that write different fields may be carried out in either order. -/
theorem foldl_perform_comm (apart : ∀ a ∈ as, ∀ field ∈ a.writes, ∀ b ∈ bs, field ∉ b.writes)
    (o : Outcome α) :
    bs.foldl perform (as.foldl perform o) = as.foldl perform (bs.foldl perform o) := by
  induction as generalizing o with
  | nil => rfl
  | cons a rest ih =>
    rw [List.forall_mem_cons] at apart
    rw [List.foldl_cons, List.foldl_cons, ih apart.2, perform_foldl_perform apart.1]

end Action

namespace Rule

/-! ### One rule after another -/

def step (o : Outcome α) (r : Rule α) : Outcome α :=
  if r.isMatch o.transaction then (r.actions.getD []).foldl Action.perform o else o

theorem step_of_isMatch {r : Rule α} {o : Outcome α} (matched : r.isMatch o.transaction = true) :
    step o r = (r.actions.getD []).foldl Action.perform o := if_pos matched

theorem step_of_not_isMatch {r : Rule α} {o : Outcome α}
    (unmatched : ¬ r.isMatch o.transaction = true) : step o r = o := if_neg unmatched

theorem applyTo_eq_step {r : Rule α} (list : r.actions.isSome = true) (o : Outcome α) :
    applyTo o r = .ok (step o r) := by
  obtain ⟨actions, some⟩ := Option.isSome_iff_exists.mp list
  simp only [applyTo, step, some, Option.getD_some]
  split <;> rfl

theorem applyAll_eq_foldl_step {rules : List (Rule α)}
    (lists : ∀ r ∈ rules, r.actions.isSome = true) (t : Transaction α) :
    applyAll rules t = .ok (rules.foldl step ⟨t, false⟩) :=
  foldlM_eq_foldl (fun r hr o => applyTo_eq_step (lists r hr) o) ⟨t, false⟩

variable {r s : Rule α}

theorem isMatch_foldl_perform (spares : r.Spares s) (o : Outcome α) :
    s.isMatch ((r.actions.getD []).foldl Action.perform o).transaction =
      s.isMatch o.transaction := by
  refine isMatch_congr fun field read => Action.field?_foldl_perform (fun a ha written => ?_) o
  exact spares field (List.mem_flatMap.mpr ⟨a, ha, written⟩) read

theorem isMatch_step (spares : r.enabled = true → r.Spares s) (o : Outcome α) :
    s.isMatch (step o r).transaction = s.isMatch o.transaction := by
  by_cases matched : r.isMatch o.transaction = true
  · have enabled : r.enabled = true := by
      simp only [isMatch, Bool.and_eq_true] at matched
      exact matched.1.1
    rw [step_of_isMatch matched, isMatch_foldl_perform (spares enabled)]
  · rw [step_of_not_isMatch matched]

theorem step_comm (apart : r.LeavesAlone s) (apart' : s.LeavesAlone r) (o : Outcome α) :
    step (step o r) s = step (step o s) r := by
  have s_matches := isMatch_step (fun _ => apart.spares) o
  have r_matches := isMatch_step (fun _ => apart'.spares) o
  by_cases hr : r.isMatch o.transaction = true
  · have hr' : r.isMatch (step o s).transaction = true := r_matches.trans hr
    by_cases hs : s.isMatch o.transaction = true
    · rw [step_of_isMatch hr', step_of_isMatch (s_matches.trans hs), step_of_isMatch hr,
        step_of_isMatch hs]
      refine Action.foldl_perform_comm (fun a ha field written b hb written' => ?_) o
      exact (apart field (List.mem_flatMap.mpr ⟨a, ha, written⟩)).2
        (List.mem_flatMap.mpr ⟨b, hb, written'⟩)
    · have hs' : ¬ s.isMatch (step o r).transaction = true := by rwa [s_matches]
      rw [step_of_not_isMatch hs', step_of_not_isMatch hs]
  · have hr' : ¬ r.isMatch (step o s).transaction = true := by rwa [r_matches]
    rw [step_of_not_isMatch hr', step_of_not_isMatch hr]

/-- Neighbouring rules that leave each other alone may change places. -/
theorem applyToMany_swap {before after : List (Rule α)}
    (lists : ∀ q ∈ before ++ r :: s :: after, q.actions.isSome = true)
    (apart : r.LeavesAlone s) (apart' : s.LeavesAlone r) (ts : List (Transaction α)) :
    ∃ os, applyToMany (before ++ r :: s :: after) ts = .ok os ∧
      applyToMany (before ++ s :: r :: after) ts = .ok os := by
  have swapped : ∀ q ∈ before ++ s :: r :: after, q.actions.isSome = true := fun q hq =>
    lists q (((List.Perm.swap r s after).append_left before).mem_iff.mp hq)
  refine ⟨ts.map fun t => (before ++ r :: s :: after).foldl step ⟨t, false⟩, ?_, ?_⟩
  · exact mapM_eq_map fun t _ => applyAll_eq_foldl_step lists t
  · refine mapM_eq_map fun t _ => ?_
    rw [applyAll_eq_foldl_step swapped, List.foldl_append, List.foldl_append, List.foldl_cons,
      List.foldl_cons, List.foldl_cons, List.foldl_cons, step_comm apart apart']

def shopRule : Rule Float where
  id := "shop"
  name := .text "Shops"
  conditions := [⟨.text, .text "merchant", .text "contains", .text "SHOP", .text ""⟩]
  actions := some [⟨.text "setCategory", .text "Groceries", .text ""⟩,
    ⟨.text "addTag", .text "food", .text ""⟩]

def accountRule : Rule Float where
  id := "account"
  name := .text "Main account"
  conditions := [⟨.text, .text "account", .text "equals", .text "main", .text ""⟩]
  actions := some [⟨.text "markRecurring", .text "series", .text ""⟩,
    ⟨.text "assignGoal", .text "saving", .text ""⟩]

def reviewRule : Rule Float where
  id := "review"
  name := .text "Review"
  conditions := [⟨.text, .text "category", .text "equals", .text "Groceries", .text ""⟩]
  actions := some [⟨.text "setStatus", .text "reviewed", .text ""⟩]

theorem applyToMany_swap_shopRule :
    (∀ q ∈ [sortingRule] ++ shopRule :: accountRule :: [reviewRule], q.actions.isSome = true) ∧
    shopRule.LeavesAlone accountRule ∧ accountRule.LeavesAlone shopRule ∧
    ∃ o, applyToMany ([sortingRule] ++ shopRule :: accountRule :: [reviewRule])
        [labelTransaction] = .ok [o] ∧
      applyToMany ([sortingRule] ++ accountRule :: shopRule :: [reviewRule])
        [labelTransaction] = .ok [o] ∧
      o.transaction.status = .text "reviewed" ∧ o.transaction.recurringId = .text "series" := by
  have lists : ∀ q ∈ [sortingRule] ++ shopRule :: accountRule :: [reviewRule],
      q.actions.isSome = true := by decide
  have apart : shopRule.LeavesAlone accountRule := by decide
  have apart' : accountRule.LeavesAlone shopRule := by decide
  obtain ⟨os, run, run'⟩ := applyToMany_swap lists apart apart' [labelTransaction]
  obtain rfl := Except.ok.inj (Eq.trans rfl run)
  exact ⟨lists, apart, apart', _, run, run', rfl, rfl⟩

/-! ### Each rule by itself -/

theorem foldl_step_eq_matching {rules : List (Rule α)}
    (undisturbed : rules.Pairwise fun r s => r.enabled = true → r.Spares s) (o : Outcome α) :
    rules.foldl step o =
      ((matching rules o.transaction).flatMap fun r => r.actions.getD []).foldl
        Action.perform o := by
  induction rules generalizing o with
  | nil => rfl
  | cons r rest ih =>
    obtain ⟨spared, undisturbed⟩ := List.pairwise_cons.mp undisturbed
    have later : matching rest (step o r).transaction = matching rest o.transaction :=
      List.filter_congr fun s hs => isMatch_step (spared s hs) o
    rw [List.foldl_cons, ih undisturbed, later, matching, matching, List.filter_cons]
    split
    case isTrue matched =>
      rw [List.flatMap_cons, List.foldl_append, step_of_isMatch matched]
    case isFalse unmatched =>
      rw [step_of_not_isMatch unmatched]

/-- Where no rule that can match sets what a later one asks for, the rules that match at the outset
are carried out, with all of their actions. -/
theorem applyAll_eq_matching {rules : List (Rule α)}
    (lists : ∀ r ∈ rules, r.actions.isSome = true)
    (undisturbed : rules.Pairwise fun r s => r.enabled = true →
      (r.HasAction "setCategory" → ¬ s.HasConditionOn "category") ∧
        (r.HasAction "setStatus" → ¬ s.HasConditionOn "status"))
    (t : Transaction α) :
    applyAll rules t =
      .ok (((matching rules t).flatMap fun r => r.actions.getD []).foldl
        Action.perform ⟨t, false⟩) := by
  rw [applyAll_eq_foldl_step lists]
  exact congrArg Except.ok (foldl_step_eq_matching
    (undisturbed.imp fun spares enabled => spares_iff.mpr (spares enabled)) ⟨t, false⟩)

def quietRules : List (Rule Float) :=
  [{ shopRule with enabled := false }, sortingRule, accountRule]

theorem applyAll_eq_matching_quietRules :
    (∀ r ∈ quietRules, r.actions.isSome = true) ∧
    (quietRules.Pairwise fun r s => r.enabled = true →
      (r.HasAction "setCategory" → ¬ s.HasConditionOn "category") ∧
        (r.HasAction "setStatus" → ¬ s.HasConditionOn "status")) ∧
    matching quietRules labelTransaction = [sortingRule, accountRule] ∧
    applyAll quietRules labelTransaction =
      .ok (([sortingRule, accountRule].flatMap fun r => r.actions.getD []).foldl
        Action.perform ⟨labelTransaction, false⟩) := by
  have lists : ∀ r ∈ quietRules, r.actions.isSome = true := by decide
  have undisturbed : quietRules.Pairwise fun r s => r.enabled = true →
      (r.HasAction "setCategory" → ¬ s.HasConditionOn "category") ∧
        (r.HasAction "setStatus" → ¬ s.HasConditionOn "status") := by
    simp [quietRules, shopRule, sortingRule, accountRule, HasAction, HasConditionOn]
  exact ⟨lists, undisturbed, rfl, applyAll_eq_matching lists undisturbed labelTransaction⟩

end Rule

end RecurringPayments
