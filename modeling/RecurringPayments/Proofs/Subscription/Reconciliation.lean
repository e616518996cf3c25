import RecurringPayments.Proofs.Subscription.Spending

/-!
The spending of all categories beside the monthly cost, where nothing is rounded. Two tables of
factors, and two ways of meeting a frequency that is not listed, part them by a known amount.
-/
namespace RecurringPayments.Projector

open Result

/-! ### The two sums -/

theorem exists_monthlyEquivalent_eq {p : Projector ℝ} {table : List (String × ℝ)}
    (listed : p.monthlyFactors.IsTable table) {daily : ℝ}
    (known : table.lookup "daily" = some daily) {s : Subscription ℝ} {x : ℝ}
    (amount : s.amount.scalar = .ok x) :
    ∃ v, p.monthlyEquivalent s = .ok v ∧
      v.scalar = .ok (x * (table.lookup s.pattern.frequency).getD daily) := by
  obtain ⟨entries, block, same⟩ := listed
  have found := same "daily"
  rw [known, Option.map_some, Option.map_eq_some_iff] at found
  obtain ⟨other, entry, number⟩ := found
  obtain ⟨product, scaled, value⟩ :=
    Value.exists_mul_eq amount (Value.scalar_getD same number s.pattern.frequency)
  refine ⟨product, ?_, value⟩
  rw [monthlyEquivalent, monthlyFactor, block, Settings.entriesOf, Settings.entryOf, entry]
  simp only [ok_bind, pure_eq, scaled]

theorem monthlyCost_eq_sum {p : Projector ℝ} {subs : List (Subscription ℝ)}
    {equivalent : Subscription ℝ → ℝ}
    (each : ∀ s ∈ subs, ∃ v, p.monthlyEquivalent s = .ok v ∧ v.scalar = .ok (equivalent s)) :
    p.monthlyCost subs = .ok (subs.map equivalent).sum := by
  have step : ∀ s ∈ subs, ∀ total : ℝ,
      (do return Scalar.add total (← (← p.monthlyEquivalent s).scalar) : Except Fault ℝ) =
        .ok (Scalar.add total (equivalent s)) := by
    intro s hs total
    obtain ⟨v, made, number⟩ := each s hs
    rw [made, ok_bind, number]
    rfl
  rw [monthlyCost, foldlM_eq_foldl step, ← List.foldl_map, ← plainSum, Exact.plainSum_eq]

theorem sum_spending {p : Projector ℝ} {subs : List (Subscription ℝ)}
    (named : ∀ s ∈ subs, s.IsNamed) {share : Subscription ℝ → ℝ}
    (charged : ∀ s ∈ subs, ∃ c, p.categoryCharge s = .ok c ∧ c.category = s.category ∧
      c.amount.scalar = .ok (share s)) :
    ∃ spending, p.categorySpending subs = .ok spending ∧
      (spending.map (·.2)).sum = (subs.map share).sum := by
  refine ⟨_, categorySpending_eq named charged, ?_⟩
  rw [((List.mergeSort_perm _ isNoSmaller).map _).sum_eq, List.map_map]
  exact FirstAppearance.sum_filter_eraseDups Subscription.categoryName share subs

/-! ### The configuration used where no other is given -/

noncomputable def monthlyTable : List (String × ℝ) :=
  [("daily", (30 : ℕ)), ("weekly", (4 : ℕ)), ("biweekly", (2 : ℕ)), ("monthly", 1),
    ("quarterly", 0.3333333333333333), ("yearly", 0.08333333333333333)]

theorem standard_monthlyFactors_isTable :
    (standard : Projector ℝ).monthlyFactors.IsTable monthlyTable := by
  refine Value.isTable_block ?_
  simp only [monthlyTable, List.forall₂_cons, List.forall₂_nil_right_iff, true_and, and_true,
    Settings.third, Settings.twelfth, scalar_figure, Except.ok.injEq]
  norm_num

noncomputable def monthlyScale (frequency : String) : ℝ := (monthlyTable.lookup frequency).getD 30

/-- The frequencies that both figures scale. -/
def scaledAlike : List String := ["monthly", "quarterly", "yearly"]

theorem categoryTable_lookup (frequency : String) :
    (categoryTable.lookup frequency).getD 1 =
      if frequency ∈ scaledAlike then monthlyScale frequency else 1 := by
  by_cases listed : frequency ∈ scaledAlike
  · rw [if_pos listed]
    simp only [scaledAlike, List.mem_cons, List.not_mem_nil, or_false] at listed
    rcases listed with rfl | rfl | rfl <;> rfl
  · have absent : categoryTable.lookup frequency = none := by
      rw [List.lookup_eq_none_iff]
      intro e he
      rw [bne_iff_ne]
      rintro rfl
      exact listed (List.mem_map_of_mem (f := Prod.fst) he)
    rw [if_neg listed, absent, Option.getD_none]

/-- Only the frequencies that both figures scale count for less than a month. -/
theorem one_le_monthlyScale {frequency : String} (unlike : frequency ∉ scaledAlike) :
    1 ≤ monthlyScale frequency := by
  have each : ∀ e ∈ monthlyTable, e.1 ∈ scaledAlike ∨ 1 ≤ e.2 := by
    simp only [monthlyTable, scaledAlike, List.forall_mem_cons]
    norm_num
  rw [monthlyScale]
  cases found : monthlyTable.lookup frequency with
  | none => norm_num
  | some scale =>
    obtain ⟨before, after, table, -⟩ := List.lookup_eq_some_iff.mp found
    have listed : (frequency, scale) ∈ monthlyTable :=
      table ▸ List.mem_append_right _ List.mem_cons_self
    exact (each _ listed).resolve_left unlike

/-- The spending of all categories beside the monthly cost. -/
structure Reconciles (amount : Subscription ℝ → ℝ) (subs : List (Subscription ℝ))
    (spending : List (String × ℝ)) (monthly : ℝ) : Prop where
  difference : (spending.map (·.2)).sum = monthly -
    ((subs.filter fun s => s.pattern.frequency ∉ scaledAlike).map fun s =>
      amount s * (monthlyScale s.pattern.frequency - 1)).sum
  equal : (∀ s ∈ subs, s.pattern.frequency ∈ scaledAlike) → (spending.map (·.2)).sum = monthly
  bounded : (∀ s ∈ subs, 0 ≤ amount s) → (spending.map (·.2)).sum ≤ monthly

/-- Under the standard configuration: the two figures differ by what the frequencies that only the
monthly cost scales are scaled up. -/
theorem categorySpending_reconciles {p : Projector ℝ} (config : ofSettings Settings.none = .ok p)
    {subs : List (Subscription ℝ)} (named : ∀ s ∈ subs, s.IsNamed) {amount : Subscription ℝ → ℝ}
    (amounts : ∀ s ∈ subs, s.amount.scalar = .ok (amount s)) :
    ∃ spending monthly, p.categorySpending subs = .ok spending ∧ p.monthlyCost subs = .ok monthly ∧
      Reconciles amount subs spending monthly := by
  rw [ofSettings_none, Except.ok.injEq] at config
  subst config
  obtain ⟨spending, spent, total⟩ := sum_spending named fun s hs =>
    exists_categoryCharge_eq standard_categoryFactors_isTable (amounts s hs)
  have cost := monthlyCost_eq_sum fun s hs =>
    exists_monthlyEquivalent_eq standard_monthlyFactors_isTable rfl (amounts s hs)
  refine ⟨spending, _, spent, cost, ?_⟩
  have difference : (spending.map (·.2)).sum =
      (subs.map fun s => amount s * monthlyScale s.pattern.frequency).sum -
        ((subs.filter fun s => s.pattern.frequency ∉ scaledAlike).map fun s =>
          amount s * (monthlyScale s.pattern.frequency - 1)).sum := by
    rw [total]
    clear named amounts spent total cost
    induction subs with
    | nil => simp
    | cons s subs ih =>
      rw [List.map_cons, List.sum_cons, ih, List.map_cons, List.sum_cons, categoryTable_lookup]
      by_cases alike : s.pattern.frequency ∈ scaledAlike
      · rw [if_pos alike, List.filter_cons_of_neg (by simpa using alike)]
        ring
      · rw [if_neg alike, List.filter_cons_of_pos (by simpa using alike), List.map_cons,
          List.sum_cons]
        ring
  refine ⟨difference, fun alike => ?_, fun nonneg => ?_⟩
  · have none : (subs.filter fun s => s.pattern.frequency ∉ scaledAlike) = [] :=
      List.filter_eq_nil_iff.mpr fun s hs => by simpa using alike s hs
    rw [difference, none, List.map_nil, List.sum_nil, sub_zero]
    rfl
  · rw [difference]
    refine sub_le_self _ (List.sum_nonneg ?_)
    rw [List.forall_mem_map]
    intro s hs
    obtain ⟨listed, unlike⟩ := List.mem_filter.mp hs
    exact mul_nonneg (nonneg s listed)
      (sub_nonneg.mpr (one_le_monthlyScale (of_decide_eq_true unlike)))

theorem categorySpending_reconciles_household :
    ∃ spending monthly, (standard : Projector ℝ).categorySpending household = .ok spending ∧
      standard.monthlyCost (household : List (Subscription ℝ)) = .ok monthly ∧
      Reconciles (fun s => s.amount.scalar.toOption.getD 0) household spending monthly :=
  categorySpending_reconciles ofSettings_none household_isNamed household_amounts

end RecurringPayments.Projector
