import RecurringPayments.Detection.Detect
import RecurringPayments.Proofs.Number.Exact

/-!
How far numbers spread about their mean, in exact arithmetic. One more number that is close to the
mean leaves the relative deviation below any bound that it was below, and one that equals the mean
moves nothing; and no numbers have a deviation of zero but those that are all the same.
-/
namespace RecurringPayments.Exact

/-! ### The mean -/

section

variable {xs : List ℝ} (some : xs ≠ []) {x : ℝ}
include some

theorem mean_concat (x : ℝ) :
    mean (xs ++ [x]) = (mean xs * xs.length + x) / (xs.length + 1) := by
  rw [mean_eq, List.sum_append, List.sum_singleton, sum_eq_mean_mul some, List.length_append,
    List.length_singleton, Nat.cast_add, Nat.cast_one]

theorem mean_concat_self : mean (xs ++ [mean xs]) = mean xs := by
  have pos := length_pos some
  rw [mean_concat some]
  field_simp

theorem mean_concat_bounds {low high : ℝ} (hm : low ≤ mean xs ∧ mean xs ≤ high)
    (hx : low ≤ x ∧ x ≤ high) : low ≤ mean (xs ++ [x]) ∧ mean (xs ++ [x]) ≤ high := by
  have pos := length_pos some
  have total : (0 : ℝ) < xs.length + 1 := by linarith
  have least := mul_le_mul_of_nonneg_right hm.1 pos.le
  have most := mul_le_mul_of_nonneg_right hm.2 pos.le
  rw [mean_concat some, le_div_iff₀ total, div_le_iff₀ total]
  constructor <;> linarith

end

/-! ### The deviation -/

theorem sum_sq_sub (xs : List ℝ) (a : ℝ) : (xs.map fun x => (x - a) ^ 2).sum =
    (xs.map fun x => x ^ 2).sum - 2 * a * xs.sum + xs.length * a ^ 2 := by
  induction xs with
  | nil => simp
  | cons y ys ih =>
    simp only [List.map_cons, List.sum_cons, List.length_cons, ih]
    push_cast
    ring

section

variable {xs : List ℝ} (some : xs ≠ []) {k : ℝ} (pos : 0 < k)
include some pos

/-- A bound of the relative deviation, without a root and without a quotient. -/
theorem deviation_lt_iff (mean_pos : 0 < mean xs) : deviation xs < k * mean xs ↔
    xs.length * (xs.map fun x => x ^ 2).sum < (1 + k ^ 2) * xs.sum ^ 2 := by
  have count := length_pos some
  rw [deviation_eq, Real.sqrt_lt' (mul_pos pos mean_pos), div_lt_iff₀ count, sum_sq_sub,
    sum_eq_mean_mul some]
  set m := mean xs
  set n : ℝ := (xs.length : ℝ)
  set q := (xs.map fun x => x ^ 2).sum
  rw [← mul_lt_mul_iff_right₀ count]
  constructor <;> intro h <;> nlinarith only [h]

theorem deviation_concat_lt (mean_pos : 0 < mean xs) {x : ℝ} (x_pos : 0 < x)
    (close : (1 + k ^ 2) * (x - mean xs) ^ 2 ≤ (k * x) ^ 2) (even : deviation xs < k * mean xs) :
    deviation (xs ++ [x]) < k * mean (xs ++ [x]) := by
  have count := length_pos some
  have nonempty : xs ++ [x] ≠ [] := List.append_ne_nil_of_right_ne_nil _ (List.cons_ne_nil x [])
  have next_pos : 0 < mean (xs ++ [x]) := by
    rw [mean_concat some]
    positivity
  rw [deviation_lt_iff some pos mean_pos, sum_eq_mean_mul some] at even
  rw [deviation_lt_iff nonempty pos next_pos]
  simp only [List.map_append, List.map_singleton, List.sum_append, List.sum_singleton,
    List.length_append, List.length_singleton, Nat.cast_add, Nat.cast_one, sum_eq_mean_mul some]
  set m := mean xs
  set n : ℝ := (xs.length : ℝ)
  set q := (xs.map fun x => x ^ 2).sum
  have squares : q < (1 + k ^ 2) * (m ^ 2 * n) := by
    refine lt_of_mul_lt_mul_left ?_ count.le
    calc n * q < (1 + k ^ 2) * (m * n) ^ 2 := even
      _ = n * ((1 + k ^ 2) * (m ^ 2 * n)) := by ring
  have room : 0 ≤ n * ((k * x) ^ 2 - (1 + k ^ 2) * (x - m) ^ 2) :=
    mul_nonneg count.le (sub_nonneg.mpr close)
  calc (n + 1) * (q + x ^ 2) = n * q + q + (n + 1) * x ^ 2 := by ring
    _ < (1 + k ^ 2) * (m * n) ^ 2 + (1 + k ^ 2) * (m ^ 2 * n) + (n + 1) * x ^ 2 := by gcongr
    _ = (1 + k ^ 2) * (m * n + x) ^ 2 - n * ((k * x) ^ 2 - (1 + k ^ 2) * (x - m) ^ 2) -
        (k * x) ^ 2 := by ring
    _ ≤ (1 + k ^ 2) * (m * n + x) ^ 2 := by linarith [sq_nonneg (k * x)]

end

/-! ### Even numbers -/

section

variable {xs : List ℝ} (some : xs ≠ [])
include some

theorem mean_of_forall_eq {x : ℝ} (same : ∀ y ∈ xs, y = x) : mean xs = x := by
  obtain ⟨least, most⟩ := mean_bounds some (fun y hy => (same y hy).ge) fun y hy => (same y hy).le
  exact le_antisymm most least

theorem deviation_eq_zero_iff : deviation xs = 0 ↔ ∀ x ∈ xs, x = mean xs := by
  have count := length_pos some
  have squares : ∀ y ∈ xs.map fun x => (x - mean xs) ^ 2, 0 ≤ y :=
    List.forall_mem_map.mpr fun x _ => sq_nonneg _
  rw [deviation_eq, Real.sqrt_eq_zero (div_nonneg (List.sum_nonneg squares) count.le),
    div_eq_zero_iff, or_iff_left count.ne']
  constructor
  · intro none x hx
    have zero : (x - mean xs) ^ 2 = 0 :=
      List.all_zero_of_le_zero_le_of_sum_eq_zero squares none (List.mem_map_of_mem hx)
    exact sub_eq_zero.mp (pow_eq_zero_iff two_ne_zero |>.mp zero)
  · intro same
    refine List.sum_eq_zero (List.forall_mem_map.mpr fun x hx => ?_)
    rw [← same x hx, sub_self, zero_pow two_ne_zero]

end

theorem confidence_eq_one_iff {m d : ℝ} (hm : 0 < m) (hd : 0 ≤ d) :
    Cadence.confidence m d = 1 ↔ d = 0 := by
  have relative : 0 ≤ d / m := div_nonneg hd hm.le
  rw [confidence_eq hm hd]
  constructor
  · intro sure
    rcases max_choice 0 (1 - d / m) with low | high
    · rw [low] at sure
      exact absurd sure zero_ne_one
    · rw [high, sub_eq_self, div_eq_zero_iff] at sure
      exact sure.resolve_right hm.ne'
  · rintro rfl
    rw [zero_div, sub_zero, max_eq_right zero_le_one]

/-! ### Whole numbers -/

theorem sum_le_sum_sq {xs : List ℝ} (whole : ∀ x ∈ xs, ∃ n : ℕ, x = n) :
    xs.sum ≤ (xs.map fun x => x ^ 2).sum := by
  have each : (xs.map fun x => x).sum ≤ (xs.map fun x => x ^ 2).sum := by
    refine List.sum_le_sum fun x hx => ?_
    obtain ⟨n, rfl⟩ := whole x hx
    exact_mod_cast Nat.le_self_pow two_ne_zero n
  rwa [List.map_id'] at each

theorem half_lt_mean {xs : List ℝ} (some : xs ≠ []) (whole : ∀ x ∈ xs, ∃ n : ℕ, x = n)
    (even : deviation xs < mean xs) : 1 / 2 < mean xs := by
  have count := length_pos some
  have mean_pos : 0 < mean xs := (deviation_nonneg xs).trans_lt even
  rw [← one_mul (mean xs), deviation_lt_iff some one_pos mean_pos] at even
  have total : 0 < xs.sum := by
    rw [sum_eq_mean_mul some]
    exact mul_pos mean_pos count
  have few : (xs.length : ℝ) < 2 * xs.sum := by
    refine lt_of_mul_lt_mul_right ?_ total.le
    calc xs.length * xs.sum ≤ xs.length * (xs.map fun x => x ^ 2).sum := by
          gcongr
          exact sum_le_sum_sq whole
      _ < (1 + 1 ^ 2) * xs.sum ^ 2 := even
      _ = 2 * xs.sum * xs.sum := by ring
  rw [mean_eq, lt_div_iff₀ count]
  linarith

/-! ### The relative variation -/

theorem relativeVariation_eq (xs : List ℝ) {m : ℝ} (hm : m ≠ 0) :
    Detector.relativeVariation xs m = √((xs.map fun x => ((x - m) / m) ^ 2).sum / xs.length) := by
  have zero : (Scalar.zero : ℝ) = 0 := Int.cast_zero
  have squares : (xs.map fun x => Scalar.square (Scalar.div (Scalar.sub x m) m)) =
      xs.map fun x => ((x - m) / m) ^ 2 :=
    List.map_congr_left fun x _ => (sq ((x - m) / m)).symm
  rw [Detector.relativeVariation, zero, if_neg (by rwa [same_iff])]
  simp only [squares]
  change √(mean _) = _
  rw [mean_eq, List.length_map]

theorem relativeVariation_concat_le {xs : List ℝ} (some : xs ≠ []) :
    Detector.relativeVariation (xs ++ [mean xs]) (mean xs) ≤
      Detector.relativeVariation xs (mean xs) := by
  by_cases hm : mean xs = 0
  · have zero : Scalar.same (mean xs) Scalar.zero = true := by
      rw [same_iff, hm]
      exact Int.cast_zero.symm
    rw [Detector.relativeVariation, if_pos zero, Detector.relativeVariation, if_pos zero]
  · have squares : 0 ≤ (xs.map fun x => ((x - mean xs) / mean xs) ^ 2).sum :=
      List.sum_nonneg fun y hy => by
        obtain ⟨x, -, rfl⟩ := List.mem_map.mp hy
        exact sq_nonneg _
    have count := length_pos some
    rw [relativeVariation_eq _ hm, relativeVariation_eq _ hm, List.map_append, List.sum_append,
      List.map_singleton, List.sum_singleton, sub_self, zero_div, zero_pow two_ne_zero, add_zero,
      List.length_append, List.length_singleton, Nat.cast_add, Nat.cast_one]
    gcongr
    exact (lt_add_one _).le

end RecurringPayments.Exact
