import RecurringPayments.Proofs.Number.Spread

/-!
Numbers in another unit. In exact arithmetic a change of the unit goes through the mean, and what is
measured relative to a mean, or to the size of the numbers compared, does not show it.
-/
namespace RecurringPayments.Exact

variable {c : ℝ}

theorem mean_map_mul (c : ℝ) (xs : List ℝ) : mean (xs.map (c * ·)) = c * mean xs := by
  rw [mean_eq, mean_eq, List.length_map, List.sum_map_mul_left, List.map_id', mul_div_assoc]

theorem relativeVariation_map_mul (hc : c ≠ 0) (xs : List ℝ) (m : ℝ) :
    Detector.relativeVariation (xs.map (c * ·)) (c * m) = Detector.relativeVariation xs m := by
  by_cases hm : m = 0
  · have zero : Scalar.same (0 : ℝ) Scalar.zero = true := (same_iff _ _).mpr Int.cast_zero.symm
    rw [hm, mul_zero, Detector.relativeVariation, if_pos zero, Detector.relativeVariation,
      if_pos zero]
  · have squares : (xs.map (c * ·)).map (fun x => ((x - c * m) / (c * m)) ^ 2) =
        xs.map fun x => ((x - m) / m) ^ 2 := by
      rw [List.map_map]
      refine List.map_congr_left fun x _ => ?_
      rw [Function.comp_apply, ← mul_sub, mul_div_mul_left _ _ hc]
    rw [relativeVariation_eq _ (mul_ne_zero hc hm), relativeVariation_eq _ hm, squares,
      List.length_map]

theorem similarAmounts_mul (hc : 0 < c) (d : Detector ℝ) (x m : ℝ) :
    d.similarAmounts (c * x) (c * m) = d.similarAmounts x m := by
  have size (y : ℝ) : |c * y| = c * |y| := by rw [abs_mul, abs_of_pos hc]
  have scale : Scalar.div (Scalar.add (Scalar.abs (c * x)) (Scalar.abs (c * m))) (Scalar.ofInt 2) =
      c * Scalar.div (Scalar.add (Scalar.abs x) (Scalar.abs m)) (Scalar.ofInt 2) := by
    change (|c * x| + |c * m|) / ((2 : ℤ) : ℝ) = c * ((|x| + |m|) / ((2 : ℤ) : ℝ))
    rw [size, size, ← mul_add, mul_div_assoc]
  have difference (s : ℝ) : Scalar.div (Scalar.abs (Scalar.sub (c * x) (c * m))) (c * s) =
      Scalar.div (Scalar.abs (Scalar.sub x m)) s := by
    change |c * x - c * m| / (c * s) = |x - m| / s
    rw [← mul_sub, size, mul_div_mul_left _ _ hc.ne']
  have zero (s : ℝ) : Scalar.same (c * s) Scalar.zero = Scalar.same s Scalar.zero := by
    have none : (Scalar.zero : ℝ) = 0 := Int.cast_zero
    rw [Bool.eq_iff_iff, same_iff, same_iff, none, mul_eq_zero, or_iff_right hc.ne']
  simp only [Detector.similarAmounts, scale, zero, difference]

end RecurringPayments.Exact
