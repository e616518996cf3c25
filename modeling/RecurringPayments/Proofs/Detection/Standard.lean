import RecurringPayments.Proofs.Detection.Window

/-!
The detector of the configuration that is used where no other is given, and its thresholds as
numbers.
-/
namespace RecurringPayments

variable {α : Type} [Scalar α]

namespace Detector

open Settings in
def standard : Detector α where
  minOccurrences := .int 2
  minConfidence := figure 6 1
  maxVariance := figure 15 2
  minSubscriptionConfidence := figure 75 2
  amountTolerance := figure 10 2
  windows := defaultBuckets
  levels := defaultLevels

theorem ofSettings_none : ofSettings (Settings.none : Settings α) = .ok standard := rfl

end Detector

noncomputable def Window.ofDays (name : String) (low high : Int) : Window :=
  ⟨name, ((low : ℝ) : EReal), ((high : ℝ) : EReal)⟩

/-- The windows of the standard configuration, beside a confidence that is left open. -/
noncomputable def Thresholds.standard (minConfidence : EReal) : Thresholds where
  minOccurrences := (((2 : Int) : ℝ) : EReal)
  minConfidence := minConfidence
  windows := [.ofDays "daily" 0 2, .ofDays "weekly" 6 8, .ofDays "biweekly" 13 15,
    .ofDays "monthly" 28 32, .ofDays "quarterly" 88 95, .ofDays "yearly" 360 370]

theorem Thresholds.standard_bounded (c : EReal) :
    ∀ w ∈ (Thresholds.standard c).windows, w.high ≤ 20000 := by
  have bound (name : String) (low high : Int) (h : high ≤ 20000) :
      (Window.ofDays name low high).high ≤ 20000 :=
    EReal.coe_le_coe_iff.mpr (by exact_mod_cast h)
  simp only [Thresholds.standard, List.forall_mem_cons]
  refine ⟨bound _ _ _ ?_, bound _ _ _ ?_, bound _ _ _ ?_, bound _ _ _ ?_, bound _ _ _ ?_,
    bound _ _ _ ?_, by simp⟩
  all_goals decide

variable [LawfulScalar α]

theorem Window.isReadFrom_ofDays (name : String) (low high : Int) :
    (Window.ofDays name low high).IsReadFrom
      (.text name, (Settings.window low high : Value α)) where
  name := rfl
  low := ⟨.int low, rfl, rfl⟩
  high := ⟨.int high, rfl, rfl⟩

theorem Detector.standard_hasThresholds {c : EReal}
    (hc : LawfulScalar.value? (Scalar.ofDecimal false 6 (-1) : α) = some c) :
    (standard : Detector α).HasThresholds (Thresholds.standard c) where
  minOccurrences := rfl
  minConfidence := hc
  maxVariance := rfl
  minSubscriptionConfidence := rfl
  windows := by
    have entry := Window.isReadFrom_ofDays (α := α)
    exact ⟨_, rfl, .cons (entry ..) (.cons (entry ..) (.cons (entry ..) (.cons (entry ..)
      (.cons (entry ..) (.cons (entry ..) .nil)))))⟩

end RecurringPayments
