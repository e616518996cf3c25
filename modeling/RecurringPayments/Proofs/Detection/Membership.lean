import RecurringPayments.Proofs.Detection.Failure

/-!
Who belongs to a group: whatever the dates, the amounts and the thresholds are, a reported group
lists the transactions of its merchant's key and no others.
-/
namespace RecurringPayments

open Result

variable {α : Type} [Scalar α]

namespace Charge

theorem assemble_keys (ts : List (Transaction α)) (is : List (Option Int)) (xs : List α) :
    ∀ c ∈ assemble ts is xs, c.key = c.transaction.key := by
  fun_induction assemble ts is xs with
  | case1 t ts i is x xs ih => exact List.forall_mem_cons.mpr ⟨rfl, ih⟩
  | case2 => simp

theorem map_transaction_assemble {ts : List (Transaction α)} {is : List (Option Int)}
    {xs : List α} (dated : is.length = ts.length) (weighed : xs.length = ts.length) :
    (assemble ts is xs).map (·.transaction) = ts := by
  induction ts generalizing is xs with
  | nil => cases is <;> simp_all [assemble]
  | cons t ts ih =>
    cases is with
    | nil => simp at dated
    | cons i is =>
      cases xs with
      | nil => simp at weighed
      | cons x xs =>
        simp only [List.length_cons, Nat.add_right_cancel_iff] at dated weighed
        rw [assemble, List.map_cons, ih dated weighed]

theorem ofTransactions_spec {ts : List (Transaction α)} {charges : List (Charge α)}
    (read : ofTransactions ts = .ok charges) :
    charges.map (·.transaction) = ts ∧ ∀ c ∈ charges, c.key = c.transaction.key := by
  obtain ⟨ms, xs, dated, weighed, rfl⟩ := exists_of_ofTransactions read
  have lengths := (mapM_eq_ok_iff.mp dated).length_eq
  have lengths' := (mapM_eq_ok_iff.mp weighed).length_eq
  refine ⟨map_transaction_assemble ?_ lengths'.symm, assemble_keys ts _ xs⟩
  rw [List.length_map, lengths]

end Charge

namespace Detector

variable {d : Detector α}

variable {ts : List (Transaction α)} {groups : List (RecurringGroup α)}
  (detected : d.detect ts = .ok groups) {g : RecurringGroup α} (hg : g ∈ groups)
include detected hg

theorem mem_members_iff_exists (m : Member α) :
    m ∈ g.members ↔ ∃ t ∈ ts, t.key = g.merchantKey ∧ Member.ofTransaction t = m := by
  obtain ⟨charges, read, built⟩ := exists_isBuiltFrom detected hg
  obtain ⟨transactions, keys⟩ := Charge.ofTransactions_spec read
  rw [built.members, ← transactions]
  simp only [List.mem_map, List.mem_mergeSort, List.mem_filter, beq_iff_eq]
  constructor
  · rintro ⟨c, ⟨hc, own⟩, rfl⟩
    exact ⟨_, ⟨c, hc, rfl⟩, (keys c hc).symm.trans own, rfl⟩
  · rintro ⟨-, ⟨c, hc, rfl⟩, same, rfl⟩
    exact ⟨c, ⟨hc, (keys c hc).trans same⟩, rfl⟩

theorem mem_members_iff {t : Transaction α} (ht : t ∈ ts) :
    Member.ofTransaction t ∈ g.members ↔ t.key = g.merchantKey := by
  rw [mem_members_iff_exists detected hg]
  constructor
  · rintro ⟨other, -, key, same⟩
    have merchant : other.merchant = t.merchant := congrArg Member.description same
    rwa [Transaction.key, merchant] at key
  · exact fun key => ⟨t, ht, key, rfl⟩

end Detector

end RecurringPayments
