import RecurringPayments.Proofs.List.FirstAppearance
import RecurringPayments.Proofs.Result
import RecurringPayments.Report.Basic

/-!
The rules of a report are parted: those without a problem are used, in their order, and of the
others the problems are kept under the rule's id, where a later rule takes the place of an earlier
one of the same id.
-/
namespace RecurringPayments

variable {α : Type} [Scalar α]

def rejectsOf (rules : List (Rule α)) : List (Rule α) := rules.filter fun r => !r.isValid

def lastReject? (rules : List (Rule α)) (id : String) : Option (Rule α) :=
  rules.reverse.find? fun r => !r.isValid && r.id == id

theorem rejectsOf_append (rules others : List (Rule α)) :
    rejectsOf (rules ++ others) = rejectsOf rules ++ rejectsOf others := List.filter_append ..

theorem rejectsOf_singleton (r : Rule α) : rejectsOf [r] = if r.isValid then [] else [r] := by
  rw [rejectsOf, List.filter_singleton]
  cases r.isValid <;> rfl

theorem lastReject?_concat (rules : List (Rule α)) (r : Rule α) (id : String) :
    lastReject? (rules ++ [r]) id =
      if !r.isValid && r.id == id then some r else lastReject? rules id := by
  rw [lastReject?, List.reverse_append, List.reverse_singleton, List.singleton_append,
    List.find?_cons]
  cases !r.isValid && r.id == id <;> rfl

theorem length_usable_add_rejects (rules : List (Rule α)) :
    (rules.filter (·.isValid)).length + (rejectsOf rules).length = rules.length := by
  have split := List.length_eq_countP_add_countP (fun r : Rule α => r.isValid) (l := rules)
  rw [rejectsOf, ← List.countP_eq_length_filter, ← List.countP_eq_length_filter, split]
  simp

namespace RuleSplit

/-! ### Filing problems -/

variable {id : String} {problems : List RuleProblem} {entries : List (String × List RuleProblem)}

theorem lookup_cons (key other : String) (problems : List RuleProblem) :
    ((key, problems) :: entries).lookup other =
      if other = key then some problems else entries.lookup other := by
  rw [List.lookup_cons]
  by_cases same : other = key
  · rw [if_pos same, same, beq_self_eq_true]
  · rw [if_neg same, beq_false_of_ne same]

theorem lookup_file (other : String) :
    (file id problems entries).lookup other =
      if other = id then some problems else entries.lookup other := by
  induction entries with
  | nil => exact lookup_cons id other problems
  | cons entry entries ih =>
    obtain ⟨key, old⟩ := entry
    rw [file]
    by_cases filed : key = id
    · subst filed
      rw [if_pos (beq_self_eq_true key), lookup_cons, lookup_cons]
      split <;> rfl
    · rw [if_neg (by simpa using filed), lookup_cons, lookup_cons, ih]
      by_cases same : other = key
      · rw [if_pos same, if_pos same, if_neg (same ▸ filed)]
      · rw [if_neg same, if_neg same]

theorem ids_file :
    (file id problems entries).map (·.1) =
      if id ∈ entries.map (·.1) then entries.map (·.1) else entries.map (·.1) ++ [id] := by
  induction entries with
  | nil => rfl
  | cons entry entries ih =>
    obtain ⟨key, old⟩ := entry
    rw [file]
    by_cases filed : key = id
    · simp [filed]
    · have other : (key == id) = false := beq_false_of_ne filed
      simp only [other, Bool.false_eq_true, if_false, List.map_cons, ih, List.mem_cons,
        Ne.symm filed, false_or]
      split <;> rfl

theorem file_of_new (fresh : id ∉ entries.map (·.1)) :
    file id problems entries = entries ++ [(id, problems)] := by
  induction entries with
  | nil => rfl
  | cons entry entries ih =>
    rw [List.map_cons, List.mem_cons, not_or] at fresh
    have other : (entry.1 == id) = false := beq_false_of_ne (Ne.symm fresh.1)
    rw [file, other, if_neg Bool.false_ne_true, ih fresh.2, List.cons_append]

/-! ### Rule by rule -/

theorem ofRules_concat (rules : List (Rule α)) (r : Rule α) :
    ofRules (rules ++ [r]) = (ofRules rules).add r := List.foldl_append

theorem add_of_isValid {s : RuleSplit α} {r : Rule α} (valid : r.isValid = true) :
    s.add r = { s with usable := s.usable ++ [r] } := if_pos valid

theorem add_of_not_isValid {s : RuleSplit α} {r : Rule α} (invalid : r.isValid = false) :
    s.add r = { s with rejected := file r.id r.problems s.rejected } :=
  if_neg (Bool.eq_false_iff.mp invalid)

theorem usable_ofRules (rules : List (Rule α)) :
    (ofRules rules).usable = rules.filter (·.isValid) := by
  induction rules using List.reverseRecOn with
  | nil => rfl
  | append_singleton rules r ih =>
    rw [ofRules_concat, List.filter_append, ← ih]
    cases valid : r.isValid with
    | false => simp [add_of_not_isValid valid, valid]
    | true => simp [add_of_isValid valid, valid]

theorem ids_ofRules (rules : List (Rule α)) :
    (ofRules rules).rejected.map (·.1) = ((rejectsOf rules).map (·.id)).eraseDups := by
  induction rules using List.reverseRecOn with
  | nil => rfl
  | append_singleton rules r ih =>
    rw [ofRules_concat, rejectsOf_append, rejectsOf_singleton]
    cases valid : r.isValid with
    | true => simpa [add_of_isValid valid] using ih
    | false =>
      rw [add_of_not_isValid valid, if_neg Bool.false_ne_true, List.map_append, ids_file, ih,
        List.map_singleton, FirstAppearance.eraseDups_concat]
      simp only [List.mem_eraseDups]

theorem lookup_ofRules (rules : List (Rule α)) (id : String) :
    (ofRules rules).rejected.lookup id = (lastReject? rules id).map (·.problems) := by
  induction rules using List.reverseRecOn with
  | nil => rfl
  | append_singleton rules r ih =>
    rw [ofRules_concat, lastReject?_concat]
    cases valid : r.isValid with
    | true => rwa [add_of_isValid valid]
    | false =>
      rw [add_of_not_isValid valid, lookup_file, ih]
      by_cases same : id = r.id
      · simp [same]
      · simp [same, Ne.symm same]

theorem rejected_of_distinct {rules : List (Rule α)}
    (distinct : ((rejectsOf rules).map (·.id)).Nodup) :
    (ofRules rules).rejected = (rejectsOf rules).map fun r => (r.id, r.problems) := by
  induction rules using List.reverseRecOn with
  | nil => rfl
  | append_singleton rules r ih =>
    rw [rejectsOf_append, rejectsOf_singleton] at distinct ⊢
    rw [ofRules_concat]
    cases valid : r.isValid with
    | true =>
      simp only [valid, if_true, List.append_nil] at distinct ⊢
      rw [add_of_isValid valid]
      exact ih distinct
    | false =>
      simp only [valid, Bool.false_eq_true, if_false, List.map_append] at distinct ⊢
      have before := ih (List.nodup_append.mp distinct).1
      have fresh : r.id ∉ (ofRules rules).rejected.map (·.1) := by
        rw [ids_ofRules, List.mem_eraseDups]
        exact fun listed => (List.nodup_append.mp distinct).2.2 _ listed _ (.head _) rfl
      rw [add_of_not_isValid valid, file_of_new fresh, before]
      rfl

theorem counted_iff (rules : List (Rule α)) :
    (ofRules rules).usable.length + (ofRules rules).rejected.length = rules.length ↔
      ((rejectsOf rules).map (·.id)).Nodup := by
  have reports : (ofRules rules).rejected.length =
      ((rejectsOf rules).map (·.id)).eraseDups.length := by
    rw [← ids_ofRules, List.length_map]
  have whole := length_usable_add_rejects rules
  rw [← FirstAppearance.length_eraseDups_eq_iff, ← reports, usable_ofRules, List.length_map]
  omega

end RuleSplit

end RecurringPayments
