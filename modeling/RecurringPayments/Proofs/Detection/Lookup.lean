import RecurringPayments.Proofs.Detection.Evenness
import RecurringPayments.Proofs.Detection.Membership
import RecurringPayments.Proofs.Value.Equality

/-!
Looking groups up by the id of a transaction. Where the ids tell the transactions apart, the first
group that lists an id is the only one, and it is the group of the merchant of that transaction,
wherever sorting has put it.
-/
namespace RecurringPayments

open Result

variable {α : Type} [Scalar α]

structure Value.Apart (v w : Value α) : Prop where
  left : v.same w = false
  right : w.same v = false

theorem Value.Apart.symm {v w : Value α} (h : v.Apart w) : w.Apart v := ⟨h.right, h.left⟩

/-- Every id equals itself, and no other id of the list. -/
structure HasDistinctIds (ts : List (Transaction α)) : Prop where
  self : ∀ t ∈ ts, t.id.same t.id = true
  apart : ts.Pairwise fun s t => s.id.Apart t.id

namespace HasDistinctIds

variable {ts : List (Transaction α)}

theorem of_texts {ids : List String} (texts : ts.map Transaction.id = ids.map .text)
    (distinct : ids.Nodup) :
    HasDistinctIds ts := by
  constructor
  · intro t ht
    obtain ⟨s, -, text⟩ := List.mem_map.mp (texts ▸ List.mem_map_of_mem (f := Transaction.id) ht)
    rw [← text, Value.same_text_iff]
  · have apart {s s' : String} (differs : s ≠ s') :
        (Value.text s : Value α).same (.text s') = false := by
      rw [← Bool.not_eq_true, Value.same_text_iff, Value.text.injEq]
      exact differs
    rw [← List.pairwise_map (f := Transaction.id) (R := Value.Apart), texts, List.pairwise_map]
    exact distinct.imp fun differs => ⟨apart differs, apart differs.symm⟩

variable (h : HasDistinctIds ts) {s t : Transaction α} (hs : s ∈ ts) (ht : t ∈ ts)
include h hs ht

theorem apart_of_ne (differ : s ≠ t) : s.id.Apart t.id :=
  have : Std.Symm fun s t : Transaction α => s.id.Apart t.id := ⟨fun _ _ => Value.Apart.symm⟩
  h.apart.forall hs ht differ

theorem eq_of_same (same : s.id.same t.id = true) : s = t := by
  by_contra differ
  rw [(h.apart_of_ne hs ht differ).left] at same
  cases same

end HasDistinctIds

theorem findIdx?_eq_some_iff_of_nodup {β γ : Type} {xs : List β} {p : β → Bool} {f : β → γ} {y : γ}
    (distinct : (xs.map f).Nodup) (found : ∀ x ∈ xs, p x = true ↔ f x = y) (i : Nat) :
    xs.findIdx? p = some i ↔ ∃ x, xs[i]? = some x ∧ f x = y := by
  rw [List.findIdx?_eq_some_iff_getElem]
  constructor
  · rintro ⟨inside, holds, -⟩
    exact ⟨xs[i], List.getElem?_eq_getElem inside, (found _ (List.getElem_mem _)).mp holds⟩
  · rintro ⟨x, at_i, same⟩
    obtain ⟨inside, rfl⟩ := List.getElem?_eq_some_iff.mp at_i
    refine ⟨inside, (found _ (List.getElem_mem _)).mpr same, fun j before holds => ?_⟩
    -- An earlier hit would be the same entry over again.
    have again := (found _ (List.getElem_mem _)).mp holds
    have second : i < (xs.map f).length := by rwa [List.length_map]
    have first : j < (xs.map f).length := before.trans second
    have place : (xs.map f)[j] = (xs.map f)[i] := by
      rw [List.getElem_map, List.getElem_map, again, same]
    exact before.ne (distinct.getElem_inj_iff.mp place)

namespace Detector

/-- What looking up an id in the groups of a list answers. -/
structure FindsGroups (ts : List (Transaction α)) (groups : List (RecurringGroup α)) : Prop where
  reported : ∀ t ∈ ts, ∀ i, findGroupIndex? t.id groups = some i ↔
    ∃ g, groups[i]? = some g ∧ g.merchantKey = t.key
  unreported : ∀ t ∈ ts, findGroupIndex? t.id groups = none ↔ ∀ g ∈ groups, g.merchantKey ≠ t.key
  unknown : ∀ id, (∀ t ∈ ts, t.id.same id = false) → findGroupIndex? id groups = none
  disjoint : groups.Pairwise fun g h => ∀ m ∈ g.members, ∀ n ∈ h.members, m.id.Apart n.id

section

variable {d : Detector α} {ts : List (Transaction α)} (readable : ∀ t ∈ ts, t.IsReadable)
  {groups : List (RecurringGroup α)} (detected : d.detect ts = .ok groups)

include readable detected in
theorem nodup_merchantKeys : (groups.map (·.merchantKey)).Nodup := by
  rw [detect_eq_reports (Transaction.forall_isLegible readable)] at detected
  obtain ⟨found, each, sorted⟩ := bind_eq_ok_iff.mp detected
  cases sorted
  rw [((List.mergeSort_perm found isNoLessSure).map _).nodup_iff]
  refine (sublist_of_filterMapM (k := id) each fun key g reported => ?_).nodup ?_
  · obtain ⟨-, -, described⟩ := report_eq_some_iff.mp reported
    rw [described]
    rfl
  · rw [List.map_id]
    exact FirstAppearance.nodup_eraseDups _

include detected

theorem lists_iff_exists {g : RecurringGroup α} (hg : g ∈ groups) (id : Value α) :
    (g.members.any fun m => m.id.same id) = true ↔
      ∃ t ∈ ts, t.key = g.merchantKey ∧ t.id.same id = true := by
  rw [List.any_eq_true]
  constructor
  · rintro ⟨m, hm, same⟩
    obtain ⟨t, ht, own, rfl⟩ := (mem_members_iff_exists detected hg m).mp hm
    exact ⟨t, ht, own, same⟩
  · rintro ⟨t, ht, own, same⟩
    exact ⟨.ofTransaction t, (mem_members_iff_exists detected hg _).mpr ⟨t, ht, own, rfl⟩, same⟩

variable (distinct : HasDistinctIds ts)
include distinct

theorem lists_iff {t : Transaction α} (ht : t ∈ ts) {g : RecurringGroup α} (hg : g ∈ groups) :
    (g.members.any fun m => m.id.same t.id) = true ↔ g.merchantKey = t.key := by
  rw [lists_iff_exists detected hg]
  constructor
  · rintro ⟨s, hs, own, same⟩
    rw [← own, distinct.eq_of_same hs ht same]
  · exact fun own => ⟨t, ht, own.symm, distinct.self t ht⟩

theorem apart_of_merchantKey_ne {g h : RecurringGroup α} (hg : g ∈ groups) (hh : h ∈ groups)
    (differ : g.merchantKey ≠ h.merchantKey) :
    ∀ m ∈ g.members, ∀ n ∈ h.members, m.id.Apart n.id := by
  intro m hm n hn
  obtain ⟨s, hs, own, rfl⟩ := (mem_members_iff_exists detected hg m).mp hm
  obtain ⟨t, ht, own', rfl⟩ := (mem_members_iff_exists detected hh n).mp hn
  refine distinct.apart_of_ne hs ht ?_
  rintro rfl
  exact differ (own.symm.trans own')

end

/-- Under any configuration: if the ids of readable transactions are distinct, then looking the id
of one of them up in the groups reported gives the place of the group of its merchant, and nothing
if there is no such group; an id that none of them has is not found; and no two groups share an
id. Under numeric thresholds and windows of at most 20000 days there is a report. -/
theorem detect_findsGroups [LawfulScalar α] {d : Detector α} {ts : List (Transaction α)}
    (readable : ∀ t ∈ ts, t.IsReadable) (distinct : HasDistinctIds ts) :
    (∀ groups, d.detect ts = .ok groups → FindsGroups ts groups) ∧
      ∀ h, d.HasThresholds h → (∀ w ∈ h.windows, w.high ≤ 20000) →
        ∃ groups, d.detect ts = .ok groups := by
  refine ⟨fun groups detected => ?_, fun h hd bounded => ?_⟩
  · have keys := nodup_merchantKeys readable detected
    have own := fun t ht g hg => lists_iff detected distinct (t := t) ht (g := g) hg
    refine ⟨fun t ht i => findIdx?_eq_some_iff_of_nodup keys (own t ht) i, fun t ht => ?_,
      fun id unknown => ?_, ?_⟩
    · rw [findGroupIndex?, List.findIdx?_eq_none_iff]
      refine forall₂_congr fun g hg => ?_
      rw [ne_eq, ← own t ht g hg, Bool.not_eq_true]
    · rw [findGroupIndex?, List.findIdx?_eq_none_iff]
      intro g hg
      rw [← Bool.not_eq_true, lists_iff_exists detected hg]
      rintro ⟨t, ht, -, same⟩
      rw [unknown t ht] at same
      cases same
    · rw [List.Nodup, List.pairwise_map] at keys
      exact keys.imp_of_mem fun hg hh differ =>
        apart_of_merchantKey_ne detected distinct hg hh differ
  · obtain ⟨groups, detected, -⟩ := exists_report hd bounded readable
    exact ⟨groups, detected⟩

theorem gymPayments_hasDistinctIds : HasDistinctIds gymPayments :=
  .of_texts rfl (by decide : ["a", "b", "c", "d", "e"].Nodup)

theorem detect_findsGroups_gymPayments :
    ∃ groups, standard.detect gymPayments = .ok groups ∧ FindsGroups gymPayments groups ∧
      (∃ i g, findGroupIndex? (.text "c") groups = some i ∧ groups[i]? = some g ∧
        g.merchantKey = "gym") ∧
      findGroupIndex? (.text "f") groups = none := by
  obtain ⟨finds, success⟩ := detect_findsGroups (d := standard) readable_gymPayments
    gymPayments_hasDistinctIds
  obtain ⟨groups, detected⟩ := success _ RecurringPayments.standard_hasThresholds
    (Thresholds.standard_bounded _)
  have found := finds groups detected
  obtain ⟨g, hg, key⟩ := exists_group_gymPayments detected
  obtain ⟨i, at_i⟩ := List.mem_iff_getElem?.mp hg
  have visit : paidAt "c" "GYM Inc." ⟨740023, by decide⟩ 570 (.int (-30)) ∈ gymPayments := by
    simp [gymPayments, gymPaymentsFor]
  have own : (paidAt "c" "GYM Inc." ⟨740023, by decide⟩ 570 (.int (-30))).key = "gym" := by decide
  refine ⟨groups, detected, found, ⟨i, g, ?_, at_i, key⟩, found.unknown _ ?_⟩
  · exact (found.reported _ visit i).mpr ⟨g, at_i, key.trans own.symm⟩
  · simp only [gymPayments, gymPaymentsFor, List.forall_mem_cons]
    exact ⟨rfl, rfl, rfl, rfl, rfl, by simp⟩

end Detector

end RecurringPayments
