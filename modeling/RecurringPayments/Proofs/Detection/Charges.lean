import RecurringPayments.Detection.Detect
import RecurringPayments.Proofs.Detection.Timeline
import RecurringPayments.Proofs.List.FirstAppearance
import RecurringPayments.Proofs.List.Paired
import RecurringPayments.Proofs.List.StableSort
import RecurringPayments.Proofs.Result

/-!
Transactions on their way to detection: what is read of each, how they are gathered by merchant,
and the timeline of a merchant, its transactions in the order in which a pattern is sought.
-/
namespace RecurringPayments

open Result

variable {α : Type}

namespace Transaction

def key [Scalar α] (t : Transaction α) : String := MerchantKey.ofValue t.merchant

def instant (t : Transaction α) : Int := t.date.instant?.getD 0

/-- Dated within the era, with an amount that has a figure. -/
structure IsReadable [Scalar α] (t : Transaction α) : Prop where
  date : t.date.InEra
  amount : ∃ x, t.amount.scalar = .ok x

theorem IsReadable.instant?_eq [Scalar α] {t : Transaction α} (h : t.IsReadable) :
    t.date.instant? = some t.instant ∧ EraInstant t.instant := by
  obtain ⟨d, i, -, instant, era, -⟩ := h.date.spec
  rw [Transaction.instant, instant]
  exact ⟨rfl, era⟩

theorem IsReadable.day_bounds [Scalar α] {t : Transaction α} (h : t.IsReadable) :
    718685 ≤ Int.fdiv t.instant microsPerDay ∧ Int.fdiv t.instant microsPerDay < 804000 := by
  obtain ⟨d, i, -, instant, -, day, low, high⟩ := h.date.spec
  rw [Transaction.instant, instant, Option.getD_some, day]
  omega

/-- Dated in any year, with an amount that has a figure. -/
structure IsLegible [Scalar α] (t : Transaction α) : Prop where
  date : t.date.instant? = some t.instant
  amount : ∃ x, t.amount.scalar = .ok x

theorem IsReadable.isLegible [Scalar α] {t : Transaction α} (h : t.IsReadable) : t.IsLegible :=
  ⟨h.instant?_eq.1, h.amount⟩

theorem forall_isLegible [Scalar α] {ts : List (Transaction α)} (h : ∀ t ∈ ts, t.IsReadable) :
    ∀ t ∈ ts, t.IsLegible := fun t ht => (h t ht).isLegible

def amountFigure [Scalar α] (t : Transaction α) : α := t.amount.scalar.toOption.getD Scalar.zero

theorem IsLegible.scalar_amount [Scalar α] {t : Transaction α} (h : t.IsLegible) :
    t.amount.scalar = .ok t.amountFigure := by
  obtain ⟨x, hx⟩ := h.amount
  rw [amountFigure, hx]
  rfl

def charge [Scalar α] (t : Transaction α) : Charge α :=
  ⟨t.key, t.date.instant?, t.amountFigure, t⟩

end Transaction

variable [Scalar α]

namespace Charge

theorem amountOf_eq {t : Transaction α} (h : t.IsLegible) :
    amountOf t.amount = .ok t.amountFigure := by
  have number := h.scalar_amount
  rw [← number]
  cases amount : t.amount with
  | text s =>
    rw [amount] at number
    cases number
  | _ => rfl

theorem momentOf_eq (layout : Option Calendar.Layout) {w : When} {i : Int}
    (h : w.instant? = some i) : momentOf layout w = .ok w.moment? := by
  cases w with
  | never => cases h
  | text s => cases h
  | day d => rfl
  | moment m => rfl

theorem assemble_map (ts : List (Transaction α)) :
    assemble ts (ts.map fun t => t.date.instant?) (ts.map Transaction.amountFigure) =
      ts.map Transaction.charge := by
  induction ts with
  | nil => rfl
  | cons t ts ih =>
    rw [List.map_cons, List.map_cons, assemble, ih, List.map_cons]
    rfl

theorem ofTransactions_eq {ts : List (Transaction α)} (h : ∀ t ∈ ts, t.IsLegible) :
    ofTransactions ts = .ok (ts.map Transaction.charge) := by
  have moments (layout : Option Calendar.Layout) :
      ts.mapM (fun t => momentOf layout t.date) = .ok (ts.map fun t => t.date.moment?) :=
    mapM_eq_map fun t ht => momentOf_eq layout (h t ht).date
  have together : Moment.shareZone ((ts.map fun t => t.date.moment?).filterMap id) = true := by
    refine Moment.shareZone_of_bare fun m hm => ?_
    obtain ⟨_, listed, rfl⟩ := List.mem_filterMap.mp hm
    obtain ⟨t, ht, own⟩ := List.mem_map.mp listed
    obtain ⟨m', own', bare, -⟩ := When.exists_moment_of_instant? (h t ht).date
    rw [own', Option.some_inj] at own
    rwa [← own]
  have instants : (ts.map fun t => t.date.moment?).map (·.map Moment.instant) =
      ts.map fun t => t.date.instant? := by
    rw [List.map_map]
    refine List.map_congr_left fun t ht => ?_
    obtain ⟨m, own, -, instant⟩ := When.exists_moment_of_instant? (h t ht).date
    rw [Function.comp_apply, own, Option.map_some, instant, (h t ht).date]
  have amounts : ts.mapM (fun t => amountOf t.amount) = .ok (ts.map Transaction.amountFigure) :=
    mapM_eq_map fun t ht => amountOf_eq (h t ht)
  rw [ofTransactions]
  simp only [moments, together, instants, amounts, ok_bind, assemble_map, pure_eq]
  rfl

theorem exists_of_ofTransactions {ts : List (Transaction α)} {charges : List (Charge α)}
    (read : ofTransactions ts = .ok charges) :
    ∃ ms xs, ts.mapM (fun t => momentOf (layoutOf (ts.map (·.date))) t.date) = .ok ms ∧
      ts.mapM (fun t => amountOf t.amount) = .ok xs ∧
      charges = assemble ts (ms.map (·.map Moment.instant)) xs := by
  obtain ⟨ms, dated, read⟩ := bind_eq_ok_iff.mp read
  split at read
  · cases read
  obtain ⟨xs, weighed, read⟩ := bind_eq_ok_iff.mp read
  cases read
  exact ⟨ms, xs, dated, weighed, rfl⟩

theorem isNoLater_charge {s t : Transaction α} (hs : s.IsLegible) (ht : t.IsLegible) :
    isNoLater s.charge t.charge = decide (s.instant ≤ t.instant) := by
  rw [isNoLater, Transaction.charge, Transaction.charge, hs.date, ht.date]

end Charge

theorem Detector.map_instant_charge {payments : List (Transaction α)}
    (legible : ∀ t ∈ payments, t.IsLegible) :
    (payments.map Transaction.charge).map (·.instant) = (payments.map (·.instant)).map some := by
  rw [List.map_map, List.map_map]
  exact List.map_congr_left fun t ht => (legible t ht).date

def ofMerchant (ts : List (Transaction α)) (key : String) : List (Transaction α) :=
  ts.filter fun t => t.key == key

def timeline (ts : List (Transaction α)) (key : String) : List (Transaction α) :=
  (ofMerchant ts key).mergeSort fun s t => decide (s.instant ≤ t.instant)

/-- What makes a list the timeline of a merchant: its transactions and no others, each as often as
the list has it, by date, and those of one instant in the order of the list. -/
structure IsTimeline (members ts : List (Transaction α)) (key : String) : Prop where
  perm : members.Perm (ofMerchant ts key)
  ascending : members.Pairwise fun s t => s.instant ≤ t.instant
  stable : ∀ i, members.filter (fun t => t.instant = i) =
    (ofMerchant ts key).filter fun t => t.instant = i

theorem timeline_isTimeline (ts : List (Transaction α)) (key : String) :
    IsTimeline (timeline ts key) ts key where
  perm := List.mergeSort_perm _ _
  ascending := StableSort.pairwise_rank fun _ _ _ _ => rfl
  stable := StableSort.filter_rank fun _ _ _ _ => rfl

theorem instants_ascending (ts : List (Transaction α)) (key : String) :
    ((timeline ts key).map (·.instant)).Pairwise (· ≤ ·) :=
  List.pairwise_map.mpr (timeline_isTimeline ts key).ascending

theorem timeline_of_ascending {ts : List (Transaction α)} {key : String}
    (ascending : (ofMerchant ts key).Pairwise fun s t => s.instant ≤ t.instant) :
    timeline ts key = ofMerchant ts key :=
  List.mergeSort_of_pairwise (ascending.imp decide_eq_true)

theorem timeline_rel {R : Transaction α → Transaction α → Prop} {ts ts' : List (Transaction α)}
    (matched : List.Forall₂ R ts ts') (keys : ∀ t t', R t t' → t'.key = t.key)
    (order : ∀ s s' t t', R s s' → R t t' → (s'.instant ≤ t'.instant ↔ s.instant ≤ t.instant))
    (key : String) : List.Forall₂ R (timeline ts key) (timeline ts' key) := by
  have own : List.Forall₂ R (ofMerchant ts key) (ofMerchant ts' key) := by
    exact List.rel_filter (fun t t' h => by simp only [keys t t' h]) matched
  exact forall₂_mergeSort own fun s t s' t' h h' =>
    (decide_eq_decide.mpr (order s t s' t' h h')).symm

theorem timeline_map {f : Transaction α → Transaction α} (keys : ∀ t, (f t).key = t.key)
    {ts : List (Transaction α)}
    (order : ∀ s ∈ ts, ∀ t ∈ ts, (f s).instant ≤ (f t).instant ↔ s.instant ≤ t.instant)
    (key : String) : timeline (ts.map f) key = (timeline ts key).map f := by
  have matched : List.Forall₂ (fun t t' => t ∈ ts ∧ f t = t') ts (ts.map f) := by
    rw [List.forall₂_map_right_iff, List.forall₂_same]
    exact fun t ht => ⟨ht, rfl⟩
  have timelines := timeline_rel matched (by rintro t _ ⟨-, rfl⟩; exact keys t)
    (by rintro s _ t _ ⟨hs, rfl⟩ ⟨ht, rfl⟩; exact order s hs t ht) key
  have images := map_eq_map_of_forall₂ (g := id) timelines fun t t' h => h.2
  rw [images, List.map_id]

theorem mem_timeline {ts : List (Transaction α)} {key : String} {t : Transaction α} :
    t ∈ timeline ts key ↔ t ∈ ts ∧ t.key = key := by
  rw [timeline, List.mem_mergeSort, ofMerchant, List.mem_filter, beq_iff_eq]

theorem length_timeline (ts : List (Transaction α)) (key : String) :
    (timeline ts key).length = (ofMerchant ts key).length :=
  List.length_mergeSort _

namespace Detector

def merchants (ts : List (Transaction α)) : List String := (ts.map Transaction.key).eraseDups

theorem mem_merchants {ts : List (Transaction α)} {key : String} :
    key ∈ merchants ts ↔ ofMerchant ts key ≠ [] := by
  rw [merchants, List.mem_eraseDups, List.mem_map, ofMerchant, ne_eq, List.filter_eq_nil_iff]
  simp

theorem merchants_rel {R : Transaction α → Transaction α → Prop} {ts ts' : List (Transaction α)}
    (matched : List.Forall₂ R ts ts') (keys : ∀ t t', R t t' → t'.key = t.key) :
    merchants ts' = merchants ts :=
  congrArg List.eraseDups (map_eq_map_of_forall₂ matched fun t t' h => (keys t t' h).symm).symm

theorem merchants_map {f : Transaction α → Transaction α} (keys : ∀ t, (f t).key = t.key)
    (ts : List (Transaction α)) : merchants (ts.map f) = merchants ts := by
  rw [merchants, merchants, List.map_map]
  exact congrArg _ (List.map_congr_left fun t _ => keys t)

end Detector

theorem gatherByMerchant_eq (ts : List (Transaction α)) :
    gatherByMerchant (ts.map Transaction.charge) =
      (ts.map Transaction.key).eraseDups.map fun key =>
        (key, (ofMerchant ts key).map Transaction.charge) := by
  have keys : (ts.map Transaction.charge).map (·.key) = ts.map Transaction.key := by
    rw [List.map_map]
    rfl
  rw [gatherByMerchant, keys]
  refine List.map_congr_left fun key _ => ?_
  rw [List.filter_map]
  rfl

theorem mergeSort_charges {ts : List (Transaction α)} (h : ∀ t ∈ ts, t.IsLegible) (key : String) :
    ((ofMerchant ts key).map Transaction.charge).mergeSort Charge.isNoLater =
      (timeline ts key).map Transaction.charge := by
  refine (List.map_mergeSort fun s hs t ht => ?_).symm
  exact (Charge.isNoLater_charge (h s (List.mem_filter.mp hs).1)
    (h t (List.mem_filter.mp ht).1)).symm

end RecurringPayments
