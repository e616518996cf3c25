import RecurringPayments.Proofs.Detection.Membership
import RecurringPayments.Proofs.Detection.Order
import RecurringPayments.Proofs.Detection.Schedule
import RecurringPayments.Proofs.Number.Whole

/-!
What the first day, the last day and the number of payments decide. From midnight to midnight the
gaps add up to the days between the first payment and the last, and this sum is not rounded; so the
mean gap, the frequency and the next date do not depend on where the payments between them lie.
-/
namespace RecurringPayments

open Result

/-! ### The sum of the gaps -/

namespace Cadence

theorem ceil_of_dvd {distance : Int} (whole : (microsPerDay : Int) ∣ distance)
    (nonneg : 0 ≤ distance) :
        (⌈(distance : ℚ) / microsPerDay⌉₊ : Int) * microsPerDay = distance := by
  obtain ⟨days, rfl⟩ := whole
  obtain ⟨n, rfl⟩ := Int.eq_ofNat_of_zero_le
    (Int.nonneg_of_mul_nonneg_right nonneg (by decide : (0 : Int) < microsPerDay))
  have perDay : (microsPerDay : ℚ) ≠ 0 := by norm_num [microsPerDay]
  have days : (((microsPerDay : Int) * (n : Int) : Int) : ℚ) / microsPerDay = n := by
    push_cast
    rw [mul_comm, mul_div_cancel_right₀ _ perDay]
  rw [days, Nat.ceil_natCast, mul_comm]

theorem sum_dayGaps {instants : List Int} (whole : ∀ i ∈ instants, (microsPerDay : Int) ∣ i)
    (ascending : instants.Pairwise (· ≤ ·)) {first last : Int}
    (starts : instants.head? = some first)
    (ends : instants.getLast? = some last) :
    ((dayGaps instants).sum : Int) * microsPerDay = last - first := by
  induction instants generalizing first with
  | nil => cases starts
  | cons a rest ih =>
    obtain rfl : a = first := Option.some.inj starts
    cases rest with
    | nil =>
      obtain rfl : a = last := Option.some.inj ends
      simp [dayGaps]
    | cons b rest =>
      rw [List.forall_mem_cons] at whole
      rw [List.pairwise_cons] at ascending
      rw [List.getLast?_cons_cons] at ends
      have tail := ih whole.2 ascending.2 rfl ends
      have step := ceil_of_dvd (dvd_sub (whole.2 b List.mem_cons_self) whole.1)
        (sub_nonneg.mpr (ascending.1 b List.mem_cons_self))
      rw [dayGaps, List.sum_cons, Nat.cast_add, add_mul, tail, step]
      ring

theorem ends_of_bounds {instants : List Int} (ascending : instants.Pairwise (· ≤ ·))
    {first last : Int}
    (listed : first ∈ instants) (listed' : last ∈ instants)
    (bounds : ∀ i ∈ instants, first ≤ i ∧ i ≤ last) :
    instants.head? = some first ∧ instants.getLast? = some last := by
  constructor
  · cases instants with
    | nil => cases listed
    | cons a rest =>
      have least : a ≤ first := (List.mem_cons.mp listed).elim (fun same => same.ge)
        ((List.pairwise_cons.mp ascending).1 first)
      rw [List.head?_cons, le_antisymm least (bounds a List.mem_cons_self).1]
  · have ends := List.getLast?_eq_some_getLast (List.ne_nil_of_mem listed')
    have most := le_of_getLast? ascending ends last listed'
    rw [ends, le_antisymm (bounds _ (List.getLast_mem _)).2 most]

end Cadence

/-! ### Payments between two days -/

/-- Payments on plain days of the era, of which the first and the last are known. -/
structure IsSpanned {α : Type} (first last : Date) (payments : List (Transaction α)) : Prop where
  plain : ∀ t ∈ payments, ∃ day : Date, t.date = .day day ∧ (1970 ≤ day.year ∧ day.year ≤ 2200) ∧
    first.days ≤ day.days ∧ day.days ≤ last.days
  starts : ∃ t ∈ payments, t.date = .day first
  ends : ∃ t ∈ payments, t.date = .day last

namespace Transaction

variable {α : Type} {t : Transaction α} {day : Date} (plain : t.date = .day day)
include plain

theorem instant?_of_plain : t.date.instant? = some t.instant := by
  rw [instant, plain]
  rfl

theorem instant_eq_midnight : t.instant = Cadence.midnight day := by
  rw [instant, plain]
  rfl

end Transaction

namespace IsSpanned

variable {α : Type} [Scalar α] {first last : Date} {ts : List (Transaction α)} {key : String}
  (spanned : IsSpanned first last (ofMerchant ts key))
include spanned

theorem dated : ∀ t ∈ ofMerchant ts key, t.date.instant? = some t.instant := by
  intro t ht
  obtain ⟨day, plain, -⟩ := spanned.plain t ht
  exact Transaction.instant?_of_plain plain

theorem instant_bounds : ∀ i ∈ (timeline ts key).map (·.instant),
    EraInstant i ∧ (microsPerDay : Int) ∣ i ∧
      Cadence.midnight first ≤ i ∧ i ≤ Cadence.midnight last := by
  rw [List.forall_mem_map]
  intro t ht
  obtain ⟨day, plain, years, after, before⟩ := spanned.plain t (List.mem_mergeSort.mp ht)
  have bounds := Date.era_bounds years
  have perDay : (microsPerDay : Int) = 86400000000 := rfl
  rw [Transaction.instant_eq_midnight plain, Cadence.midnight_eq, Cadence.midnight_eq,
    Cadence.midnight_eq, EraInstant, perDay]
  exact ⟨by omega, Int.dvd_mul_left _ _, by omega, by omega⟩

theorem instant_ends :
    ((timeline ts key).map (·.instant)).head? = some (Cadence.midnight first) ∧
      ((timeline ts key).map (·.instant)).getLast? = some (Cadence.midnight last) := by
  have listed {day : Date} (found : ∃ t ∈ ofMerchant ts key, t.date = .day day) :
      Cadence.midnight day ∈ (timeline ts key).map (·.instant) := by
    obtain ⟨t, ht, plain⟩ := found
    exact List.mem_map.mpr ⟨t, List.mem_mergeSort.mpr ht, Transaction.instant_eq_midnight plain⟩
  exact Cadence.ends_of_bounds (instants_ascending ts key) (listed spanned.starts)
    (listed spanned.ends) fun i hi => (spanned.instant_bounds i hi).2.2

theorem sum_dayGaps :
    ((Cadence.dayGaps ((timeline ts key).map (·.instant))).sum : Int) = last.days - first.days := by
  obtain ⟨starts, ends⟩ := spanned.instant_ends
  have total := Cadence.sum_dayGaps (fun i hi => (spanned.instant_bounds i hi).2.1)
    (instants_ascending ts key) starts ends
  rw [Cadence.midnight_eq, Cadence.midnight_eq, ← sub_mul] at total
  exact Int.eq_of_mul_eq_mul_right (by decide) total

end IsSpanned

/-! ### The pattern of a reported merchant -/

namespace Charge

variable {α : Type} [Scalar α]

theorem assemble_dated {R : Transaction α → Option Int → Prop} {ts : List (Transaction α)}
    {is : List (Option Int)} (dated : List.Forall₂ R ts is) (xs : List α) :
    ∀ c ∈ assemble ts is xs, R c.transaction c.instant := by
  induction dated generalizing xs with
  | nil => simp [assemble]
  | cons first _ ih =>
    cases xs with
    | nil => simp [assemble]
    | cons x xs => exact List.forall_mem_cons.mpr ⟨first, ih xs⟩

theorem instant_of_ofTransactions {ts : List (Transaction α)} {charges : List (Charge α)}
    (read : ofTransactions ts = .ok charges) :
    ∀ c ∈ charges, ∀ i, c.transaction.date.instant? = some i → c.instant = some i := by
  obtain ⟨ms, xs, dated, -, rfl⟩ := exists_of_ofTransactions read
  intro c hc i known
  obtain ⟨m, own, -, instant⟩ := When.exists_moment_of_instant? known
  have matched : List.Forall₂ (fun t i => ∃ m,
      momentOf (layoutOf (ts.map (·.date))) t.date = .ok m ∧
      m.map Moment.instant = i) ts (ms.map (·.map Moment.instant)) :=
    List.forall₂_map_right_iff.mpr ((mapM_eq_ok_iff.mp dated).imp fun t m read => ⟨m, read, rfl⟩)
  obtain ⟨m', read, dated⟩ := assemble_dated matched xs c hc
  rw [momentOf_eq _ known, own, Except.ok.injEq] at read
  rw [← dated, ← read, Option.map_some, instant]

end Charge

def Pattern.unsure {α : Type} [Scalar α] (p : Pattern α) : Pattern α :=
  { p with confidence := Scalar.zero }

namespace Detector

section

variable {α : Type} [Scalar α] {d : Detector α}

/-- The pattern of a group is that of its merchant's timeline, if that can be laid out. Nothing is
asked of the amounts, or of other merchants. -/
theorem inferPattern_timeline {ts : List (Transaction α)} {groups : List (RecurringGroup α)}
    (detected : d.detect ts = .ok groups) {g : RecurringGroup α} (hg : g ∈ groups)
    (dated : ∀ t ∈ ofMerchant ts g.merchantKey, t.date.instant? = some t.instant) :
    d.inferPattern (((timeline ts g.merchantKey).map (·.instant)).map some) =
      .ok (some g.pattern) := by
  obtain ⟨charges, read, built⟩ := exists_isBuiltFrom detected hg
  obtain ⟨transactions, keys⟩ := Charge.ofTransactions_spec read
  have own : (charges.filter (·.key == g.merchantKey)).map (·.transaction) =
      ofMerchant ts g.merchantKey := by
    rw [ofMerchant, ← transactions, List.filter_map]
    congr 1
    exact List.filter_congr fun c hc => by rw [keys c hc, Function.comp_apply]
  have instants : ∀ c ∈ charges.filter (·.key == g.merchantKey),
      c.instant = some c.transaction.instant := by
    intro c hc
    refine Charge.instant_of_ofTransactions read c (List.mem_filter.mp hc).1 _ (dated _ ?_)
    rw [← own]
    exact List.mem_map_of_mem hc
  have sorted : ((charges.filter (·.key == g.merchantKey)).mergeSort Charge.isNoLater).map
      (·.transaction) = timeline ts g.merchantKey := by
    rw [timeline, ← own]
    refine List.map_mergeSort fun b hb c hc => ?_
    rw [Charge.isNoLater, instants b hb, instants c hc]
  have known := built.pattern
  rw [List.map_congr_left fun c hc => instants c (List.mem_mergeSort.mp hc)] at known
  rw [← sorted, List.map_map, List.map_map]
  exact known

theorem inferPattern_unsure {instants instants' : List (Option Int)}
    (gaps : (Cadence.gaps instants : List α) ≠ []) (gaps' : (Cadence.gaps instants' : List α) ≠ [])
    (mean : (mean (Cadence.gaps instants) : α) = mean (Cadence.gaps instants'))
    (ends : instants.getLast?.join = instants'.getLast?.join) :
    (d.inferPattern instants).map (Option.map Pattern.unsure) =
      (d.inferPattern instants').map (Option.map Pattern.unsure) := by
  rw [inferPattern, inferPattern, if_neg (by simpa using gaps), if_neg (by simpa using gaps')]
  simp only [mean, ends]
  rw [map_bind_eq, map_bind_eq]
  refine bind_congr fun found => ?_
  cases found with
  | none => rfl
  | some frequency =>
    simp only
    split
    · split
      · split <;> rfl
      · rfl
    · rfl

end

theorem mean_gaps_eq {ts ts' : List (Transaction Float)} {key key' : String} {first last : Date}
    (spanned : IsSpanned first last (ofMerchant ts key))
    (spanned' : IsSpanned first last (ofMerchant ts' key'))
    (count : (ofMerchant ts key).length = (ofMerchant ts' key').length) :
    (mean (Cadence.gaps (((timeline ts key).map (·.instant)).map some)) : Float) =
      mean (Cadence.gaps (((timeline ts' key').map (·.instant)).map some)) := by
  have total := spanned.sum_dayGaps
  have total' := spanned'.sum_dayGaps
  have calendar : last.days < 3652059 := last.inCalendar
  rw [Cadence.gaps_eq (fun i hi => (spanned.instant_bounds i hi).1) (instants_ascending ts key),
    Cadence.gaps_eq (fun i hi => (spanned'.instant_bounds i hi).1) (instants_ascending ts' key')]
  refine mean_eq_of_sum_eq ?_ (by omega) (by omega)
  rw [Cadence.dayGaps_length, Cadence.dayGaps_length, List.length_map, List.length_map,
    length_timeline, length_timeline, count]

/-- In floating point, under whatever thresholds: what is foretold of a merchant that pays on plain
days depends on its first day, its last day and the number of its payments alone. -/
theorem pattern_eq_of_isSpanned {d : Detector Float} {ts ts' : List (Transaction Float)}
    {groups groups' : List (RecurringGroup Float)} (detected : d.detect ts = .ok groups)
    (detected' : d.detect ts' = .ok groups') {g g' : RecurringGroup Float} (hg : g ∈ groups)
    (hg' : g' ∈ groups') {first last : Date}
    (spanned : IsSpanned first last (ofMerchant ts g.merchantKey))
    (spanned' : IsSpanned first last (ofMerchant ts' g'.merchantKey))
    (count : (ofMerchant ts g.merchantKey).length = (ofMerchant ts' g'.merchantKey).length) :
    g.pattern.frequency = g'.pattern.frequency ∧ g.pattern.nextDate = g'.pattern.nextDate ∧
      g.pattern.dayOfWeek = g'.pattern.dayOfWeek ∧
        g.pattern.dayOfMonth = g'.pattern.dayOfMonth := by
  have found := inferPattern_timeline detected hg spanned.dated
  have found' := inferPattern_timeline detected' hg' spanned'.dated
  have same := inferPattern_unsure (d := d) (of_inferPattern found).1 (of_inferPattern found').1
    (mean_gaps_eq spanned spanned' count) (by
      rw [Cadence.getLast?_map_some, Cadence.getLast?_map_some, spanned.instant_ends.2,
        spanned'.instant_ends.2])
  rw [found, found'] at same
  obtain ⟨frequency, -, nextDate, -, dayOfWeek, dayOfMonth⟩ :=
    Pattern.mk.inj (Option.some.inj (Except.ok.inj same))
  exact ⟨frequency, nextDate, dayOfWeek, dayOfMonth⟩

def unevenPayments : List (Transaction Float) :=
  monthlyPayments.set 2 (payment "Netflix" ⟨738190, by decide⟩ 16)

theorem readable_unevenPayments : ∀ t ∈ unevenPayments, t.IsReadable := by
  intro t ht
  rcases List.mem_or_eq_of_mem_set ht with kept | rfl
  · exact readable_monthlyPayments t kept
  · exact payment_isReadable (by decide) _ rfl

theorem exists_group_unevenPayments {groups : List (RecurringGroup Float)}
    (detected : standard.detect unevenPayments = .ok groups) :
    ∃ g ∈ groups, g.merchantKey = "netflix" :=
  exists_group_of_verdict readable_unevenPayments detected (by decide +kernel)
    (timeline_of_ascending (by decide +kernel)) (by decide +kernel)

theorem isSpanned_monthlyPayments : IsSpanned ⟨738156, by decide⟩ ⟨738216, by decide⟩
    (ofMerchant monthlyPayments "netflix") := by
  have own : ofMerchant monthlyPayments "netflix" = [payment "netflix" ⟨738156, by decide⟩ 16,
      payment "Netflix" ⟨738186, by decide⟩ 16,
      payment "NETFLIX Inc." ⟨738216, by decide⟩ 16] := rfl
  rw [own]
  refine ⟨?_, ⟨_, .head _, rfl⟩, ⟨_, .tail _ (.tail _ (.head _)), rfl⟩⟩
  simp only [List.forall_mem_cons]
  exact ⟨⟨_, rfl, by decide⟩, ⟨_, rfl, by decide⟩, ⟨_, rfl, by decide⟩, by simp⟩

theorem isSpanned_unevenPayments : IsSpanned ⟨738156, by decide⟩ ⟨738216, by decide⟩
    (ofMerchant unevenPayments "netflix") := by
  have own : ofMerchant unevenPayments "netflix" = [payment "netflix" ⟨738156, by decide⟩ 16,
      payment "Netflix" ⟨738190, by decide⟩ 16,
      payment "NETFLIX Inc." ⟨738216, by decide⟩ 16] := rfl
  rw [own]
  refine ⟨?_, ⟨_, .head _, rfl⟩, ⟨_, .tail _ (.tail _ (.head _)), rfl⟩⟩
  simp only [List.forall_mem_cons]
  exact ⟨⟨_, rfl, by decide⟩, ⟨_, rfl, by decide⟩, ⟨_, rfl, by decide⟩, by simp⟩

theorem pattern_eq_of_isSpanned_unevenPayments :
    ∃ groups groups', (standard : Detector Float).detect monthlyPayments = .ok groups ∧
      (standard : Detector Float).detect unevenPayments = .ok groups' ∧
      ∃ g ∈ groups, ∃ g' ∈ groups', g.merchantKey = "netflix" ∧ g'.merchantKey = "netflix" ∧
        g.pattern.frequency = g'.pattern.frequency ∧ g.pattern.nextDate = g'.pattern.nextDate ∧
        g.pattern.dayOfWeek = g'.pattern.dayOfWeek ∧
        g.pattern.dayOfMonth = g'.pattern.dayOfMonth := by
  obtain ⟨c, hd⟩ := floatStandard_hasThresholds
  obtain ⟨groups, detected, -⟩ :=
    exists_report hd (Thresholds.standard_bounded _) readable_monthlyPayments
  obtain ⟨groups', detected', -⟩ :=
    exists_report hd (Thresholds.standard_bounded _) readable_unevenPayments
  obtain ⟨g, hg, key⟩ := exists_group_monthlyPayments detected
  obtain ⟨g', hg', key'⟩ := exists_group_unevenPayments detected'
  exact ⟨groups, groups', detected, detected', g, hg, g', hg', key, key',
    pattern_eq_of_isSpanned detected detected' hg hg' (key ▸ isSpanned_monthlyPayments)
      (key' ▸ isSpanned_unevenPayments) (by rw [key, key']; rfl)⟩

end Detector

end RecurringPayments
