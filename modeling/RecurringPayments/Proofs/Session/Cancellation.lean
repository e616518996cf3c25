import RecurringPayments.Number.Binary64
import RecurringPayments.Proofs.Session.History

/-!
The day of a cancellation. A subscription that was promoted records one exactly while it is
cancelled, unless an update writes the record against the status: updates keep away from the status
alone.
-/
namespace RecurringPayments

open Relation Result

theorem StatusEdge.ne_cancelled {current target : String} (h : StatusEdge current target) :
    current ≠ Status.cancelled := by
  cases h <;> decide

def Change.record? {α : Type} : Change α → Option When
  | cancellationDate d => some d
  | _ => none

namespace Subscription

variable {α : Type}

/-- A day of cancellation is recorded exactly if the subscription is cancelled. -/
def RecordsCancellation (s : Subscription α) : Prop :=
  s.cancellationDate ≠ .never ↔ s.status = Status.cancelled

theorem cancellationDate_apply (c : Change α) (s : Subscription α) :
    (c.apply s).cancellationDate = c.record?.getD s.cancellationDate := by
  cases c <;> rfl

theorem cancellationDate_foldl_apply (changes : List (Change α)) (s : Subscription α) :
    (changes.foldl (fun s c => c.apply s) s).cancellationDate =
      (changes.filterMap Change.record?).getLast?.getD s.cancellationDate := by
  induction changes generalizing s with
  | nil => rfl
  | cons c changes ih =>
    rw [List.foldl_cons, ih, cancellationDate_apply, List.filterMap_cons]
    cases c.record? with
    | none => rfl
    | some d => rw [List.getLast?_cons, Option.getD_some, Option.getD_some]

theorem recordsCancellation_of_active {s : Subscription α} (active : s.status = Status.active)
    (unrecorded : s.cancellationDate = .never) : s.RecordsCancellation := by
  rw [RecordsCancellation, active, unrecorded]
  exact iff_of_false (not_not_intro rfl) (by decide)

theorem recordsCancellation_entered {t : Transition} {s : Subscription α}
    (recorded : s.RecordsCancellation) (edge : ReflGen StatusEdge s.status t.target)
    (dated : ∀ on, t = .cancel on → on ≠ .never) : (s.entered t).RecordsCancellation := by
  have kept (other : t.target ≠ Status.cancelled)
      (same : (s.entered t).cancellationDate = s.cancellationDate) :
      (s.entered t).RecordsCancellation := by
    have running : s.status ≠ Status.cancelled := by
      rcases (reflGen_iff _ _ _).mp edge with stays | edge
      · exact stays ▸ other
      · exact edge.ne_cancelled
    have unrecorded : s.cancellationDate = .never := not_not.mp fun day => running (recorded.mp day)
    exact iff_of_false (not_not_intro (same.trans unrecorded)) other
  cases t with
  | pause => exact kept (by decide) rfl
  | resume => exact kept (by decide) rfl
  | cancel on => exact iff_of_true (dated on rfl) rfl

end Subscription

variable {α : Type} [Scalar α]

theorem Subscription.recordsCancellation_of_promote {id : Value α} {g : RecurringGroup α}
    {e : Subscription α} (h : promote id g = .ok e) : e.RecordsCancellation := by
  obtain ⟨total, -, made⟩ := bind_eq_ok_iff.mp h
  cases made
  exact recordsCancellation_of_active rfl rfl

/-! ### One request -/

namespace Request

/-- A cancellation names its day, and an update of the record agrees with the status. -/
def IsFaithful : Request α → Subscription α → Prop
  | .transition _ t, _ => ∀ on, t = .cancel on → on ≠ .never
  | .update _ changes, s => ∀ d, (changes.filterMap Change.record?).getLast? = some d →
      (d ≠ .never ↔ s.status = Status.cancelled)
  | _, _ => True

omit [Scalar α] in
theorem recordsCancellation_update {changes : List (Change α)} {s : Subscription α} {id : Value α}
    (recorded : s.RecordsCancellation) (faithful : (Request.update id changes).IsFaithful s) :
    (changes.foldl (fun s c => c.apply s) s).RecordsCancellation := by
  rw [Subscription.RecordsCancellation, Subscription.status_foldl_apply,
    Subscription.cancellationDate_foldl_apply]
  cases written : (changes.filterMap Change.record?).getLast? with
  | none => exact recorded
  | some d => exact faithful d written

theorem Revises.recordsCancellation {r : Request α} {s s' : Subscription α} (h : r.Revises s s')
    (recorded : s.RecordsCancellation) (faithful : r.addresses s = true → r.IsFaithful s) :
    s'.RecordsCancellation := by
  cases about : r.addresses s with
  | false => exact h.other about ▸ recorded
  | true =>
    have edge := h.status
    obtain rfl := h.own about
    cases r with
    | transition id t =>
      exact Subscription.recordsCancellation_entered recorded edge (faithful about)
    | update id changes => exact recordsCancellation_update recorded (faithful about)
    | _ => exact recorded

end Request

namespace Session

theorem exists_promote_of_mem_added {config : Settings α} {s s' : Session α} {r : Request α}
    {answer : Answer α} (outcome : s.perform config r = .ok (s', answer))
    {kept added : List (Subscription α)} (subscriptions : s'.subscriptions = kept ++ added)
    (size : s.subscriptions.length = kept.length) (adds : r.Adds added) :
    ∀ e ∈ added, ∃ id g, Subscription.promote id g = .ok e := by
  cases r with
  | promote place id =>
    obtain ⟨g, e, made, grown⟩ := exists_promote_of_perform outcome
    obtain ⟨-, rfl⟩ := List.append_inj (subscriptions.symm.trans grown) size.symm
    intro e' he'
    rw [List.mem_singleton.mp he']
    exact ⟨id, g, made⟩
  | _ =>
    cases adds
    exact List.forall_mem_nil _

theorem IsStep.recordsCancellation {config : Settings α} {s s' : Session α} {r : Request α}
    (h : IsStep config s r s') {i : Nat}
    (recorded : ∀ e, s.subscriptions[i]? = some e → e.RecordsCancellation)
    (faithful : ∀ e, s.subscriptions[i]? = some e → r.addresses e = true → r.IsFaithful e)
    {e' : Subscription α} (there : s'.subscriptions[i]? = some e') : e'.RecordsCancellation := by
  cases h with
  | refused fault outcome same => exact recorded e' (same ▸ there)
  | accepted answer outcome kept added subscriptions revises adds =>
    rw [subscriptions] at there
    by_cases inside : i < kept.length
    · rw [List.getElem?_append_left inside] at there
      have before : i < s.subscriptions.length := revises.length_eq ▸ inside
      have at_i := List.getElem?_eq_getElem before
      have revised := revises.get before inside
      rw [List.getElem?_eq_getElem inside, Option.some_inj] at there
      rw [← there]
      exact revised.recordsCancellation (recorded _ at_i) (faithful _ at_i)
    · rw [List.getElem?_append_right (not_lt.mp inside)] at there
      obtain ⟨id, g, made⟩ :=
        exists_promote_of_mem_added outcome subscriptions revises.length_eq adds
        e' (List.mem_of_getElem? there)
      exact Subscription.recordsCancellation_of_promote made

/-! ### A run -/

def IsFaithfulAt (config : Settings α) (s : Session α) (requests : List (Request α)) (i : Nat) :
    Prop :=
  ∀ (k : Nat) (inside : k < requests.length) (e : Subscription α),
    (s.afterAll config (requests.take k)).subscriptions[i]? = some e →
      requests[k].addresses e = true → requests[k].IsFaithful e

theorem recordsCancellation_afterAll {config : Settings α} {requests : List (Request α)} {i : Nat}
    {s : Session α} (recorded : ∀ e, s.subscriptions[i]? = some e → e.RecordsCancellation)
    (faithful : s.IsFaithfulAt config requests i) :
    ∀ e, (s.afterAll config requests).subscriptions[i]? = some e → e.RecordsCancellation := by
  induction requests generalizing s with
  | nil => exact recorded
  | cons r requests ih =>
    have next : ∀ e, (s.after config r).subscriptions[i]? = some e → e.RecordsCancellation :=
      fun e there => (isStep config s r).recordsCancellation recorded
        (faithful 0 requests.length.succ_pos) there
    exact ih next fun k inside => faithful (k + 1) (Nat.succ_lt_succ inside)

/-- Along any run that starts with promoted subscriptions, a subscription has a day of cancellation
exactly if it is cancelled, as long as the requests that are about it are faithful. -/
theorem cancellationDate_along_run (config : Settings α) {s : Session α}
    (promoted : ∀ e ∈ s.subscriptions, ∃ id g, Subscription.promote id g = .ok e)
    {requests : List (Request α)} {i : Nat} (faithful : s.IsFaithfulAt config requests i)
    {e : Subscription α} (there : (s.afterAll config requests).subscriptions[i]? = some e) :
    e.cancellationDate ≠ .never ↔ e.status = Status.cancelled := by
  refine recordsCancellation_afterAll (fun e before => ?_) faithful e there
  obtain ⟨id, g, made⟩ := promoted e (List.mem_of_getElem? before)
  exact Subscription.recordsCancellation_of_promote made

def streamingGroup : RecurringGroup α where
  merchantKey := "netflix"
  category := .text "Entertainment"
  pattern := ⟨"monthly", 1, .day ⟨739344, by decide⟩, Scalar.one, none, some 5⟩
  members := [charge "tx-1" ⟨739255, by decide⟩, charge "tx-2" ⟨739286, by decide⟩,
    charge "tx-3" ⟨739314, by decide⟩]
  averageAmount := Scalar.ofInt 16
  variance := Scalar.zero
  isSubscription := true
where
  charge (id : String) (day : Date) : Member α := ⟨.text id, .day day, .int 16, .text "Netflix"⟩

def streaming : Subscription α where
  id := .text "sub-1"
  merchantName := .text "Netflix"
  amount := .real (Scalar.ofInt 16)
  pattern := streamingGroup.pattern
  category := .text "Entertainment"
  firstDetected := .day ⟨739255, by decide⟩
  lastCharged := .day ⟨739314, by decide⟩
  status := Status.active
  transactionIds := [.text "tx-1", .text "tx-2", .text "tx-3"]
  averageAmount := .real (Scalar.ofInt 16)
  totalSpent := .int 48
  occurrences := .int 3

theorem promote_streamingGroup :
    Subscription.promote (.text "sub-1") streamingGroup =
      .ok (streaming : Subscription Float) := rfl

def streamingRequests : List (Request α) :=
  [.transition (.text "sub-1") .pause, .transition (.text "sub-1") .resume,
    .update (.text "sub-1") [.category (.text "Leisure")],
    .transition (.text "sub-1") (.cancel (.day ⟨739324, by decide⟩))]

theorem cancellationDate_along_run_streamingRequests :
    ∃ e : Subscription Float,
      (afterAll Settings.none { subscriptions := [streaming] }
        streamingRequests).subscriptions[0]? =
        some e ∧
      e.status = Status.cancelled ∧ e.cancellationDate ≠ .never := by
  have faithful : ∀ r ∈ (streamingRequests : List (Request Float)), ∀ e, r.IsFaithful e := by
    simp [streamingRequests, Request.IsFaithful, Change.record?]
  have there : (afterAll Settings.none { subscriptions := [streaming] }
      streamingRequests).subscriptions[0]? = some { (streaming : Subscription Float) with
        category := .text "Leisure"
        status := Status.cancelled
        cancellationDate := .day ⟨739324, by decide⟩ } := rfl
  refine ⟨_, there, rfl, (cancellationDate_along_run Settings.none ?_ ?_ there).mpr rfl⟩
  · exact List.forall_mem_singleton.mpr ⟨_, _, promote_streamingGroup⟩
  · exact fun k inside e _ _ => faithful _ (List.getElem_mem inside) e

theorem update_of_record_streaming :
    Subscription.promote (.text "sub-1") streamingGroup = .ok (streaming : Subscription Float) ∧
    ∃ e : Subscription Float,
      (afterAll Settings.none { subscriptions := [streaming] }
        [.update (.text "sub-1") [.cancellationDate (.day ⟨739324, by decide⟩)]]).subscriptions =
          [e] ∧
      e.cancellationDate ≠ .never ∧ e.status ≠ Status.cancelled :=
  ⟨rfl, { streaming with cancellationDate := .day ⟨739324, by decide⟩ }, rfl, nofun, by decide⟩

end Session

end RecurringPayments
