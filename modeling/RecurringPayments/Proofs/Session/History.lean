import RecurringPayments.Proofs.Subscription.Transition

/-!
The tracked subscriptions along a session. Whatever is requested, entries keep their places, only a
promotion adds one, and a status changes by an edge between statuses if at all. So a status without
an edge from it is final.
-/
namespace RecurringPayments

open Relation Result

/-! ### One entry -/

namespace Subscription

section

variable {α : Type}

@[simp] theorem status_apply (c : Change α) (s : Subscription α) :
    (c.apply s).status = s.status := by
  cases c <;> rfl

@[simp] theorem status_foldl_apply (changes : List (Change α)) (s : Subscription α) :
    (changes.foldl (fun s c => c.apply s) s).status = s.status := by
  induction changes generalizing s with
  | nil => rfl
  | cons c changes ih => rw [List.foldl_cons, ih, status_apply]

theorem eq_of_update {changes : List (Change α)} {s s' : Subscription α}
    (h : s.update changes = .ok s') : s' = changes.foldl (fun s c => c.apply s) s := by
  rw [update] at h
  split_ifs at h
  exact (Except.ok.inj h).symm

end

theorem of_transition {α : Type} [Scalar α] {t : Transition} {s s' : Subscription α}
    (h : s.transition t = .ok s') : s' = s.entered t ∧ StatusEdge s.status s'.status := by
  rw [transition_eq] at h
  split_ifs at h with allowed
  obtain rfl := Except.ok.inj h
  exact ⟨rfl, mayEnter_iff.mp allowed⟩

end Subscription

variable {α : Type} [Scalar α]

namespace Request

def addresses : Request α → Subscription α → Bool
  | .transition id _, s | .note id _, s | .update id _, s => s.id.same id
  | _, _ => false

def revise : Request α → Subscription α → Subscription α
  | .transition _ t, s => s.entered t
  | .note _ text, s => s.withNote text
  | .update _ changes, s => changes.foldl (fun s c => c.apply s) s
  | _, s => s

/-- An entry before and after a request that succeeds. -/
structure Revises (r : Request α) (s s' : Subscription α) : Prop where
  own : r.addresses s = true → s' = r.revise s
  other : r.addresses s = false → s' = s
  status : ReflGen StatusEdge s.status s'.status

def Adds : Request α → List (Subscription α) → Prop
  | .promote _ _, added => ∃ s, added = [s] ∧ s.status = Status.active
  | _, added => added = []

end Request

/-! ### One request -/

namespace Session

/-- A request as the tracked subscriptions see it: refused, it changes nothing at all. -/
inductive IsStep (config : Settings α) (s : Session α) (r : Request α) (s' : Session α) : Prop
  | refused (fault : Fault) (outcome : s.perform config r = .error fault) (same : s' = s)
  | accepted (answer : Answer α) (outcome : s.perform config r = .ok (s', answer))
      (kept added : List (Subscription α)) (subscriptions : s'.subscriptions = kept ++ added)
      (revises : List.Forall₂ r.Revises s.subscriptions kept) (adds : r.Adds added)

theorem revises_self {r : Request α} (about : ∀ e, r.addresses e = false)
    (subs : List (Subscription α)) : List.Forall₂ r.Revises subs subs :=
  List.forall₂_same.mpr fun _ _ => ⟨fun own => by simp [about] at own, fun _ => rfl, .refl⟩

section

variable {config : Settings α} {s s' : Session α} {r : Request α} {answer : Answer α}
  (outcome : s.perform config r = .ok (s', answer))
include outcome

open Subscription in
theorem isStep_of_applyTo {id : Value α} {step : Subscription α → Except Fault (Subscription α)}
    (form : s.perform config r = do return s.withSubscriptions (← applyTo id step s.subscriptions))
    (about : ∀ e, r.addresses e = e.id.same id) (adds : r.Adds [])
    (own : ∀ e e', step e = .ok e' → e' = r.revise e ∧ ReflGen StatusEdge e.status e'.status) :
    IsStep config s r s' := by
  obtain ⟨subs, done, same⟩ := bind_eq_ok_iff.mp (form ▸ outcome)
  cases same
  refine .accepted _ outcome subs [] (List.append_nil _).symm ?_ adds
  refine (mapM_eq_ok_iff.mp done).imp fun e e' done => ?_
  cases same : e.id.same id with
  | true =>
    rw [if_pos same] at done
    obtain ⟨revision, edge⟩ := own e e' done
    exact ⟨fun _ => revision, fun other => by simp [about, same] at other, edge⟩
  | false =>
    rw [same, if_neg Bool.false_ne_true] at done
    obtain rfl := Except.ok.inj done
    exact ⟨fun own => by simp [about, same] at own, fun _ => rfl, .refl⟩

theorem isStep_of_same (same : s'.subscriptions = s.subscriptions)
    (about : ∀ e, r.addresses e = false) (adds : r.Adds []) : IsStep config s r s' :=
  .accepted answer outcome s.subscriptions [] (by rw [same, List.append_nil]) (revises_self about _)
    adds

end

theorem status_of_promote {id : Value α} {g : RecurringGroup α} {e : Subscription α}
    (h : Subscription.promote id g = .ok e) : e.status = Status.active := by
  obtain ⟨total, -, made⟩ := bind_eq_ok_iff.mp h
  cases made
  rfl

theorem exists_promote_of_perform {config : Settings α} {s s' : Session α} {place : Int}
    {id : Value α} {answer : Answer α}
    (outcome : s.perform config (.promote place id) = .ok (s', answer)) :
    ∃ g e, Subscription.promote id g = .ok e ∧ s'.subscriptions = s.subscriptions ++ [e] := by
  have promoted : s.promote place id = .ok (s', answer) := outcome
  rw [promote] at promoted
  split at promoted
  · rename_i g _
    obtain ⟨e, made, same⟩ := bind_eq_ok_iff.mp promoted
    cases same
    exact ⟨g, e, made, rfl⟩
  · cases promoted

theorem isStep_promote {config : Settings α} {s s' : Session α} {place : Int} {id : Value α}
    {answer : Answer α} (outcome : s.perform config (.promote place id) = .ok (s', answer)) :
    IsStep config s (.promote place id) s' := by
  obtain ⟨g, e, made, grown⟩ := exists_promote_of_perform outcome
  exact .accepted _ outcome s.subscriptions [e] grown (revises_self (fun _ => rfl) _)
    ⟨e, rfl, status_of_promote made⟩

theorem isStep (config : Settings α) (s : Session α) (r : Request α) :
    IsStep config s r (s.after config r) := by
  cases outcome : s.perform config r with
  | error fault => exact .refused fault outcome (by rw [after, outcome])
  | ok result =>
    obtain ⟨next, answer⟩ := result
    have arrived : s.after config r = next := by rw [after, outcome]
    rw [arrived]
    cases r with
    | transition id t =>
      refine isStep_of_applyTo outcome rfl (fun _ => rfl) rfl fun e e' h => ?_
      obtain ⟨revision, edge⟩ := Subscription.of_transition h
      exact ⟨revision, .single edge⟩
    | note id text =>
      refine isStep_of_applyTo outcome rfl (fun _ => rfl) rfl fun e e' h => ?_
      cases h
      exact ⟨rfl, .refl⟩
    | update id changes =>
      refine isStep_of_applyTo outcome rfl (fun _ => rfl) rfl fun e e' h => ?_
      obtain rfl := Subscription.eq_of_update h
      refine ⟨rfl, ?_⟩
      rw [Subscription.status_foldl_apply]
    | promote place id => exact isStep_promote outcome
    | addTransactions ts =>
      cases outcome
      exact isStep_of_same rfl rfl (fun _ => rfl) rfl
    | find id =>
      cases outcome
      exact isStep_of_same rfl rfl (fun _ => rfl) rfl
    | mayEnter target =>
      obtain ⟨verdicts, -, same⟩ := bind_eq_ok_iff.mp outcome
      cases same
      exact isStep_of_same outcome rfl (fun _ => rfl) rfl
    | setRules records =>
      obtain ⟨rules, -, same⟩ := bind_eq_ok_iff.mp outcome
      cases same
      exact isStep_of_same outcome rfl (fun _ => rfl) rfl
    | applyRules =>
      obtain ⟨outcomes, -, same⟩ := bind_eq_ok_iff.mp outcome
      cases same
      exact isStep_of_same outcome rfl (fun _ => rfl) rfl
    | detect =>
      obtain ⟨detector, -, found⟩ := bind_eq_ok_iff.mp outcome
      obtain ⟨groups, -, same⟩ := bind_eq_ok_iff.mp found
      cases same
      exact isStep_of_same outcome rfl (fun _ => rfl) rfl
    | compare t =>
      obtain ⟨detector, -, compared⟩ := bind_eq_ok_iff.mp outcome
      obtain ⟨verdicts, -, same⟩ := bind_eq_ok_iff.mp compared
      cases same
      exact isStep_of_same outcome rfl (fun _ => rfl) rfl
    | summarize today =>
      obtain ⟨projector, -, summed⟩ := bind_eq_ok_iff.mp outcome
      obtain ⟨summary, -, same⟩ := bind_eq_ok_iff.mp summed
      cases same
      exact isStep_of_same outcome rfl (fun _ => rfl) rfl
    | project today =>
      obtain ⟨analyst, -, projected⟩ := bind_eq_ok_iff.mp outcome
      obtain ⟨summary, -, same⟩ := bind_eq_ok_iff.mp projected
      cases same
      exact isStep_of_same outcome rfl (fun _ => rfl) rfl

theorem IsStep.getElem? {config : Settings α} {s s' : Session α} {r : Request α}
    (h : IsStep config s r s') {i : Nat} {e : Subscription α}
    (at_i : s.subscriptions[i]? = some e) :
    ∃ e', s'.subscriptions[i]? = some e' ∧ ReflGen StatusEdge e.status e'.status := by
  cases h with
  | refused fault outcome same => exact ⟨e, by rw [same, at_i], .refl⟩
  | accepted answer outcome kept added subscriptions revises adds =>
    obtain ⟨inside, rfl⟩ := List.getElem?_eq_some_iff.mp at_i
    have kept_inside : i < kept.length := revises.length_eq ▸ inside
    refine ⟨kept[i], ?_, (revises.get inside kept_inside).status⟩
    rw [subscriptions, List.getElem?_append_left kept_inside, List.getElem?_eq_getElem]

/-! ### A run -/

def states (config : Settings α) (s : Session α) : List (Request α) → List (Session α)
  | [] => [s]
  | r :: requests => s :: (s.after config r).states config requests

/-- The statuses that a place of the list of subscriptions shows, one state after the other. -/
def statusesAt (i : Nat) (states : List (Session α)) : List String :=
  states.filterMap fun s => s.subscriptions[i]?.map (·.status)

theorem head?_statusesAt_states (config : Settings α) (s : Session α) (requests : List (Request α))
    {i : Nat} {e : Subscription α} (at_i : s.subscriptions[i]? = some e) :
    (statusesAt i (s.states config requests)).head? = some e.status := by
  cases requests <;> simp [states, statusesAt, at_i]

theorem isChain_statusesAt (config : Settings α) (s : Session α) (requests : List (Request α))
    (i : Nat) : (statusesAt i (s.states config requests)).IsChain (ReflGen StatusEdge) := by
  induction requests generalizing s with
  | nil =>
    rw [states, statusesAt, List.filterMap_cons]
    cases s.subscriptions[i]? with
    | none => exact .nil
    | some e => exact .singleton _
  | cons r requests ih =>
    rw [states, statusesAt, List.filterMap_cons]
    cases at_i : s.subscriptions[i]? with
    | none => exact ih _
    | some e =>
      obtain ⟨e', next, edge⟩ := (isStep config s r).getElem? at_i
      refine List.isChain_cons.mpr ⟨fun status first => ?_, ih _⟩
      have shown := head?_statusesAt_states config (s.after config r) requests next
      obtain rfl : e'.status = status := Option.some.inj (shown.symm.trans first)
      exact edge

theorem afterAll_getElem? (config : Settings α) (s : Session α) (requests : List (Request α))
    {i : Nat} {e : Subscription α} (at_i : s.subscriptions[i]? = some e) :
    ∃ e', (s.afterAll config requests).subscriptions[i]? = some e' ∧
      ReflTransGen StatusEdge e.status e'.status := by
  induction requests generalizing s e with
  | nil => exact ⟨e, at_i, .refl⟩
  | cons r requests ih =>
    obtain ⟨e₁, next, edge⟩ := (isStep config s r).getElem? at_i
    obtain ⟨e', last, path⟩ := ih (s.after config r) next
    exact ⟨e', last, edge.to_reflTransGen.trans path⟩

theorem status_final {status later : String} (path : ReflTransGen StatusEdge status later)
    (notActive : status ≠ Status.active) (notPaused : status ≠ Status.paused) : later = status := by
  cases path.cases_head with
  | inl same => exact same.symm
  | inr first =>
    obtain ⟨_, edge, -⟩ := first
    cases edge with
    | pause => exact absurd rfl notActive
    | resume => exact absurd rfl notPaused
    | cancel => exact absurd rfl notActive

/-- Along any run of requests, refused ones among them: each request is a step from the session it
meets, the statuses that a place of the list shows form a chain of edges, and an entry is there for
good, with its status if that is neither active nor paused. -/
theorem statuses_along_run (config : Settings α) (s : Session α) (requests : List (Request α)) :
    (∀ (k : Nat) (inside : k < requests.length),
      IsStep config (s.afterAll config (requests.take k)) requests[k]
        (s.afterAll config (requests.take (k + 1)))) ∧
    (∀ i, (statusesAt i (s.states config requests)).IsChain (ReflGen StatusEdge)) ∧
    ∀ (i : Nat) (e : Subscription α), s.subscriptions[i]? = some e →
      ∃ e', (s.afterAll config requests).subscriptions[i]? = some e' ∧
        ReflTransGen StatusEdge e.status e'.status ∧
        (e.status ≠ Status.active → e.status ≠ Status.paused → e'.status = e.status) := by
  refine ⟨fun k inside => ?_, isChain_statusesAt config s requests, fun i e at_i => ?_⟩
  · rw [List.take_succ_eq_append_getElem inside, afterAll, afterAll, List.foldl_append]
    exact isStep config _ requests[k]
  · obtain ⟨e', last, path⟩ := afterAll_getElem? config s requests at_i
    exact ⟨e', last, path, status_final path⟩

end Session

end RecurringPayments
