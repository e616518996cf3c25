import RecurringPayments.Session.Basic
import RecurringPayments.Proofs.Result
import RecurringPayments.Proofs.Value.Equality

/-!
Changes of status. There are three, and a change asked of all entries with an id is made of all of
them or of none: the first entry that does not allow it decides.
-/
namespace RecurringPayments

open Result

inductive StatusEdge : String → String → Prop
  | pause : StatusEdge Status.active Status.paused
  | resume : StatusEdge Status.paused Status.active
  | cancel : StatusEdge Status.active Status.cancelled

theorem mayEnter_iff {target current : String} :
    mayEnter target current = true ↔ StatusEdge current target := by
  constructor
  · intro h
    rw [mayEnter] at h
    split_ifs at h with paused active cancelled
    all_goals simp only [beq_iff_eq] at *
    · subst paused h
      exact .pause
    · subst active h
      exact .resume
    · subst cancelled h
      exact .cancel
  · rintro (_ | _ | _) <;> rfl

def Transition.cancelledOn? : Transition → Option When
  | cancel on => some on
  | pause | resume => none

variable {α : Type} [Scalar α]

namespace Subscription

/-- A subscription after a change of status. Of its other fields only the day of a cancellation may
be new. -/
def entered (t : Transition) (s : Subscription α) : Subscription α :=
  { s with
    status := t.target
    cancellationDate := t.cancelledOn?.getD s.cancellationDate }

theorem transition_eq (t : Transition) (s : Subscription α) :
    s.transition t =
      if s.canEnter t.target then .ok (s.entered t)
      else .error (.transition s.id.plain s.status t.target) := by
  cases t <;> rfl

def refuses (id : Value α) (t : Transition) (s : Subscription α) : Bool :=
  s.id.same id && !s.canEnter t.target

theorem find?_refuses_eq_none_iff {id : Value α} {t : Transition} {subs : List (Subscription α)} :
    subs.find? (refuses id t) = none ↔
      ∀ s ∈ subs, s.id.same id = true → s.canEnter t.target = true := by
  simp [List.find?_eq_none, refuses]

theorem applyTo_transition_eq (id : Value α) (t : Transition) (subs : List (Subscription α)) :
    applyTo id (·.transition t) subs =
      match subs.find? (refuses id t) with
      | some s => .error (.transition s.id.plain s.status t.target)
      | none => .ok (subs.map fun s => if s.id.same id then s.entered t else s) := by
  induction subs with
  | nil => rfl
  | cons s rest ih =>
    rw [applyTo] at ih ⊢
    rw [List.mapM_cons, ih, List.find?_cons, refuses, transition_eq]
    cases same : s.id.same id with
    | false =>
      simp only [Bool.false_and, Bool.false_eq_true, if_false, ok_bind, List.map_cons, same]
      cases rest.find? (refuses id t) <;> rfl
    | true =>
      cases allowed : s.canEnter t.target with
      | false => rfl
      | true =>
        simp only [Bool.not_true, Bool.and_false, if_true, ok_bind, List.map_cons, same]
        cases rest.find? (refuses id t) <;> rfl

theorem applyTo_transition_eq_ok_iff {id : Value α} {t : Transition}
    {subs subs' : List (Subscription α)} :
    applyTo id (·.transition t) subs = .ok subs' ↔
      (∀ s ∈ subs, s.id.same id = true → s.canEnter t.target = true) ∧
        subs.map (fun s => if s.id.same id then s.entered t else s) = subs' := by
  rw [applyTo_transition_eq, ← find?_refuses_eq_none_iff]
  cases subs.find? (refuses id t) <;> simp

end Subscription

namespace Session

open Subscription

/-- A change of status asked of all entries with an id is made exactly when each of them allows it.
Otherwise the fault names the first that does not, and the session stays as it was. -/
theorem transition_all_or_none (config : Settings α) (session : Session α) (id : Value α)
    (t : Transition) :
    ((∃ subs, applyTo id (·.transition t) session.subscriptions = .ok subs) ↔
      ∀ s ∈ session.subscriptions, s.id.same id = true → s.canEnter t.target = true) ∧
    (∀ subs, applyTo id (·.transition t) session.subscriptions = .ok subs →
      subs = session.subscriptions.map (fun s => if s.id.same id then s.entered t else s) ∧
      session.after config (.transition id t) = { session with subscriptions := subs }) ∧
    (∀ fault, applyTo id (·.transition t) session.subscriptions = .error fault →
      (∃ s, session.subscriptions.find? (refuses id t) = some s ∧
        fault = .transition s.id.plain s.status t.target ∧
        (∀ name, id = .text name → s.id.plain = name)) ∧
      session.after config (.transition id t) = session) := by
  have outcome := applyTo_transition_eq id t session.subscriptions
  have fails {fault : Fault}
      (h : applyTo id (·.transition t) session.subscriptions = .error fault) :
      session.after config (.transition id t) = session := by
    rw [after, perform, h]
    rfl
  have succeeds {subs : List (Subscription α)}
      (h : applyTo id (·.transition t) session.subscriptions = .ok subs) :
      session.after config (.transition id t) = { session with subscriptions := subs } := by
    rw [after, perform, h]
    rfl
  rw [← find?_refuses_eq_none_iff]
  cases first : session.subscriptions.find? (refuses id t) with
  | none =>
    simp only [first] at outcome
    refine ⟨by simp [outcome], ?_, by simp [outcome]⟩
    intro subs h
    refine ⟨?_, succeeds h⟩
    rw [outcome] at h
    exact (Except.ok.inj h).symm
  | some s =>
    simp only [first] at outcome
    refine ⟨by simp [outcome], by simp [outcome], ?_⟩
    intro fault h
    refine ⟨⟨s, rfl, ?_, ?_⟩, fails h⟩
    · rw [outcome] at h
      exact (Except.error.inj h).symm
    · rintro name rfl
      have refused := List.find?_some first
      rw [refuses, Bool.and_eq_true, Value.same_text_iff] at refused
      rw [refused.1]
      rfl

end Session

end RecurringPayments
