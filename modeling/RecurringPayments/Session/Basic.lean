import RecurringPayments.Report.Basic
import RecurringPayments.Rule.Record

/-!
A session: the transactions seen so far, the tracked subscriptions, the rules in use and the
groups of the latest detection. A request that fails leaves all of them as they were.
-/
namespace RecurringPayments

structure Session (α : Type) where
  transactions : List (Transaction α) := []
  subscriptions : List (Subscription α) := []
  rules : List (Rule α) := []
  groups : List (RecurringGroup α) := []

inductive Request (α : Type) where
  | transition (id : Value α) (t : Transition)
  | note (id note : Value α)
  | update (id : Value α) (changes : List (Change α))
  | mayEnter (target : Value α)
  | addTransactions (ts : List (Transaction α))
  | setRules (records : Value α)
  | detect
  /-- Tracks the group at a place; a negative place counts from the end. -/
  | promote (place : Int) (id : Value α)
  | applyRules
  | compare (t : Transaction α)
  | find (id : Value α)
  | summarize (today : When)
  | project (today : When)

inductive Answer (α : Type) where
  | subscriptions (subs : List (Subscription α))
  | subscription (s : Subscription α)
  | verdicts (list : List Bool)
  | count (n : Nat)
  | ruleIds (ids : List String)
  | groups (groups : List (RecurringGroup α))
  | applied (outcomes : List (Outcome α))
  | merchant (key : Option String)
  | summary (s : Summary α)

variable {α : Type} [Scalar α]

/-- The places of the transactions that an action replaced. -/
def replacedPlaces (outcomes : List (Outcome α)) : List Nat :=
  (outcomes.zipIdx.filter (·.1.replaced)).map (·.2)

namespace Subscription

def canEnterValue (target : Value α) (s : Subscription α) : Except Fault Bool :=
  match target with
  | .text t => .ok (s.canEnter t)
  | v => if v.isHashable then .ok false else .error .kindMismatch

end Subscription

namespace Session

def withSubscriptions (s : Session α) (subs : List (Subscription α)) : Session α × Answer α :=
  ({ s with subscriptions := subs }, .subscriptions subs)

def groupAt? (s : Session α) (place : Int) : Option (RecurringGroup α) :=
  let index := if place < 0 then place + s.groups.length else place
  if index < 0 then none else s.groups[index.toNat]?

def promote (s : Session α) (place : Int) (id : Value α) :
    Except Fault (Session α × Answer α) :=
  match s.groupAt? place with
  | some g => do
    let sub ← Subscription.promote id g
    return ({ s with subscriptions := s.subscriptions ++ [sub] }, .subscription sub)
  | none => .error .noSuchGroup

def perform (config : Settings α) (s : Session α) :
    Request α → Except Fault (Session α × Answer α)
  | .transition id t => do
    return s.withSubscriptions (← Subscription.applyTo id (·.transition t) s.subscriptions)
  | .note id note => do
    return s.withSubscriptions
      (← Subscription.applyTo id (fun sub => .ok (sub.withNote note)) s.subscriptions)
  | .update id changes => do
    return s.withSubscriptions (← Subscription.applyTo id (·.update changes) s.subscriptions)
  | .mayEnter target => do
    return (s, .verdicts (← s.subscriptions.mapM (·.canEnterValue target)))
  | .addTransactions ts =>
    let all := s.transactions ++ ts
    .ok ({ s with transactions := all }, .count all.length)
  | .setRules records => do
    let rules ← Rule.ofRecords records
    return ({ s with rules }, .ruleIds (rules.map (·.id)))
  | .detect => do
    let groups ← (← Detector.ofSettings config).detect s.transactions
    return ({ s with groups }, .groups groups)
  | .promote place id => s.promote place id
  | .applyRules => do
    let outcomes ← Rule.applyToMany s.rules s.transactions
    return ({ s with transactions := outcomes.map (·.transaction) }, .applied outcomes)
  | .compare t => do
    let detector ← Detector.ofSettings config
    return (s, .verdicts (← s.groups.mapM (detector.matchesGroup t)))
  | .find id =>
    .ok (s, .merchant
      (((findGroupIndex? id s.groups).bind (s.groups[·]?)).map (·.merchantKey)))
  | .summarize today => do
    return (s, .summary (← (← Projector.ofSettings config).summarize s.subscriptions today))
  | .project today => do
    return (s, .summary (← (← Analyst.ofSettings config).project s.groups today))

def after (config : Settings α) (s : Session α) (r : Request α) : Session α :=
  match s.perform config r with
  | .ok (next, _) => next
  | .error _ => s

def afterAll (config : Settings α) (s : Session α) (requests : List (Request α)) : Session α :=
  requests.foldl (after config) s

def answers (config : Settings α) (s : Session α) :
    List (Request α) → List (Except Fault (Answer α))
  | [] => []
  | r :: requests =>
    (s.perform config r).map (·.2) :: (s.after config r).answers config requests

end Session

end RecurringPayments
