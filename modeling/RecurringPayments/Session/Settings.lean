import RecurringPayments.Detection.Detector

/-!
A run of requests to the configuration. The first document that holds something stays in force
until a reset; whatever reads the configuration while none is in force brings in the default one.
-/
namespace RecurringPayments

inductive SettingsRequest (α : Type) where
  | load (source : ConfigSource)
  | reset
  | block (name : String)
  | detector

inductive SettingsAnswer (α : Type) where
  | done
  | value (v : Value α)
  | detector (d : Detector α)

variable {α : Type} [Scalar α]

namespace Settings

def answer (s : Settings α) : SettingsRequest α → Except Fault (SettingsAnswer α)
  | .load source => do return .value (← s.load source).document
  | .reset => .ok .done
  | .block name => do return .value (← s.get name)
  | .detector => do return .detector (← Detector.ofSettings s)

/-- What is in force after a request. A load that fails changes nothing. -/
def after (s : Settings α) : SettingsRequest α → Settings α
  | .load source =>
    match s.load source with
    | .ok loaded => loaded
    | .error _ => s
  | .reset => none
  | .block _ | .detector => s.inForce

def afterAll (s : Settings α) (requests : List (SettingsRequest α)) : Settings α :=
  requests.foldl after s

def answers (s : Settings α) : List (SettingsRequest α) → List (Except Fault (SettingsAnswer α))
  | [] => []
  | request :: requests => s.answer request :: (s.after request).answers requests

end Settings

end RecurringPayments
