import TelemetryWiring.Error

/-!
Calls that change a state step by step. A problem ends a call where it arises, and what the call has
changed by then stays changed.
-/
namespace TelemetryWiring

/-- A call on a state, which comes to an answer or to a problem. -/
abbrev Call (σ α : Type) := EStateM WiringError σ α

/-- What a call came to, an answer or a problem, and the state that it left. -/
abbrev Outcome (σ α : Type) := EStateM.Result WiringError σ α

namespace Outcome

variable {σ α : Type}

/-- The state that a call left, whatever it came to. -/
def state : Outcome σ α → σ
  | .ok _ s | .error _ s => s

/-- What a call came to. -/
def answer : Outcome σ α → Except WiringError α
  | .ok a _ => .ok a
  | .error e _ => .error e

/-- An outcome for a caller that gives up at a problem, and the state with it. -/
def toExcept : Outcome σ α → Except WiringError (σ × α)
  | .ok a s => .ok (s, a)
  | .error e _ => .error e

end Outcome
end TelemetryWiring
