import TelemetryWiring.Error
import TelemetryWiring.Json.Value

/-!
The trace context in the payload of a task. It is a set of references that are replaced when the
task runs, so that what the task calls can join its trace to the caller's. The context stands under
a reserved key, and no payload that uses the key, plain or as a reference, is accepted.
-/
namespace TelemetryWiring

/-- The payload of a task. -/
abbrev Payload := Dict Json

/-- What kind of task a payload is handed to. -/
inductive TaskKind where
  /-- A call of a Lambda function. -/
  | lambda
  /-- The execution of another state machine. -/
  | execution
  deriving DecidableEq, Repr

def TaskKind.name : TaskKind → String
  | .lambda => "lambda"
  | .execution => "execution"

/-- The references that a task of a kind passes on. -/
def TaskKind.traceContext : TaskKind → Json
  | .lambda =>
    .object
      [("Execution.$", .str "$$.Execution"),
       ("State.$", .str "$$.State"),
       ("StateMachine.$", .str "$$.StateMachine")]
  | .execution => .object [("CONTEXT.$", .str "$$['Execution', 'State', 'StateMachine']")]

namespace Payload

/-- The key of the trace context. -/
def contextKey : String := "_datadog"

/-- The key of the trace context as a reference. -/
def contextReferenceKey : String := contextKey ++ ".$"

/-- Writes a context under the reserved key of a payload that does not use it. -/
def inject (p : Payload) (context : Json) : Except WiringError Payload :=
  if p.contains contextKey then .error (.reservedKey contextKey)
  else if p.contains contextReferenceKey then .error (.reservedKey contextReferenceKey)
  else .ok (p.insert contextKey context)

/-- The payload with the trace context of a task. -/
def withTraceContext (p : Payload) (kind : TaskKind) : Except WiringError Payload :=
  p.inject kind.traceContext

/-- The payload without the trace context. -/
def withoutTraceContext (p : Payload) : Payload := p.erase contextKey

end Payload
end TelemetryWiring
