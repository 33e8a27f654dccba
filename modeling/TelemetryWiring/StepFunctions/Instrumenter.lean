import TelemetryWiring.Call
import TelemetryWiring.Construct
import TelemetryWiring.StepFunctions.Settings
import TelemetryWiring.StepFunctions.StateMachine
import TelemetryWiring.Tags

/-!
Instrumentation of state machines: tags, full logging of executions, and forwarding of the log.
-/
namespace TelemetryWiring.StepFunctions

structure Instrumenter where
  config : Config
  /-- The machines instrumented so far, in the order in which they first came. -/
  machineArns : List String := []
  deriving DecidableEq, Repr

namespace Instrumenter

def ofSettings (settings : Settings) (options : ValidationOptions) :
    Except WiringError Instrumenter := do
  let resolved ← settings.resolve {} options
  return { config := resolved.value }

/-- The tags that a machine receives, in the order in which they are written: the service's
identity, the configured tags that have a value, and the marks of tracing and of this program. -/
def machineTags (c : Config) : List (String × String) :=
  c.identity.tags ++ (Tags.parse (c.tags.getD "")).valued ++
    [("DD_TRACE_ENABLED", "true"), Construct.tag]

/-- The log group that a machine logs to already, or the one that it is given. -/
def destination (c : Config) (m : StateMachine) : LogGroup :=
  m.logGroup?.getD { name := m.logGroupName c.identity.env }

/-- The machine with its tags and with full logging, its log forwarded if there is a forwarder. -/
def instrument (c : Config) (m : StateMachine) : StateMachine :=
  let group := destination c m
  let forwarded :=
    match c.forwarderArn with
    | some forwarder => group.subscribe m.arn forwarder false
    | none => group
  { m.addTags (machineTags c) with
    logging := some (.configured
      { level := .all, includeExecutionData := true, destination := some forwarded }) }

/-- Refuses a machine with logging that is only known at deployment. -/
def checkLogging (m : StateMachine) : Except WiringError Unit :=
  if m.isUnresolved then .error (.config (.loggingUnresolved m.name)) else .ok ()

/-- Instruments the machine at a place of a list, and records it unless it is recorded already. -/
def visit (k : Nat) : Call (Instrumenter × List StateMachine) Unit := do
  let (i, machines) ← get
  if let some m := machines[k]? then
    let m := instrument i.config m
    let arns := if i.machineArns.contains m.arn then i.machineArns else i.machineArns ++ [m.arn]
    set ({ i with machineArns := arns }, machines.set k m)

/-- Instruments machines where they stand, none of which may have logging that is only known at
deployment. -/
def add (i : Instrumenter) (machines : List StateMachine) :
    Outcome (Instrumenter × List StateMachine) Unit :=
  EStateM.run (do
    let (_, machines) ← get
    machines.forM fun m => ofExcept (checkLogging m)
    (List.range machines.length).forM visit) (i, machines)

end Instrumenter
end TelemetryWiring.StepFunctions
