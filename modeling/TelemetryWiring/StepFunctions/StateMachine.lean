import TelemetryWiring.Dict
import TelemetryWiring.LogGroup
import TelemetryWiring.Text.Affix

/-!
Definitions of state machines and of the logging of their executions.
-/
namespace TelemetryWiring

/-- Which events of an execution are logged. -/
inductive LogLevel where
  | off
  | all
  | error
  | fatal
  deriving DecidableEq, Repr

def LogLevel.name : LogLevel → String
  | .off => "OFF"
  | .all => "ALL"
  | .error => "ERROR"
  | .fatal => "FATAL"

structure LoggingConfiguration where
  level : LogLevel := .off
  includeExecutionData : Bool := false
  destination : Option LogGroup := none
  deriving DecidableEq, Repr

/-- The logging that a state machine declares. What is only known at deployment can be neither
inspected nor changed. -/
inductive Logging where
  | unresolved (token : String)
  | configured (configuration : LoggingConfiguration)
  deriving DecidableEq, Repr

structure StateMachine where
  name : String
  arn : String
  /-- Where the machine stands among the parts of its application, its name if not given. -/
  path : Option String := none
  tags : Dict String := .empty
  logging : Option Logging := none
  deriving DecidableEq, Repr

namespace StateMachine

/-- A machine of an account, its ARN derived from account and region. -/
def ofAccount (name account region : String) : StateMachine where
  name := name
  arn := "arn:aws:states:" ++ region ++ ":" ++ account ++ ":stateMachine:" ++ name

def constructPath (m : StateMachine) : String := m.path.getD m.name

/-- Adds each tag of a list in turn. -/
def addTags (m : StateMachine) (tags : List (String × String)) : StateMachine :=
  { m with tags := m.tags.insertMany tags }

/-- The log group that executions are logged to, if that is known. -/
def logGroup? (m : StateMachine) : Option LogGroup :=
  match m.logging with
  | some (.configured configuration) => configuration.destination
  | _ => none

/-- Whether the machine's logging is only known at deployment. -/
def isUnresolved (m : StateMachine) : Bool :=
  match m.logging with
  | some (.unresolved _) => true
  | _ => false

/-- The name of the log group that a machine is given: its path with dashes for slashes, and the
environment if there is one. -/
def logGroupName (m : StateMachine) (env : Option String) : String :=
  "/aws/vendedlogs/states/" ++ Text.replaceChar '/' '-' m.constructPath ++ "-Logs" ++
    (env.map ("-" ++ ·)).getD ""

end StateMachine
end TelemetryWiring
