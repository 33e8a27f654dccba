import TelemetryWiring.Fargate.Wiring
import TelemetryWiring.Lambda.Instrumenter
import TelemetryWiring.StepFunctions.Instrumenter
import TelemetryWiring.StepFunctions.Payload

/-!
Stacks as their files describe them: the resources of an application by kind, each kind with the
settings of its instrumentation.
-/
namespace TelemetryWiring

/-- A function, owned by an account or known by its ARN. -/
structure FunctionEntry where
  name : String
  region : String
  runtime : String
  handler : String
  architecture : Architecture := .x86
  arn : Option String := none
  account : Option String := none
  environment : Dict String := .empty
  deriving DecidableEq, Repr

structure LambdaSection where
  settings : Lambda.Settings := {}
  functions : List FunctionEntry := []
  /-- The names of log groups that belong to no function and are to be forwarded. -/
  logGroups : List String := []
  deriving DecidableEq, Repr

structure ContainerEntry where
  id : String
  options : ContainerOptions
  deriving DecidableEq, Repr

structure TaskEntry where
  id : String
  task : TaskSettings := {}
  settings : Fargate.Settings := {}
  containers : List ContainerEntry := []
  deriving DecidableEq, Repr

structure FargateSection where
  /-- Shared by all tasks. -/
  settings : Fargate.Settings := {}
  tasks : List TaskEntry := []
  deriving DecidableEq, Repr

structure MachineEntry where
  name : String
  region : String
  arn : Option String := none
  account : Option String := none
  path : Option String := none
  logging : Option Logging := none
  deriving DecidableEq, Repr

/-- The payload of a task by the task's name. -/
structure TaskPayload where
  name : String
  kind : TaskKind
  payload : Payload := .empty
  deriving DecidableEq

structure StepFunctionsSection where
  settings : StepFunctions.Settings := {}
  machines : List MachineEntry := []
  payloads : List TaskPayload := []
  deriving DecidableEq

/-- The request parameters of a gateway's integration. -/
structure Integration where
  name : String
  requestParameters : Dict String := .empty
  deriving DecidableEq, Repr

structure GatewaySection where
  integrations : List Integration := []
  deriving DecidableEq, Repr

structure Stack where
  /-- Owns the resources that are declared without ARN and account. -/
  account : Option String := none
  /-- The context of the deployment. -/
  context : Dict String := .empty
  /-- Where the source comes from, if that need not be found out. -/
  git : Option GitMetadata := none
  lambda : Option LambdaSection := none
  fargate : Option FargateSection := none
  stepFunctions : Option StepFunctionsSection := none
  gateway : Option GatewaySection := none
  deriving DecidableEq

/-- Whether it has to be found out where the source comes from: functions are instrumented with
it, and the stack does not state it. -/
def Stack.needsGit (s : Stack) : Bool := s.lambda.isSome && s.git.isNone

end TelemetryWiring
