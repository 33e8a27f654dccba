import TelemetryWiring.Gateway
import TelemetryWiring.Stack.Description

/-!
Synthesis of a stack into instrumented definitions. The kinds of resources are taken in a fixed
order, and the first problem ends the synthesis.
-/
namespace TelemetryWiring

/-- What was being done when a problem arose. -/
inductive SynthesisStage where
  | lambdaSettings
  | lambdaFunctions
  | logGroups
  | task (id : String)
  | container (id owner : String)
  | stepFunctionsSettings
  | stateMachines
  | payload (owner : String)
  deriving DecidableEq, Repr

def SynthesisStage.message : SynthesisStage → String
  | .lambdaSettings => "invalid Lambda configuration"
  | .lambdaFunctions => "failed to instrument Lambda functions"
  | .logGroups => "failed to forward non Lambda log groups"
  | .task id => "invalid Datadog configuration for " ++ id
  | .container id owner => "failed to add container " ++ id ++ " to " ++ owner
  | .stepFunctionsSettings => "invalid Step Functions configuration"
  | .stateMachines => "failed to instrument state machines"
  | .payload owner => "failed to build payload for task " ++ owner

inductive SynthesisError where
  | wiring (stage : SynthesisStage) (cause : WiringError)
  /-- The ARN of a resource lacks the account that owns it. -/
  | arnWithoutAccount (name arn : String)
  /-- Nothing tells which account owns a resource. -/
  | unownedResource (name : String)
  deriving DecidableEq, Repr

def SynthesisError.message : SynthesisError → String
  | .wiring stage cause => stage.message ++ ": " ++ cause.message
  | .arnWithoutAccount name arn => "`arn` of " ++ name ++ " has no account: " ++ arn
  | .unownedResource name =>
    name ++ " needs an `arn` or an `account`, set on the resource or the stack"

/-- The instrumented definitions of a stack, and the findings as texts. -/
structure Synthesis where
  lambdaFunctions : List LambdaFunction := []
  logGroups : List LogGroup := []
  taskDefinitions : List Task := []
  stateMachines : List StateMachine := []
  taskPayloads : List TaskPayload := []
  gatewayIntegrations : List Integration := []
  diagnostics : List String := []
  deriving DecidableEq

/-- Names the stage at which a problem arose. -/
def atStage {α : Type} (stage : SynthesisStage) : Except WiringError α → Except SynthesisError α
  | .ok value => .ok value
  | .error cause => .error (.wiring stage cause)

/-- The fifth field of an ARN, unless it is missing or empty. -/
def accountOfArn? (arn : String) : Option String :=
  match (arn.toList.splitOn ':')[4]? with
  | some [] | none => none
  | some account => some (.ofList account)

/-- The account of a resource: the one in its ARN, else the one that is declared. -/
def owningAccount (name : String) (arn account : Option String) : Except SynthesisError String :=
  match arn, account with
  | some arn, _ =>
    match accountOfArn? arn with
    | some account => .ok account
    | none => .error (.arnWithoutAccount name arn)
  | none, some account => .ok account
  | none, none => .error (.unownedResource name)

/-- The function that an entry describes. -/
def FunctionEntry.toFunction (e : FunctionEntry) (stackAccount : Option String) :
    Except SynthesisError LambdaFunction := do
  let account ← owningAccount e.name e.arn (e.account.or stackAccount)
  let f := LambdaFunction.ofAccount e.name account e.region e.runtime e.handler
  return { f with
    arn := e.arn.getD f.arn
    architecture := e.architecture
    environment := e.environment }

/-- The state machine that an entry describes. -/
def MachineEntry.toMachine (e : MachineEntry) (stackAccount : Option String) :
    Except SynthesisError StateMachine := do
  let account ← owningAccount e.name e.arn (e.account.or stackAccount)
  let m := StateMachine.ofAccount e.name account e.region
  return { m with
    arn := e.arn.getD m.arn
    path := e.path
    logging := e.logging }

/-- Instruments the functions of a stack and forwards its other log groups. -/
def Stack.synthesizeLambda (s : Stack) (part : LambdaSection) (options : ValidationOptions)
    (foundGit : GitMetadata) : Except SynthesisError Synthesis := do
  let resolved ← atStage .lambdaSettings
    (Lambda.Instrumenter.ofSettings part.settings {} options)
  let instrumenter := (resolved.setGit (s.git.getD foundGit)).applyContext s.context
  let functions ← part.functions.mapM (·.toFunction s.account)
  let (instrumented, found) ← atStage .lambdaFunctions (instrumenter.add functions).toExcept
  let (groups, _) ← atStage .logGroups
    (instrumented.forwardLogGroups (part.logGroups.map fun name => { name := name })).toExcept
  return {
    lambdaFunctions := instrumented.functions
    logGroups := groups
    diagnostics := (instrumenter.diagnostics ++ found).map (·.message) }

/-- Adds the containers of an entry to its task. -/
def TaskEntry.addContainers (e : TaskEntry) (w : Fargate.WiredTask) :
    Except SynthesisError Fargate.WiredTask :=
  e.containers.foldlM
    (fun w c => do
      let (wired, _) ← atStage (.container c.id e.id) (w.addContainer c.id c.options).toExcept
      return wired)
    w

/-- Wires a task of a stack with its containers. -/
def TaskEntry.synthesize (e : TaskEntry) (shared : Fargate.Settings)
    (options : ValidationOptions) : Except SynthesisError Fargate.WiredTask := do
  let wired ← atStage (.task e.id)
    (Fargate.WiredTask.ofSettings e.id e.task e.settings shared options)
  e.addContainers wired

/-- Wires the tasks of a stack. -/
def FargateSection.synthesize (part : FargateSection) (options : ValidationOptions) :
    Except SynthesisError Synthesis := do
  let wired ← part.tasks.mapM (·.synthesize part.settings options)
  return {
    taskDefinitions := wired.map (·.task)
    diagnostics := wired.flatMap fun w => w.diagnostics.map (·.message) }

/-- The payload of a task with its trace context. -/
def TaskPayload.synthesize (p : TaskPayload) : Except SynthesisError TaskPayload := do
  let payload ← atStage (.payload p.name) (p.payload.withTraceContext p.kind)
  return { p with payload := payload }

/-- Instruments the state machines of a stack and builds its payloads. -/
def Stack.synthesizeStepFunctions (s : Stack) (part : StepFunctionsSection)
    (options : ValidationOptions) : Except SynthesisError Synthesis := do
  let instrumenter ← atStage .stepFunctionsSettings
    (StepFunctions.Instrumenter.ofSettings part.settings options)
  let machines ← part.machines.mapM (·.toMachine s.account)
  let ((_, instrumented), _) ← atStage .stateMachines (instrumenter.add machines).toExcept
  let payloads ← part.payloads.mapM (·.synthesize)
  return { stateMachines := instrumented, taskPayloads := payloads }

/-- The integrations of a stack with the parameters of the tracer. -/
def GatewaySection.synthesize (part : GatewaySection) : Synthesis where
  gatewayIntegrations := part.integrations.map fun integration =>
    { integration with
      requestParameters := withGatewayParameters integration.requestParameters }

/-- The result of a section that may be missing. -/
def synthesizeSection {α : Type} (run : α → Except SynthesisError Synthesis) :
    Option α → Except SynthesisError Synthesis
  | some part => run part
  | none => .ok {}

/-- Instruments every resource of a stack. What was found out about the source counts only where
the stack does not state it. -/
def Stack.synthesize (s : Stack) (options : ValidationOptions) (foundGit : GitMetadata) :
    Except SynthesisError Synthesis := do
  let lambda ← synthesizeSection (s.synthesizeLambda · options foundGit) s.lambda
  let fargate ← synthesizeSection (·.synthesize options) s.fargate
  let stepFunctions ← synthesizeSection (s.synthesizeStepFunctions · options) s.stepFunctions
  let gateway ← synthesizeSection (fun g => .ok g.synthesize) s.gateway
  return {
    lambdaFunctions := lambda.lambdaFunctions
    logGroups := lambda.logGroups
    taskDefinitions := fargate.taskDefinitions
    stateMachines := stepFunctions.stateMachines
    taskPayloads := stepFunctions.taskPayloads
    gatewayIntegrations := gateway.gatewayIntegrations
    diagnostics := lambda.diagnostics ++ fargate.diagnostics }

end TelemetryWiring
