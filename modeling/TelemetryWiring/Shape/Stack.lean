import TelemetryWiring.Shape.Fargate
import TelemetryWiring.Shape.Lambda
import TelemetryWiring.Shape.StepFunctions
import TelemetryWiring.Stack.Synthesis

/-!
The JSON forms of stacks and of what is synthesized from them.
-/
namespace TelemetryWiring

instance : Decode FunctionEntry where
  decode? j := do
    let fields ← j.fields?
    return {
      name := ← fields.required "name"
      region := ← fields.required "region"
      runtime := ← fields.required "runtime"
      handler := ← fields.required "handler"
      architecture := ← fields.orElse "architecture" .x86
      arn := ← fields.optional "arn"
      account := ← fields.optional "account"
      environment := ← fields.orElse "environment" .empty }

instance : Decode LambdaSection where
  decode? j := do
    let fields ← j.fields?
    return {
      settings := ← fields.orElse "props" {}
      functions := ← fields.orElse "functions" []
      logGroups := ← fields.orElse "logGroups" [] }

instance : Decode ContainerEntry where
  decode? j := do
    let fields ← j.fields?
    return {
      id := ← fields.required "id"
      options := ← fields.required "options" }

instance : Decode TaskEntry where
  decode? j := do
    let fields ← j.fields?
    return {
      id := ← fields.required "id"
      task := ← fields.orElse "props" {}
      settings := ← fields.orElse "datadogProps" {}
      containers := ← fields.orElse "containers" [] }

instance : Decode FargateSection where
  decode? j := do
    let fields ← j.fields?
    return {
      settings := ← fields.orElse "props" {}
      tasks := ← fields.orElse "taskDefinitions" [] }

instance : Decode MachineEntry where
  decode? j := do
    let fields ← j.fields?
    return {
      name := ← fields.required "name"
      region := ← fields.required "region"
      arn := ← fields.optional "arn"
      account := ← fields.optional "account"
      path := ← fields.optional "path"
      logging := ← fields.optional "logging" }

/-- A payload with its values as they are kept. -/
def storedPayload? (p : Payload) : Option Payload := do
  let j ← (Json.ofDict p).stored?
  j.fields?

instance : Decode TaskPayload where
  decode? j := do
    let fields ← j.fields?
    return {
      name := ← fields.required "name"
      kind := ← fields.required "kind"
      payload := ← storedPayload? (← fields.orElse "payload" .empty) }

instance : Encode TaskPayload where
  encode p := .object
    [("name", encode p.name), ("kind", encode p.kind), ("payload", .ofDict p.payload)]

instance : Decode StepFunctionsSection where
  decode? j := do
    let fields ← j.fields?
    return {
      settings := ← fields.orElse "props" {}
      machines := ← fields.orElse "stateMachines" []
      payloads := ← fields.orElse "taskPayloads" [] }

instance : Decode Integration where
  decode? j := do
    let fields ← j.fields?
    return {
      name := ← fields.required "name"
      requestParameters := ← fields.orElse "requestParameters" .empty }

instance : Encode Integration where
  encode i := .object
    [("name", encode i.name), ("requestParameters", encode i.requestParameters)]

instance : Decode GatewaySection where
  decode? j := do
    let fields ← j.fields?
    return { integrations := ← fields.orElse "integrations" [] }

instance : Decode Stack where
  decode? j := do
    let fields ← j.fields?
    return {
      account := ← fields.optional "account"
      context := ← fields.orElse "context" .empty
      git := ← fields.optional "git"
      lambda := ← fields.optional "lambda"
      fargate := ← fields.optional "ecs"
      stepFunctions := ← fields.optional "stepFunctions"
      gateway := ← fields.optional "apiGateway" }

instance : Encode Synthesis where
  encode s := .object
    [("lambdaFunctions", encode s.lambdaFunctions),
     ("logGroups", encode s.logGroups),
     ("taskDefinitions", encode s.taskDefinitions),
     ("stateMachines", encode s.stateMachines),
     ("taskPayloads", encode s.taskPayloads),
     ("apiGatewayIntegrations", encode s.gatewayIntegrations),
     ("diagnostics", encode s.diagnostics)]

end TelemetryWiring
