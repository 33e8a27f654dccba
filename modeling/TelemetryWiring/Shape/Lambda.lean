import TelemetryWiring.Lambda.Config
import TelemetryWiring.Shape.Base

/-!
The JSON forms of functions and of the settings of their instrumentation. Settings stand side by
side in one object, those that are open as null; a configuration has names of its own.
-/
namespace TelemetryWiring

instance : Decode Architecture := Decode.byName Architecture.name [.x86, .arm]
instance : Encode Architecture := ⟨fun a => encode a.name⟩

instance : Decode LayerReference where
  decode? j := do
    let fields ← j.fields?
    return { id := ← fields.required "id", arn := ← fields.required "arn" }

instance : Encode LayerReference where
  encode l := .object [("id", encode l.id), ("arn", encode l.arn)]

instance : Decode LambdaFunction where
  decode? j := do
    let fields ← j.fields?
    return {
      name := ← fields.required "name"
      arn := ← fields.required "arn"
      region := ← fields.required "region"
      runtime := ← fields.required "runtime"
      architecture := ← fields.orElse "architecture" .x86
      handler := ← fields.required "handler"
      environment := ← fields.orElse "environment" .empty
      layers := ← fields.orElse "layers" []
      tags := ← fields.orElse "tags" .empty
      logGroup := ← fields.optional "logGroup"
      secretReadGrants := ← fields.orElse "secretReadGrants" [] }

instance : Encode LambdaFunction where
  encode f := .object
    ([("name", encode f.name), ("arn", encode f.arn), ("region", encode f.region),
      ("runtime", encode f.runtime), ("architecture", encode f.architecture),
      ("handler", encode f.handler), ("environment", encode f.environment)] ++
      Json.nonemptyList "layers" f.layers ++
      Json.nonemptyDict "tags" f.tags ++
      Json.present "logGroup" f.logGroup ++
      Json.nonemptyList "secretReadGrants" f.secretReadGrants)

instance : Decode ProtectionMode :=
  Decode.byName ProtectionMode.name [.off, .on, .extension, .tracer]
instance : Encode ProtectionMode := ⟨fun mode => encode mode.name⟩

namespace LayerPin

/-- The choice of a layer by the names of its two settings. -/
def ofFields? (fields : Dict Json) (stem : String) : Option LayerPin := do
  return {
    version := ← fields.optional (stem ++ "LayerVersion")
    arn := ← fields.optional (stem ++ "LayerArn") }

def toFields (pin : LayerPin) (stem : String) : List (String × Json) :=
  [(stem ++ "LayerVersion", encode pin.version), (stem ++ "LayerArn", encode pin.arn)]

end LayerPin

instance : Encode LayerPin where
  encode pin := .object [("version", encode pin.version), ("arn", encode pin.arn)]

namespace LayerPins

def ofFields? (fields : Dict Json) : Option LayerPins := do
  return {
    python := ← LayerPin.ofFields? fields "python"
    node := ← LayerPin.ofFields? fields "node"
    java := ← LayerPin.ofFields? fields "java"
    dotnet := ← LayerPin.ofFields? fields "dotnet"
    ruby := ← LayerPin.ofFields? fields "ruby"
    extension := ← LayerPin.ofFields? fields "extension" }

def toFields (pins : LayerPins) : List (String × Json) :=
  pins.python.toFields "python" ++ pins.node.toFields "node" ++ pins.java.toFields "java" ++
    pins.dotnet.toFields "dotnet" ++ pins.ruby.toFields "ruby" ++
    pins.extension.toFields "extension"

end LayerPins

namespace TracerSettings

def ofFields? (fields : Dict Json) : Option TracerSettings := do
  return {
    logLevel := ← fields.optional "logLevel"
    coldStartTracing := ← fields.optional "enableColdStartTracing"
    minColdStartDuration := ← fields.optional "minColdStartTraceDuration"
    coldStartSkipLibs := ← fields.optional "coldStartTraceSkipLibs"
    profiling := ← fields.optional "enableProfiling"
    encodeAuthorizerContext := ← fields.optional "encodeAuthorizerContext"
    decodeAuthorizerContext := ← fields.optional "decodeAuthorizerContext"
    apmFlushDeadline := ← fields.optional "apmFlushDeadline"
    llmObsMlApp := ← fields.optional "llmObsMlApp"
    llmObsAgentless := ← fields.optional "llmObsAgentlessEnabled" }

def toFields (t : TracerSettings) : List (String × Json) :=
  [("logLevel", encode t.logLevel),
   ("enableColdStartTracing", encode t.coldStartTracing),
   ("minColdStartTraceDuration", encode t.minColdStartDuration),
   ("coldStartTraceSkipLibs", encode t.coldStartSkipLibs),
   ("enableProfiling", encode t.profiling),
   ("encodeAuthorizerContext", encode t.encodeAuthorizerContext),
   ("decodeAuthorizerContext", encode t.decodeAuthorizerContext),
   ("apmFlushDeadline", encode t.apmFlushDeadline),
   ("llmObsMlApp", encode t.llmObsMlApp),
   ("llmObsAgentlessEnabled", encode t.llmObsAgentless)]

/-- The fields of the tracer's settings in a configuration. -/
def configFields (t : TracerSettings) : List (String × Json) :=
  [("log_level", encode t.logLevel),
   ("enable_cold_start_tracing", encode t.coldStartTracing),
   ("min_cold_start_trace_duration", encode t.minColdStartDuration),
   ("cold_start_trace_skip_libs", encode t.coldStartSkipLibs),
   ("enable_profiling", encode t.profiling),
   ("encode_authorizer_context", encode t.encodeAuthorizerContext),
   ("decode_authorizer_context", encode t.decodeAuthorizerContext),
   ("apm_flush_deadline", encode t.apmFlushDeadline),
   ("llm_obs_ml_app", encode t.llmObsMlApp),
   ("llm_obs_agentless_enabled", encode t.llmObsAgentless)]

end TracerSettings

instance : Decode Lambda.Settings where
  decode? j := do
    let fields ← j.fields?
    return {
      layers := ← LayerPins.ofFields? fields
      addLayers := ← fields.optional "addLayers"
      layerAccount := ← fields.optional "useLayersFromAccount"
      forwarderArn := ← fields.optional "forwarderArn"
      createForwarderPermissions := ← fields.optional "createForwarderPermissions"
      flushMetricsToLogs := ← fields.optional "flushMetricsToLogs"
      site := ← fields.optional "site"
      apiKeys :=
        { plain := ← fields.optional "apiKey"
          secretArn := ← fields.optional "apiKeySecretArn"
          secret := ← fields.optional "apiKeySecret" }
      encryptedApiKey := ← fields.optional "apiKmsKey"
      tracing := ← fields.optional "enableDatadogTracing"
      protection := ← fields.optional "enableDatadogASM"
      protectionMode := ← fields.optional "datadogAppSecMode"
      mergeXrayTraces := ← fields.optional "enableMergeXrayTraces"
      injectLogContext := ← fields.optional "injectLogContext"
      collectLogs := ← fields.optional "enableDatadogLogs"
      capturePayload := ← fields.optional "captureLambdaPayload"
      captureCloudPayload := ← fields.optional "captureCloudServicePayload"
      identity := ← ServiceIdentity.ofFields? fields
      tags := ← fields.optional "tags"
      sourceCodeIntegration := ← fields.optional "sourceCodeIntegration"
      redirectHandler := ← fields.optional "redirectHandler"
      grantSecretRead := ← fields.optional "grantSecretReadAccess"
      llmObs := ← fields.optional "llmObsEnabled"
      tracer := ← TracerSettings.ofFields? fields }

instance : Encode Lambda.Settings where
  encode s := .object
    (s.layers.toFields ++
     [("addLayers", encode s.addLayers),
      ("useLayersFromAccount", encode s.layerAccount),
      ("forwarderArn", encode s.forwarderArn),
      ("createForwarderPermissions", encode s.createForwarderPermissions),
      ("flushMetricsToLogs", encode s.flushMetricsToLogs),
      ("site", encode s.site),
      ("apiKey", encode s.apiKeys.plain),
      ("apiKeySecretArn", encode s.apiKeys.secretArn),
      ("apiKeySecret", encode s.apiKeys.secret),
      ("apiKmsKey", encode s.encryptedApiKey),
      ("enableDatadogTracing", encode s.tracing),
      ("enableDatadogASM", encode s.protection),
      ("datadogAppSecMode", encode s.protectionMode),
      ("enableMergeXrayTraces", encode s.mergeXrayTraces),
      ("injectLogContext", encode s.injectLogContext),
      ("enableDatadogLogs", encode s.collectLogs),
      ("captureLambdaPayload", encode s.capturePayload),
      ("captureCloudServicePayload", encode s.captureCloudPayload),
      ("tags", encode s.tags),
      ("sourceCodeIntegration", encode s.sourceCodeIntegration),
      ("redirectHandler", encode s.redirectHandler),
      ("grantSecretReadAccess", encode s.grantSecretRead),
      ("llmObsEnabled", encode s.llmObs)] ++
     s.identity.toFields ++ s.tracer.toFields)

instance : Encode Lambda.Config where
  encode c := .object
    ([("python_layer", encode c.layers.python),
      ("node_layer", encode c.layers.node),
      ("java_layer", encode c.layers.java),
      ("dotnet_layer", encode c.layers.dotnet),
      ("ruby_layer", encode c.layers.ruby),
      ("extension_layer", encode c.layers.extension),
      ("add_layers", encode c.addLayers),
      ("use_layers_from_account", encode c.layerAccount),
      ("forwarder_arn", encode c.forwarderArn),
      ("create_forwarder_permissions", encode c.createForwarderPermissions),
      ("flush_metrics_to_logs", encode c.flushMetricsToLogs),
      ("site", encode c.site),
      ("api_key", encode c.apiKey),
      ("enable_datadog_tracing", encode c.tracing),
      ("datadog_app_sec_mode", encode c.protectionMode),
      ("enable_merge_xray_traces", encode c.mergeXrayTraces),
      ("inject_log_context", encode c.injectLogContext),
      ("enable_datadog_logs", encode c.collectLogs),
      ("capture_lambda_payload", encode c.capturePayload),
      ("capture_cloud_service_payload", encode c.captureCloudPayload),
      ("tags", encode c.tags),
      ("source_code_integration", encode c.sourceCodeIntegration),
      ("redirect_handler", encode c.redirectHandler),
      ("grant_secret_read_access", encode c.grantSecretRead),
      ("llm_obs_enabled", encode c.llmObs)] ++
     c.identity.toFields ++ c.tracer.configFields)

end TelemetryWiring
