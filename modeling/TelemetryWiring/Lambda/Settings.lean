import TelemetryWiring.ApiKey
import TelemetryWiring.Identity
import TelemetryWiring.Lambda.Layer
import TelemetryWiring.Validation

/-!
Settings of the Lambda instrumentation as a caller gives them. Every one may be left open, and
settings are layered: where the upper layer leaves one open, the lower one counts.
-/
namespace TelemetryWiring

/-- Where application and API protection runs. -/
inductive ProtectionMode where
  | off
  | on
  | extension
  | tracer
  deriving DecidableEq, Repr

def ProtectionMode.name : ProtectionMode → String
  | .off => "off"
  | .on => "on"
  | .extension => "extension"
  | .tracer => "tracer"

/-- Settings handed to the tracer as they are, each only when it is set. -/
structure TracerSettings where
  logLevel : Option String := none
  coldStartTracing : Option Bool := none
  minColdStartDuration : Option UInt64 := none
  coldStartSkipLibs : Option String := none
  profiling : Option Bool := none
  encodeAuthorizerContext : Option Bool := none
  decodeAuthorizerContext : Option Bool := none
  apmFlushDeadline : Option String := none
  llmObsMlApp : Option String := none
  llmObsAgentless : Option Bool := none
  deriving DecidableEq, Repr

def TracerSettings.merge (a b : TracerSettings) : TracerSettings where
  logLevel := b.logLevel.or a.logLevel
  coldStartTracing := b.coldStartTracing.or a.coldStartTracing
  minColdStartDuration := b.minColdStartDuration.or a.minColdStartDuration
  coldStartSkipLibs := b.coldStartSkipLibs.or a.coldStartSkipLibs
  profiling := b.profiling.or a.profiling
  encodeAuthorizerContext := b.encodeAuthorizerContext.or a.encodeAuthorizerContext
  decodeAuthorizerContext := b.decodeAuthorizerContext.or a.decodeAuthorizerContext
  apmFlushDeadline := b.apmFlushDeadline.or a.apmFlushDeadline
  llmObsMlApp := b.llmObsMlApp.or a.llmObsMlApp
  llmObsAgentless := b.llmObsAgentless.or a.llmObsAgentless

namespace Lambda

structure Settings where
  layers : LayerPins := {}
  addLayers : Option Bool := none
  layerAccount : Option String := none
  forwarderArn : Option String := none
  createForwarderPermissions : Option Bool := none
  flushMetricsToLogs : Option Bool := none
  site : Option String := none
  apiKeys : ApiKeySettings := {}
  /-- The key in an encrypted form that functions decrypt themselves. -/
  encryptedApiKey : Option String := none
  tracing : Option Bool := none
  /-- The older switch of the protection, which may not stand beside its mode. -/
  protection : Option Bool := none
  protectionMode : Option ProtectionMode := none
  mergeXrayTraces : Option Bool := none
  injectLogContext : Option Bool := none
  collectLogs : Option Bool := none
  capturePayload : Option Bool := none
  captureCloudPayload : Option Bool := none
  identity : ServiceIdentity := {}
  /-- Pairs `key:value` separated by commas. -/
  tags : Option String := none
  sourceCodeIntegration : Option Bool := none
  redirectHandler : Option Bool := none
  grantSecretRead : Option Bool := none
  llmObs : Option Bool := none
  tracer : TracerSettings := {}
  deriving DecidableEq, Repr

namespace Settings

/-- The settings of the second layer over those of the first. -/
def merge (a b : Settings) : Settings where
  layers := a.layers.merge b.layers
  addLayers := b.addLayers.or a.addLayers
  layerAccount := b.layerAccount.or a.layerAccount
  forwarderArn := b.forwarderArn.or a.forwarderArn
  createForwarderPermissions := b.createForwarderPermissions.or a.createForwarderPermissions
  flushMetricsToLogs := b.flushMetricsToLogs.or a.flushMetricsToLogs
  site := b.site.or a.site
  apiKeys := a.apiKeys.merge b.apiKeys
  encryptedApiKey := b.encryptedApiKey.or a.encryptedApiKey
  tracing := b.tracing.or a.tracing
  protection := b.protection.or a.protection
  protectionMode := b.protectionMode.or a.protectionMode
  mergeXrayTraces := b.mergeXrayTraces.or a.mergeXrayTraces
  injectLogContext := b.injectLogContext.or a.injectLogContext
  collectLogs := b.collectLogs.or a.collectLogs
  capturePayload := b.capturePayload.or a.capturePayload
  captureCloudPayload := b.captureCloudPayload.or a.captureCloudPayload
  identity := a.identity.merge b.identity
  tags := b.tags.or a.tags
  sourceCodeIntegration := b.sourceCodeIntegration.or a.sourceCodeIntegration
  redirectHandler := b.redirectHandler.or a.redirectHandler
  grantSecretRead := b.grantSecretRead.or a.grantSecretRead
  llmObs := b.llmObs.or a.llmObs
  tracer := a.tracer.merge b.tracer

/-- The lowest layer, under whatever a caller sets. -/
def libraryDefaults : Settings where
  addLayers := some true
  flushMetricsToLogs := some true
  site := some defaultSite
  tracing := some true
  mergeXrayTraces := some false
  injectLogContext := some true
  collectLogs := some true
  capturePayload := some false
  captureCloudPayload := some false
  sourceCodeIntegration := some true
  redirectHandler := some true
  grantSecretRead := some true
  llmObs := some false

/-- Whether the extension layer is chosen. -/
def usesExtension (s : Settings) : Bool := s.layers.extension.isSet

end Settings
end Lambda
end TelemetryWiring
