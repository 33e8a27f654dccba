import TelemetryWiring.Diagnostic
import TelemetryWiring.Forwarder
import TelemetryWiring.Lambda.Settings

/-!
The resolved configuration of the Lambda instrumentation. Resolution lays the settings over the
caller's defaults and the library's, checks the result in a fixed order, and makes every setting
with a default concrete.
-/
namespace TelemetryWiring.Lambda

structure Config where
  layers : LayerPins := {}
  addLayers : Bool
  layerAccount : Option String := none
  forwarderArn : Option String := none
  createForwarderPermissions : Bool
  /-- Off whenever the extension is chosen, which sends metrics itself. -/
  flushMetricsToLogs : Bool
  site : String
  apiKey : Option ApiKeySource := none
  tracing : Bool
  protectionMode : ProtectionMode
  mergeXrayTraces : Bool
  injectLogContext : Bool
  collectLogs : Bool
  capturePayload : Bool
  captureCloudPayload : Bool
  identity : ServiceIdentity := {}
  tags : Option String := none
  sourceCodeIntegration : Bool
  redirectHandler : Bool
  grantSecretRead : Bool
  llmObs : Bool
  tracer : TracerSettings := {}
  deriving DecidableEq, Repr

def Config.usesExtension (c : Config) : Bool := c.layers.extension.isSet

namespace Settings

/-- Whether metrics go to the logs; the extension sends them itself. -/
def flushes (s : Settings) : Bool := s.flushMetricsToLogs.getD true && !s.usesExtension

/-- Why an API key is needed, if it is. -/
def keyDemand (s : Settings) : Option KeyDemand :=
  if s.usesExtension then some .lambdaExtension
  else if s.flushes then none
  else some .directMetrics

/-- The settings that can name an API key, in the order in which complaints list them. -/
def keyCandidates (s : Settings) : List (String × Option ApiKeySource) :=
  [("apiKey", s.apiKeys.plain.map .plain),
   ("apiKeySecretArn", s.apiKeys.secretArn.map .secretArn),
   ("apiKeySecret", s.apiKeys.secret.map .secret),
   ("apiKmsKey", s.encryptedApiKey.map .kmsEncrypted)]

/-- The protection mode from its setting or from the older switch, whose use is noted. -/
def resolveProtection (s : Settings) : Except WiringError (Noted ProtectionMode) :=
  match s.protection, s.protectionMode with
  | some _, some _ => .error (.config .protectionSetTwice)
  | some enabled, none =>
    .ok ⟨if enabled then .extension else .off,
      [.deprecated "enableDatadogASM" "datadogAppSecMode"]⟩
  | none, mode => .ok ⟨mode.getD .off, []⟩

/-- Protection needs tracing and the extension. -/
def checkProtection (s : Settings) (mode : ProtectionMode) : Except WiringError Unit :=
  if mode != .off && !(s.tracing.getD true && s.usesExtension) then
    .error (.config .protectionUnsupported)
  else .ok ()

/-- The characters of an application name. -/
def isMlAppChar (c : Char) : Bool :=
  c.isAlphanum || c == '_' || c == '-' || c == ':' || c == '.' || c == '/'

/-- Application names have 1 to 193 characters of a small set. -/
def isMlAppName (name : String) : Bool :=
  let cs := name.toList
  cs.all isMlAppChar && 1 ≤ cs.length && cs.length ≤ 193

/-- Observability of language models needs an application name; an empty one counts as none. -/
def checkMlApp (s : Settings) : Except WiringError Unit :=
  let name := s.tracer.llmObsMlApp.getD ""
  if name = "" then
    if s.llmObs.getD false then .error (.config .mlAppMissing) else .ok ()
  else if isMlAppName name then .ok ()
  else .error (.config .mlAppMalformed)

/-- A forwarder must be usable, and permissions need one. -/
def checkForwarder (s : Settings) : Except WiringError Unit :=
  match s.forwarderArn with
  | some arn => checkForwarderArn arn
  | none =>
    if s.createForwarderPermissions = some true then
      .error (.forwarder .permissionsWithoutForwarder)
    else .ok ()

/-- The configuration that merged settings describe, once their key and mode are known. -/
def toConfig (s : Settings) (apiKey : Option ApiKeySource) (mode : ProtectionMode) : Config where
  layers := s.layers
  addLayers := s.addLayers.getD true
  layerAccount := s.layerAccount
  forwarderArn := s.forwarderArn
  createForwarderPermissions := s.createForwarderPermissions.getD false
  flushMetricsToLogs := s.flushes
  site := s.site.getD defaultSite
  apiKey := apiKey
  tracing := s.tracing.getD true
  protectionMode := mode
  mergeXrayTraces := s.mergeXrayTraces.getD false
  injectLogContext := s.injectLogContext.getD true
  collectLogs := s.collectLogs.getD true
  capturePayload := s.capturePayload.getD false
  captureCloudPayload := s.captureCloudPayload.getD false
  identity := s.identity
  tags := s.tags
  sourceCodeIntegration := s.sourceCodeIntegration.getD true
  redirectHandler := s.redirectHandler.getD true
  grantSecretRead := s.grantSecretRead.getD true
  llmObs := s.llmObs.getD false
  tracer := s.tracer

/-- Checks merged settings and makes them concrete. -/
def finalize (s : Settings) (options : ValidationOptions) : Except WiringError (Noted Config) := do
  checkSite (s.site.getD defaultSite) options
  let apiKey ← selectApiKey s.keyCandidates s.keyDemand
  let mode ← s.resolveProtection
  s.checkProtection mode.value
  s.checkMlApp
  s.checkForwarder
  return ⟨s.toConfig apiKey mode.value, mode.diagnostics⟩

/-- The configuration of settings over a caller's defaults. -/
def resolve (s defaults : Settings) (options : ValidationOptions) :
    Except WiringError (Noted Config) :=
  ((libraryDefaults.merge defaults).merge s).finalize options

/-- Settings that spell out a configuration. -/
def ofConfig (c : Config) : Settings where
  layers := c.layers
  addLayers := some c.addLayers
  layerAccount := c.layerAccount
  forwarderArn := c.forwarderArn
  createForwarderPermissions := some c.createForwarderPermissions
  flushMetricsToLogs := some c.flushMetricsToLogs
  site := some c.site
  apiKeys := .ofSource c.apiKey
  encryptedApiKey := c.apiKey.bind (·.ciphertext?)
  tracing := some c.tracing
  protectionMode := some c.protectionMode
  mergeXrayTraces := some c.mergeXrayTraces
  injectLogContext := some c.injectLogContext
  collectLogs := some c.collectLogs
  capturePayload := some c.capturePayload
  captureCloudPayload := some c.captureCloudPayload
  identity := c.identity
  tags := c.tags
  sourceCodeIntegration := some c.sourceCodeIntegration
  redirectHandler := some c.redirectHandler
  grantSecretRead := some c.grantSecretRead
  llmObs := some c.llmObs
  tracer := c.tracer

end Settings
end TelemetryWiring.Lambda
