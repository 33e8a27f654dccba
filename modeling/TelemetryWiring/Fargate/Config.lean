import TelemetryWiring.Diagnostic
import TelemetryWiring.Fargate.Settings

/-!
The resolved configuration of the wiring of Fargate tasks. The Agent always ships telemetry
itself, so it needs exactly one API key whatever validation is switched off.
-/
namespace TelemetryWiring.Fargate

structure ApmConfig where
  enabled : Bool
  socket : Bool
  profiling : Bool
  inferredProxy : Bool
  deriving DecidableEq, Repr

structure DogstatsdConfig where
  enabled : Bool
  socket : Bool
  originDetection : Bool
  cardinality : Cardinality
  deriving DecidableEq, Repr

structure WorkloadSecurityConfig where
  enabled : Bool
  sizing : Sizing := {}
  deriving DecidableEq, Repr

structure LogDriverConfig where
  hostEndpoint : String
  tls : Option String := none
  compress : Option String := none
  serviceName : Option String := none
  sourceName : Option String := none
  messageKey : Option String := none
  deriving DecidableEq, Repr

structure FirelensOptions where
  configFileType : Option String := none
  configFileValue : Option String := none
  ecsLogMetadata : Bool
  parseJson : Bool
  deriving DecidableEq, Repr

structure LogRouterConfig where
  logDriver : LogDriverConfig
  firelens : FirelensOptions
  essential : Bool
  dependencyEnabled : Bool
  healthCheck : HealthCheck
  registry : String
  imageVersion : String
  sizing : Sizing := {}
  deriving DecidableEq, Repr

structure LogCollectionConfig where
  enabled : Bool
  loggingType : Option LoggingType := none
  router : LogRouterConfig
  deriving DecidableEq, Repr

/-- Whether a router container is part of the task. -/
def LogCollectionConfig.usesRouter (c : LogCollectionConfig) : Bool :=
  c.enabled && c.loggingType == some .fluentBit

structure ExplorerConfig where
  enabled : Bool
  url : Option String := none
  deriving DecidableEq, Repr

structure Config where
  apiKey : Option ApiKeySource := none
  registry : String
  imageVersion : String
  sizing : Sizing := {}
  agentEssential : Bool
  agentDependency : Bool
  agentHealthCheck : Option HealthCheck := none
  site : String
  clusterName : Option String := none
  environment : Dict String
  globalTags : Option String := none
  checksCardinality : Option Cardinality := none
  identity : ServiceIdentity := {}
  apm : ApmConfig
  dogstatsd : DogstatsdConfig
  workloadSecurity : WorkloadSecurityConfig
  logCollection : LogCollectionConfig
  explorer : ExplorerConfig
  deriving DecidableEq, Repr

namespace Config

def apmSocket (c : Config) : Bool := c.apm.enabled && c.apm.socket

def dogstatsdSocket (c : Config) : Bool := c.dogstatsd.enabled && c.dogstatsd.socket

/-- Whether an intake is to be reached through a socket. -/
def requestsSocket (c : Config) : Bool := c.dogstatsdSocket || c.apmSocket

/-- Whether an intake is to be reached through the network. -/
def requestsNetwork (c : Config) : Bool :=
  (c.dogstatsd.enabled && !c.dogstatsd.socket) || (c.apm.enabled && !c.apm.socket)

/-- What a task's platform does to the configuration: off Linux logs cannot be routed, and sockets
give way to the network. -/
def checkPlatform (c : Config) (linux : Bool) (options : ValidationOptions) :
    Except WiringError (List Diagnostic) :=
  let reason := "the sockets volume is only mounted on Linux tasks"
  if linux then .ok []
  else if !options.bypassValidation && c.logCollection.usesRouter then
    .error (.config .logRouterOffLinux)
  else
    .ok ((if c.apmSocket then [.socketFallback "APM" reason] else []) ++
      (if c.dogstatsdSocket then [.socketFallback "DogStatsD" reason] else []))

end Config

/-- The names of the containers that the wiring adds itself. -/
def agentName : String := "datadog-agent"
def workloadSecurityName : String := "cws-instrumentation-init"
def logRouterName : String := "datadog-log-router"

def reservedNames : List String := [agentName, workloadSecurityName, logRouterName]

/-- Logs that are collected need a means of collection. -/
def LogCollectionSettings.check (s : LogCollectionSettings) : Except WiringError Unit :=
  if s.enabled.getD false && s.loggingType.isNone then .error (.config .loggingTypeMissing)
  else .ok ()

namespace Settings

/-- The settings that can name an API key, in the order in which complaints list them. -/
def keyCandidates (s : Settings) : List (String × Option ApiKeySource) :=
  [("apiKey", s.apiKeys.plain.map .plain),
   ("apiKeySecret", s.apiKeys.secret.map .secret),
   ("apiKeySecretArn", s.apiKeys.secretArn.map .secretArn)]

/-- A setting that the library's defaults always define. -/
def defined {α : Type} (name : String) : Option α → Except WiringError α
  | some value => .ok value
  | none => .error (.config (.undefinedSetting name))

/-- Applications that wait for the Agent need a health check with a command. -/
def checkDependency (s : Settings) : Except WiringError Unit :=
  if s.agentDependency.getD false then
    match s.agentHealthCheck with
    | none => .error (.config .healthCheckMissing)
    | some check =>
      if check.command.isEmpty then .error (.config .healthCheckWithoutCommand) else .ok ()
  else .ok ()

/-- Applications under observation stop without the Agent, so they have to wait for it. -/
def checkWorkloadSecurity (s : Settings) (w : WorkloadSecuritySettings) : Except WiringError Unit :=
  if w.enabled.getD false && !s.agentDependency.getD false then
    .error (.config .workloadSecurityWithoutDependency)
  else .ok ()

/-- A check that can be switched off. -/
def unlessBypassed (options : ValidationOptions) (check : Except WiringError Unit) :
    Except WiringError Unit :=
  if options.bypassValidation then .ok () else check

end Settings

def ApmSettings.toConfig (s : ApmSettings) : ApmConfig where
  enabled := s.enabled.getD true
  socket := s.socket.getD true
  profiling := s.profiling.getD false
  inferredProxy := s.inferredProxy.getD false

def DogstatsdSettings.toConfig (s : DogstatsdSettings) : DogstatsdConfig where
  enabled := s.enabled.getD true
  socket := s.socket.getD true
  originDetection := s.originDetection.getD true
  cardinality := s.cardinality.getD .orchestrator

def WorkloadSecuritySettings.toConfig (s : WorkloadSecuritySettings) : WorkloadSecurityConfig where
  enabled := s.enabled.getD false
  sizing := s.sizing

def LogDriverSettings.toConfig (s : LogDriverSettings) : LogDriverConfig where
  hostEndpoint := s.hostEndpoint.getD defaultLogEndpoint
  tls := s.tls
  compress := s.compress
  serviceName := s.serviceName
  sourceName := s.sourceName
  messageKey := s.messageKey

/-- The router's own configuration file; parsing of JSON lines brings one of its own. -/
def FirelensSettings.toOptions (s : FirelensSettings) : FirelensOptions :=
  let parseJson := s.parseJson.getD false
  { configFileType := if parseJson then some "file" else s.configFileType
    configFileValue :=
      if parseJson then some "/fluent-bit/configs/parse-json.conf" else s.configFileValue
    ecsLogMetadata := s.ecsLogMetadata.getD true
    parseJson := parseJson }

def LogRouterSettings.toConfig (s : LogRouterSettings) (driver : LogDriverSettings) :
    LogRouterConfig where
  logDriver := driver.toConfig
  firelens := (s.firelens.getD {}).toOptions
  essential := s.essential.getD false
  dependencyEnabled := s.dependencyEnabled.getD false
  healthCheck := s.healthCheck.getD {}
  registry := s.registry.getD defaultRouterRegistry
  imageVersion := s.imageVersion.getD defaultRouterVersion
  sizing := s.sizing

def ExplorerSettings.toConfig (s : ExplorerSettings) : ExplorerConfig where
  enabled := s.enabled.getD true
  url := s.url

/-- What the library's defaults define in any settings, taken out of them. -/
structure Features where
  registry : String
  imageVersion : String
  apm : ApmSettings
  dogstatsd : DogstatsdSettings
  workloadSecurity : WorkloadSecuritySettings
  logCollection : LogCollectionSettings
  router : LogRouterSettings
  logDriver : LogDriverSettings
  deriving DecidableEq, Repr

namespace Settings

def features (s : Settings) : Except WiringError Features := do
  let registry ← defined "registry" s.registry
  let imageVersion ← defined "imageVersion" s.imageVersion
  let apm ← defined "apm" s.apm
  let dogstatsd ← defined "dogstatsd" s.dogstatsd
  let workloadSecurity ← defined "cws" s.workloadSecurity
  let logCollection ← defined "logCollection" s.logCollection
  let router ← defined "fluentbitConfig" logCollection.router
  let logDriver ← defined "logDriverConfig" router.logDriver
  return {
    registry := registry
    imageVersion := imageVersion
    apm := apm
    dogstatsd := dogstatsd
    workloadSecurity := workloadSecurity
    logCollection := logCollection
    router := router
    logDriver := logDriver }

/-- The configuration that merged settings describe, once their key and features are known. -/
def toConfig (s : Settings) (apiKey : Option ApiKeySource) (features : Features) : Config where
  apiKey := apiKey
  registry := features.registry
  imageVersion := features.imageVersion
  sizing := s.sizing
  agentEssential := s.agentEssential.getD false
  agentDependency := s.agentDependency.getD false
  agentHealthCheck := s.agentHealthCheck
  site := s.site.getD defaultSite
  clusterName := s.clusterName
  environment := s.environment.getD .empty
  globalTags := s.globalTags
  checksCardinality := s.checksCardinality
  identity := s.identity
  apm := features.apm.toConfig
  dogstatsd := features.dogstatsd.toConfig
  workloadSecurity := features.workloadSecurity.toConfig
  logCollection :=
    { enabled := features.logCollection.enabled.getD false
      loggingType := features.logCollection.loggingType
      router := features.router.toConfig features.logDriver }
  explorer := (s.explorer.getD {}).toConfig

/-- Checks merged settings and makes them concrete. -/
def finalize (s : Settings) (options : ValidationOptions) : Except WiringError (Noted Config) := do
  let apiKey ← selectApiKey s.keyCandidates (some .agentContainer)
  unlessBypassed options (checkSite (s.site.getD defaultSite) options)
  let features ← s.features
  unlessBypassed options s.checkDependency
  unlessBypassed options features.logCollection.check
  unlessBypassed options (s.checkWorkloadSecurity features.workloadSecurity)
  s.sizing.check agentName
  features.workloadSecurity.sizing.check workloadSecurityName
  features.router.sizing.check logRouterName
  return ⟨s.toConfig apiKey features, []⟩

/-- The configuration of settings over a caller's defaults. -/
def resolve (s defaults : Settings) (options : ValidationOptions) :
    Except WiringError (Noted Config) :=
  ((libraryDefaults.merge defaults).merge s).finalize options

end Settings

def LogDriverConfig.toSettings (c : LogDriverConfig) : LogDriverSettings where
  hostEndpoint := some c.hostEndpoint
  tls := c.tls
  compress := c.compress
  serviceName := c.serviceName
  sourceName := c.sourceName
  messageKey := c.messageKey

def FirelensOptions.toSettings (o : FirelensOptions) : FirelensSettings where
  configFileType := o.configFileType
  configFileValue := o.configFileValue
  ecsLogMetadata := some o.ecsLogMetadata
  parseJson := some o.parseJson

def LogRouterConfig.toSettings (c : LogRouterConfig) : LogRouterSettings where
  logDriver := some c.logDriver.toSettings
  firelens := some c.firelens.toSettings
  essential := some c.essential
  dependencyEnabled := some c.dependencyEnabled
  healthCheck := some c.healthCheck
  registry := some c.registry
  imageVersion := some c.imageVersion
  sizing := c.sizing

/-- Settings that spell out a configuration. -/
def Settings.ofConfig (c : Config) : Settings where
  apiKeys := .ofSource c.apiKey
  registry := some c.registry
  imageVersion := some c.imageVersion
  sizing := c.sizing
  agentEssential := some c.agentEssential
  agentDependency := some c.agentDependency
  agentHealthCheck := c.agentHealthCheck
  site := some c.site
  clusterName := c.clusterName
  environment := some c.environment
  globalTags := c.globalTags
  checksCardinality := c.checksCardinality
  identity := c.identity
  apm := some
    { enabled := some c.apm.enabled
      socket := some c.apm.socket
      profiling := some c.apm.profiling
      inferredProxy := some c.apm.inferredProxy }
  dogstatsd := some
    { enabled := some c.dogstatsd.enabled
      socket := some c.dogstatsd.socket
      originDetection := some c.dogstatsd.originDetection
      cardinality := some c.dogstatsd.cardinality }
  workloadSecurity := some
    { enabled := some c.workloadSecurity.enabled
      sizing := c.workloadSecurity.sizing }
  logCollection := some
    { enabled := some c.logCollection.enabled
      loggingType := c.logCollection.loggingType
      router := some c.logCollection.router.toSettings }
  explorer := some
    { enabled := some c.explorer.enabled
      url := c.explorer.url }

end TelemetryWiring.Fargate
