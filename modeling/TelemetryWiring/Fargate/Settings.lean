import TelemetryWiring.Cardinality
import TelemetryWiring.Fargate.Container
import TelemetryWiring.Identity
import TelemetryWiring.Validation

/-!
Settings of the wiring of Fargate tasks as a caller gives them. Features are records of their own,
which are layered setting by setting: a caller who sets one switch of a feature keeps the others'
defaults.
-/
namespace TelemetryWiring.Fargate

/-- Two layers of a record that may be missing from either. -/
def mergeOption {α : Type} (merge : α → α → α) : Option α → Option α → Option α
  | some a, some b => some (merge a b)
  | a, none => a
  | none, b => b

/-- Traces. -/
structure ApmSettings where
  enabled : Option Bool := none
  socket : Option Bool := none
  profiling : Option Bool := none
  inferredProxy : Option Bool := none
  deriving DecidableEq, Repr

def ApmSettings.merge (a b : ApmSettings) : ApmSettings where
  enabled := b.enabled.or a.enabled
  socket := b.socket.or a.socket
  profiling := b.profiling.or a.profiling
  inferredProxy := b.inferredProxy.or a.inferredProxy

/-- Metrics sent by the applications. -/
structure DogstatsdSettings where
  enabled : Option Bool := none
  socket : Option Bool := none
  originDetection : Option Bool := none
  cardinality : Option Cardinality := none
  deriving DecidableEq, Repr

def DogstatsdSettings.merge (a b : DogstatsdSettings) : DogstatsdSettings where
  enabled := b.enabled.or a.enabled
  socket := b.socket.or a.socket
  originDetection := b.originDetection.or a.originDetection
  cardinality := b.cardinality.or a.cardinality

/-- Observation of what the applications execute. -/
structure WorkloadSecuritySettings where
  enabled : Option Bool := none
  sizing : Sizing := {}
  deriving DecidableEq, Repr

def WorkloadSecuritySettings.merge (a b : WorkloadSecuritySettings) : WorkloadSecuritySettings where
  enabled := b.enabled.or a.enabled
  sizing := a.sizing.merge b.sizing

structure LogDriverSettings where
  hostEndpoint : Option String := none
  tls : Option String := none
  compress : Option String := none
  serviceName : Option String := none
  sourceName : Option String := none
  messageKey : Option String := none
  deriving DecidableEq, Repr

def LogDriverSettings.merge (a b : LogDriverSettings) : LogDriverSettings where
  hostEndpoint := b.hostEndpoint.or a.hostEndpoint
  tls := b.tls.or a.tls
  compress := b.compress.or a.compress
  serviceName := b.serviceName.or a.serviceName
  sourceName := b.sourceName.or a.sourceName
  messageKey := b.messageKey.or a.messageKey

structure FirelensSettings where
  configFileType : Option String := none
  configFileValue : Option String := none
  ecsLogMetadata : Option Bool := none
  parseJson : Option Bool := none
  deriving DecidableEq, Repr

def FirelensSettings.merge (a b : FirelensSettings) : FirelensSettings where
  configFileType := b.configFileType.or a.configFileType
  configFileValue := b.configFileValue.or a.configFileValue
  ecsLogMetadata := b.ecsLogMetadata.or a.ecsLogMetadata
  parseJson := b.parseJson.or a.parseJson

/-- The container that routes the logs of the others. -/
structure LogRouterSettings where
  logDriver : Option LogDriverSettings := none
  firelens : Option FirelensSettings := none
  essential : Option Bool := none
  dependencyEnabled : Option Bool := none
  healthCheck : Option HealthCheck := none
  registry : Option String := none
  imageVersion : Option String := none
  sizing : Sizing := {}
  deriving DecidableEq, Repr

def LogRouterSettings.merge (a b : LogRouterSettings) : LogRouterSettings where
  logDriver := mergeOption LogDriverSettings.merge a.logDriver b.logDriver
  firelens := mergeOption FirelensSettings.merge a.firelens b.firelens
  essential := b.essential.or a.essential
  dependencyEnabled := b.dependencyEnabled.or a.dependencyEnabled
  healthCheck := b.healthCheck.or a.healthCheck
  registry := b.registry.or a.registry
  imageVersion := b.imageVersion.or a.imageVersion
  sizing := a.sizing.merge b.sizing

/-- By what means logs are collected. -/
inductive LoggingType where
  | fluentBit
  deriving DecidableEq, Repr

structure LogCollectionSettings where
  enabled : Option Bool := none
  loggingType : Option LoggingType := none
  router : Option LogRouterSettings := none
  deriving DecidableEq, Repr

def LogCollectionSettings.merge (a b : LogCollectionSettings) : LogCollectionSettings where
  enabled := b.enabled.or a.enabled
  loggingType := b.loggingType.or a.loggingType
  router := mergeOption LogRouterSettings.merge a.router b.router

/-- The inventory of running tasks. -/
structure ExplorerSettings where
  enabled : Option Bool := none
  url : Option String := none
  deriving DecidableEq, Repr

def ExplorerSettings.merge (a b : ExplorerSettings) : ExplorerSettings where
  enabled := b.enabled.or a.enabled
  url := b.url.or a.url

structure Settings where
  apiKeys : ApiKeySettings := {}
  registry : Option String := none
  imageVersion : Option String := none
  sizing : Sizing := {}
  agentEssential : Option Bool := none
  /-- Whether applications wait for the Agent. -/
  agentDependency : Option Bool := none
  agentHealthCheck : Option HealthCheck := none
  site : Option String := none
  clusterName : Option String := none
  environment : Option (Dict String) := none
  globalTags : Option String := none
  checksCardinality : Option Cardinality := none
  identity : ServiceIdentity := {}
  apm : Option ApmSettings := none
  dogstatsd : Option DogstatsdSettings := none
  workloadSecurity : Option WorkloadSecuritySettings := none
  logCollection : Option LogCollectionSettings := none
  explorer : Option ExplorerSettings := none
  deriving DecidableEq, Repr

namespace Settings

/-- The settings of the second layer over those of the first; environments are layered variable by
variable. -/
def merge (a b : Settings) : Settings where
  apiKeys := a.apiKeys.merge b.apiKeys
  registry := b.registry.or a.registry
  imageVersion := b.imageVersion.or a.imageVersion
  sizing := a.sizing.merge b.sizing
  agentEssential := b.agentEssential.or a.agentEssential
  agentDependency := b.agentDependency.or a.agentDependency
  agentHealthCheck := b.agentHealthCheck.or a.agentHealthCheck
  site := b.site.or a.site
  clusterName := b.clusterName.or a.clusterName
  environment := mergeOption Dict.merge a.environment b.environment
  globalTags := b.globalTags.or a.globalTags
  checksCardinality := b.checksCardinality.or a.checksCardinality
  identity := a.identity.merge b.identity
  apm := mergeOption ApmSettings.merge a.apm b.apm
  dogstatsd := mergeOption DogstatsdSettings.merge a.dogstatsd b.dogstatsd
  workloadSecurity :=
    mergeOption WorkloadSecuritySettings.merge a.workloadSecurity b.workloadSecurity
  logCollection := mergeOption LogCollectionSettings.merge a.logCollection b.logCollection
  explorer := mergeOption ExplorerSettings.merge a.explorer b.explorer

end Settings

def defaultLogEndpoint : String := "http-intake.logs.datadoghq.com"

def defaultRouterRegistry : String := "public.ecr.aws/aws-observability/aws-for-fluent-bit"

def defaultRouterVersion : String := "stable"

/-- The lowest layer, under whatever a caller sets. -/
def Settings.libraryDefaults : Settings where
  registry := some "public.ecr.aws/datadog/agent"
  imageVersion := some "latest"
  agentEssential := some false
  agentDependency := some false
  agentHealthCheck := some
    { command := ["/probe.sh"]
      interval := some 10
      retries := some 3
      startPeriod := some 60
      timeout := some 5 }
  site := some defaultSite
  apm := some
    { enabled := some true
      socket := some true
      profiling := some false
      inferredProxy := some false }
  dogstatsd := some
    { enabled := some true
      socket := some true
      originDetection := some true
      cardinality := some .orchestrator }
  workloadSecurity := some { enabled := some false }
  logCollection := some
    { enabled := some false
      router := some
        { logDriver := some { hostEndpoint := some defaultLogEndpoint }
          firelens := some { ecsLogMetadata := some true, parseJson := some false }
          essential := some false
          dependencyEnabled := some false
          healthCheck := some
            { command := ["exit 0"]
              interval := some 5
              retries := some 3
              startPeriod := some 15
              timeout := some 5 }
          registry := some defaultRouterRegistry
          imageVersion := some defaultRouterVersion } }
  explorer := some { enabled := some true }

end TelemetryWiring.Fargate
