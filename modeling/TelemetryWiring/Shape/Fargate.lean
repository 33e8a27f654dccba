import TelemetryWiring.Fargate.Config
import TelemetryWiring.Fargate.Task
import TelemetryWiring.Shape.Base

/-!
The JSON forms of containers and tasks, and of the settings of their wiring.
-/
namespace TelemetryWiring

namespace Sizing

/-- Reservations among other fields. -/
def ofFields? (fields : Dict Json) : Option Sizing := do
  return {
    cpu := ← fields.optional "cpu"
    memoryMiB := ← fields.optional "memoryLimitMiB" }

/-- Both reservations, null for the one that is not made. -/
def toFields (s : Sizing) : List (String × Json) :=
  [("cpu", encode s.cpu), ("memoryLimitMiB", encode s.memoryMiB)]

/-- The reservations that are made. -/
def presentFields (s : Sizing) : List (String × Json) :=
  Json.present "cpu" s.cpu ++ Json.present "memoryLimitMiB" s.memoryMiB

/-- Both reservations in a configuration. -/
def configFields (s : Sizing) : List (String × Json) :=
  [("cpu", encode s.cpu), ("memory_limit_mib", encode s.memoryMiB)]

end Sizing

instance : Decode HealthCheck where
  decode? j := do
    let fields ← j.fields?
    return {
      command := ← fields.orElse "command" []
      interval := ← fields.optional "interval"
      retries := ← fields.optional "retries"
      startPeriod := ← fields.optional "startPeriod"
      timeout := ← fields.optional "timeout" }

instance : Encode HealthCheck where
  encode h := .object
    (("command", encode h.command) ::
      (Json.present "interval" h.interval ++ Json.present "retries" h.retries ++
        Json.present "startPeriod" h.startPeriod ++ Json.present "timeout" h.timeout))

instance : Decode Protocol := Decode.byName Protocol.name [.tcp, .udp]
instance : Encode Protocol := ⟨fun p => encode p.name⟩

instance : Decode PortMapping where
  decode? j := do
    let fields ← j.fields?
    return {
      containerPort := ← fields.required "containerPort"
      hostPort := ← fields.required "hostPort"
      protocol := ← fields.required "protocol" }

instance : Encode PortMapping where
  encode p := .object
    [("containerPort", encode p.containerPort), ("hostPort", encode p.hostPort),
     ("protocol", encode p.protocol)]

instance : Decode MountPoint where
  decode? j := do
    let fields ← j.fields?
    return {
      containerPath := ← fields.required "containerPath"
      sourceVolume := ← fields.required "sourceVolume"
      readOnly := ← fields.required "readOnly" }

instance : Encode MountPoint where
  encode m := .object
    [("containerPath", encode m.containerPath), ("sourceVolume", encode m.sourceVolume),
     ("readOnly", encode m.readOnly)]

instance : Decode DependencyCondition :=
  Decode.byName DependencyCondition.name [.start, .complete, .success, .healthy]
instance : Encode DependencyCondition := ⟨fun c => encode c.name⟩

instance : Decode ContainerDependency where
  decode? j := do
    let fields ← j.fields?
    return {
      containerName := ← fields.required "containerName"
      condition := ← fields.required "condition" }

instance : Encode ContainerDependency where
  encode d := .object
    [("containerName", encode d.containerName), ("condition", encode d.condition)]

instance : Decode FirelensConfig where
  decode? j := do
    let fields ← j.fields?
    return {
      routerType := ← fields.required "type"
      enableEcsLogMetadata := ← fields.required "enableEcsLogMetadata"
      configFileType := ← fields.optional "configFileType"
      configFileValue := ← fields.optional "configFileValue" }

instance : Encode FirelensConfig where
  encode f := .object
    ([("type", encode f.routerType), ("enableEcsLogMetadata", encode f.enableEcsLogMetadata)] ++
      Json.present "configFileType" f.configFileType ++
      Json.present "configFileValue" f.configFileValue)

instance : Decode LogDriver where
  decode? j := do
    let fields ← j.fields?
    return {
      driver := ← fields.required "driver"
      options := ← fields.orElse "options" .empty
      secretOptions := ← fields.orElse "secretOptions" .empty }

instance : Encode LogDriver where
  encode d := .object
    ([("driver", encode d.driver), ("options", encode d.options)] ++
      Json.nonemptyDict "secretOptions" d.secretOptions)

instance : Decode ContainerOptions where
  decode? j := do
    let fields ← j.fields?
    return {
      containerName := ← fields.optional "containerName"
      image := ← fields.orElse "image" ""
      sizing := ← Sizing.ofFields? fields
      essential := ← fields.optional "essential"
      environment := ← fields.orElse "environment" .empty
      secrets := ← fields.orElse "secrets" .empty
      healthCheck := ← fields.optional "healthCheck"
      portMappings := ← fields.orElse "portMappings" []
      entryPoint := ← fields.optional "entryPoint"
      command := ← fields.optional "command"
      user := ← fields.optional "user"
      dockerLabels := ← fields.orElse "dockerLabels" .empty
      logging := ← fields.optional "logging"
      linuxCapabilities := ← fields.optional "linuxCapabilities" }

instance : Encode ContainerOptions where
  encode o := .object
    ([("containerName", encode o.containerName), ("image", encode o.image),
      ("essential", encode o.essential), ("environment", encode o.environment),
      ("secrets", encode o.secrets), ("healthCheck", encode o.healthCheck),
      ("portMappings", encode o.portMappings), ("entryPoint", encode o.entryPoint),
      ("command", encode o.command), ("user", encode o.user),
      ("dockerLabels", encode o.dockerLabels), ("logging", encode o.logging),
      ("linuxCapabilities", encode o.linuxCapabilities)] ++ o.sizing.toFields)

instance : Encode Container where
  encode c := .object
    ([("name", encode c.name), ("image", encode c.image), ("essential", encode c.essential),
      ("environment", encode c.environment)] ++
      c.sizing.presentFields ++
      Json.nonemptyDict "secrets" c.secrets ++
      Json.present "healthCheck" c.healthCheck ++
      Json.nonemptyList "portMappings" c.portMappings ++
      Json.nonemptyList "mountPoints" c.mountPoints ++
      Json.nonemptyDict "dockerLabels" c.dockerLabels ++
      Json.present "logging" c.logging ++
      Json.present "entryPoint" c.entryPoint ++
      Json.present "command" c.command ++
      Json.present "user" c.user ++
      Json.nonemptyList "linuxCapabilities" c.linuxCapabilities ++
      Json.present "firelensConfig" c.firelensConfig ++
      Json.nonemptyList "dependsOn" c.dependsOn)

instance : Decode OperatingSystem := Decode.byName OperatingSystem.name OperatingSystem.all
instance : Encode OperatingSystem := ⟨fun o => encode o.name⟩

instance : Decode RuntimePlatform where
  decode? j := do
    let fields ← j.fields?
    return {
      operatingSystem := ← fields.optional "operatingSystemFamily"
      cpuArchitecture := ← fields.optional "cpuArchitecture" }

instance : Encode RuntimePlatform where
  encode p := .object
    [("operatingSystemFamily", encode p.operatingSystem),
     ("cpuArchitecture", encode p.cpuArchitecture)]

instance : Decode TaskSettings where
  decode? j := do
    let fields ← j.fields?
    return {
      family := ← fields.optional "family"
      sizing := ← Sizing.ofFields? fields
      runtimePlatform := ← fields.optional "runtimePlatform" }

instance : Encode TaskSettings where
  encode s := .object
    ([("family", encode s.family), ("runtimePlatform", encode s.runtimePlatform)] ++
      s.sizing.toFields)

instance : Encode PolicyStatement where
  encode p := .object [("actions", encode p.actions), ("resources", encode p.resources)]

instance : Encode Task where
  encode t := .object
    ([("id", encode t.id), ("family", encode t.family), ("containers", encode t.containers),
      ("volumes", .arr (t.volumes.map fun name => .object [("name", encode name)])),
      ("taskRolePolicies", encode t.rolePolicies), ("tags", encode t.tags)] ++
      t.sizing.presentFields ++
      Json.present "runtimePlatform" t.runtimePlatform)

namespace Fargate

instance : Decode ApmSettings where
  decode? j := do
    let fields ← j.fields?
    return {
      enabled := ← fields.optional "isEnabled"
      socket := ← fields.optional "isSocketEnabled"
      profiling := ← fields.optional "isProfilingEnabled"
      inferredProxy := ← fields.optional "traceInferredProxyServices" }

instance : Encode ApmSettings where
  encode s := .object
    [("isEnabled", encode s.enabled), ("isSocketEnabled", encode s.socket),
     ("isProfilingEnabled", encode s.profiling),
     ("traceInferredProxyServices", encode s.inferredProxy)]

instance : Encode ApmConfig where
  encode c := .object
    [("is_enabled", encode c.enabled), ("is_socket_enabled", encode c.socket),
     ("is_profiling_enabled", encode c.profiling),
     ("trace_inferred_proxy_services", encode c.inferredProxy)]

instance : Decode DogstatsdSettings where
  decode? j := do
    let fields ← j.fields?
    return {
      enabled := ← fields.optional "isEnabled"
      socket := ← fields.optional "isSocketEnabled"
      originDetection := ← fields.optional "isOriginDetectionEnabled"
      cardinality := ← fields.optional "dogstatsdCardinality" }

instance : Encode DogstatsdSettings where
  encode s := .object
    [("isEnabled", encode s.enabled), ("isSocketEnabled", encode s.socket),
     ("isOriginDetectionEnabled", encode s.originDetection),
     ("dogstatsdCardinality", encode s.cardinality)]

instance : Encode DogstatsdConfig where
  encode c := .object
    [("is_enabled", encode c.enabled), ("is_socket_enabled", encode c.socket),
     ("is_origin_detection_enabled", encode c.originDetection),
     ("dogstatsd_cardinality", encode c.cardinality)]

instance : Decode WorkloadSecuritySettings where
  decode? j := do
    let fields ← j.fields?
    return {
      enabled := ← fields.optional "isEnabled"
      sizing := ← Sizing.ofFields? fields }

instance : Encode WorkloadSecuritySettings where
  encode s := .object (("isEnabled", encode s.enabled) :: s.sizing.toFields)

instance : Encode WorkloadSecurityConfig where
  encode c := .object (("is_enabled", encode c.enabled) :: c.sizing.configFields)

instance : Decode LogDriverSettings where
  decode? j := do
    let fields ← j.fields?
    return {
      hostEndpoint := ← fields.optional "hostEndpoint"
      tls := ← fields.optional "tls"
      compress := ← fields.optional "compress"
      serviceName := ← fields.optional "serviceName"
      sourceName := ← fields.optional "sourceName"
      messageKey := ← fields.optional "messageKey" }

instance : Encode LogDriverSettings where
  encode s := .object
    [("hostEndpoint", encode s.hostEndpoint), ("tls", encode s.tls),
     ("compress", encode s.compress), ("serviceName", encode s.serviceName),
     ("sourceName", encode s.sourceName), ("messageKey", encode s.messageKey)]

instance : Encode LogDriverConfig where
  encode c := .object
    [("host_endpoint", encode c.hostEndpoint), ("tls", encode c.tls),
     ("compress", encode c.compress), ("service_name", encode c.serviceName),
     ("source_name", encode c.sourceName), ("message_key", encode c.messageKey)]

instance : Decode FirelensSettings where
  decode? j := do
    let fields ← j.fields?
    return {
      configFileType := ← fields.optional "configFileType"
      configFileValue := ← fields.optional "configFileValue"
      ecsLogMetadata := ← fields.optional "enableECSLogMetadata"
      parseJson := ← fields.optional "isParseJson" }

instance : Encode FirelensSettings where
  encode s := .object
    [("configFileType", encode s.configFileType), ("configFileValue", encode s.configFileValue),
     ("enableECSLogMetadata", encode s.ecsLogMetadata), ("isParseJson", encode s.parseJson)]

instance : Encode FirelensOptions where
  encode o := .object
    [("config_file_type", encode o.configFileType), ("config_file_value", encode o.configFileValue),
     ("enable_ecs_log_metadata", encode o.ecsLogMetadata), ("is_parse_json", encode o.parseJson)]

instance : Decode LogRouterSettings where
  decode? j := do
    let fields ← j.fields?
    return {
      logDriver := ← fields.optional "logDriverConfig"
      firelens := ← fields.optional "firelensOptions"
      essential := ← fields.optional "isLogRouterEssential"
      dependencyEnabled := ← fields.optional "isLogRouterDependencyEnabled"
      healthCheck := ← fields.optional "logRouterHealthCheck"
      registry := ← fields.optional "registry"
      imageVersion := ← fields.optional "imageVersion"
      sizing := ← Sizing.ofFields? fields }

instance : Encode LogRouterSettings where
  encode s := .object
    ([("logDriverConfig", encode s.logDriver), ("firelensOptions", encode s.firelens),
      ("isLogRouterEssential", encode s.essential),
      ("isLogRouterDependencyEnabled", encode s.dependencyEnabled),
      ("logRouterHealthCheck", encode s.healthCheck), ("registry", encode s.registry),
      ("imageVersion", encode s.imageVersion)] ++ s.sizing.toFields)

instance : Encode LogRouterConfig where
  encode c := .object
    ([("log_driver", encode c.logDriver), ("firelens_options", encode c.firelens),
      ("is_log_router_essential", encode c.essential),
      ("is_log_router_dependency_enabled", encode c.dependencyEnabled),
      ("log_router_health_check", encode c.healthCheck), ("registry", encode c.registry),
      ("image_version", encode c.imageVersion)] ++ c.sizing.configFields)

def LoggingType.name : LoggingType → String
  | .fluentBit => "fluentbit"

instance : Decode LoggingType := Decode.byName LoggingType.name [.fluentBit]
instance : Encode LoggingType := ⟨fun t => encode t.name⟩

instance : Decode LogCollectionSettings where
  decode? j := do
    let fields ← j.fields?
    return {
      enabled := ← fields.optional "isEnabled"
      loggingType := ← fields.optional "loggingType"
      router := ← fields.optional "fluentbitConfig" }

instance : Encode LogCollectionSettings where
  encode s := .object
    [("isEnabled", encode s.enabled), ("loggingType", encode s.loggingType),
     ("fluentbitConfig", encode s.router)]

instance : Encode LogCollectionConfig where
  encode c := .object
    [("is_enabled", encode c.enabled), ("logging_type", encode c.loggingType),
     ("fluentbit", encode c.router)]

instance : Decode ExplorerSettings where
  decode? j := do
    let fields ← j.fields?
    return {
      enabled := ← fields.optional "isEnabled"
      url := ← fields.optional "url" }

instance : Encode ExplorerSettings where
  encode s := .object [("isEnabled", encode s.enabled), ("url", encode s.url)]

instance : Encode ExplorerConfig where
  encode c := .object [("is_enabled", encode c.enabled), ("url", encode c.url)]

instance : Decode Settings where
  decode? j := do
    let fields ← j.fields?
    return {
      apiKeys :=
        { plain := ← fields.optional "apiKey"
          secret := ← fields.optional "apiKeySecret"
          secretArn := ← fields.optional "apiKeySecretArn" }
      registry := ← fields.optional "registry"
      imageVersion := ← fields.optional "imageVersion"
      sizing := ← Sizing.ofFields? fields
      agentEssential := ← fields.optional "isDatadogEssential"
      agentDependency := ← fields.optional "isDatadogDependencyEnabled"
      agentHealthCheck := ← fields.optional "datadogHealthCheck"
      site := ← fields.optional "site"
      clusterName := ← fields.optional "clusterName"
      environment := ← fields.optional "environmentVariables"
      globalTags := ← fields.optional "globalTags"
      checksCardinality := ← fields.optional "checksCardinality"
      identity := ← ServiceIdentity.ofFields? fields
      apm := ← fields.optional "apm"
      dogstatsd := ← fields.optional "dogstatsd"
      workloadSecurity := ← fields.optional "cws"
      logCollection := ← fields.optional "logCollection"
      explorer := ← fields.optional "orchestratorExplorer" }

instance : Encode Settings where
  encode s := .object
    ([("apiKey", encode s.apiKeys.plain),
      ("apiKeySecret", encode s.apiKeys.secret),
      ("apiKeySecretArn", encode s.apiKeys.secretArn),
      ("registry", encode s.registry),
      ("imageVersion", encode s.imageVersion),
      ("isDatadogEssential", encode s.agentEssential),
      ("isDatadogDependencyEnabled", encode s.agentDependency),
      ("datadogHealthCheck", encode s.agentHealthCheck),
      ("site", encode s.site),
      ("clusterName", encode s.clusterName),
      ("environmentVariables", encode s.environment),
      ("globalTags", encode s.globalTags),
      ("checksCardinality", encode s.checksCardinality),
      ("apm", encode s.apm),
      ("dogstatsd", encode s.dogstatsd),
      ("cws", encode s.workloadSecurity),
      ("logCollection", encode s.logCollection),
      ("orchestratorExplorer", encode s.explorer)] ++
     s.sizing.toFields ++ s.identity.toFields)

instance : Encode Config where
  encode c := .object
    ([("api_key", encode c.apiKey),
      ("registry", encode c.registry),
      ("image_version", encode c.imageVersion),
      ("is_datadog_essential", encode c.agentEssential),
      ("is_datadog_dependency_enabled", encode c.agentDependency),
      ("datadog_health_check", encode c.agentHealthCheck),
      ("site", encode c.site),
      ("cluster_name", encode c.clusterName),
      ("environment_variables", encode c.environment),
      ("global_tags", encode c.globalTags),
      ("checks_cardinality", encode c.checksCardinality),
      ("apm", encode c.apm),
      ("dogstatsd", encode c.dogstatsd),
      ("cws", encode c.workloadSecurity),
      ("log_collection", encode c.logCollection),
      ("orchestrator_explorer", encode c.explorer)] ++
     c.sizing.configFields ++ c.identity.toFields)

end Fargate
end TelemetryWiring
