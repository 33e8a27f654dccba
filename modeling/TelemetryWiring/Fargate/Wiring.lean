import TelemetryWiring.Call
import TelemetryWiring.Fargate.AgentEnvironment
import TelemetryWiring.Fargate.Task

/-!
The wiring of a task. The containers of the wiring itself come first, in a fixed order: the Agent,
the preparation of workload security, the log router. Containers of applications follow and
receive the mounts, variables and dependencies that lead to those.
-/
namespace TelemetryWiring.Fargate

def socketVolume : String := "dd-sockets"

def socketMount : MountPoint := .readWrite socketVolume "/var/run/datadog"

/-- The addresses of the intakes in the mounted volume. -/
def dogstatsdSocketUrl : String := "unix:///var/run/datadog/dsd.socket"
def apmSocketUrl : String := "unix:///var/run/datadog/apm.socket"

def workloadSecurityVolume : String := "cws-instrumentation-volume"

def workloadSecurityPath : String := "/cws-instrumentation-volume"

def workloadSecurityMount : MountPoint := .readWrite workloadSecurityVolume workloadSecurityPath

/-- The command under which workload security runs an application. -/
def tracedCommand : List String :=
  ["/cws-instrumentation-volume/cws-instrumentation", "trace", "--"]

def tracingCapability : String := "SYS_PTRACE"

def agentPolicy : PolicyStatement where
  actions := ["ecs:ListClusters", "ecs:ListContainerInstances", "ecs:DescribeContainerInstances"]
  resources := ["*"]

namespace Config

/-- Whether the volume of the sockets is mounted, which only Linux can do. -/
def mountsSockets (c : Config) (linux : Bool) : Bool := linux && c.requestsSocket

/-- Whether an intake is reached through the network, be it because a socket cannot be mounted. -/
def needsAgentHost (c : Config) (linux : Bool) : Bool :=
  c.requestsNetwork || (!linux && c.requestsSocket)

/-- The secret that a container's runtime injects the key from. -/
def keySecret? (c : Config) : Option SecretRef :=
  match c.apiKey with
  | some (.secret ref) => some ref
  | some (.secretArn arn) => some { secretArn := arn }
  | _ => none

/-- The tags on every log line: the Agent's, then the name of the cluster. -/
def logTags (c : Config) : Option String :=
  let agentTags := c.agentEnvironment.get? "DD_TAGS"
  match c.clusterName with
  | some cluster =>
    some ((agentTags.map (· ++ ", ")).getD "" ++ "ecs_cluster_name:" ++ cluster)
  | none => agentTags

/-- The driver that ships a container's log through the router. -/
def logDriver (c : Config) : LogDriver :=
  let driver := c.logCollection.router.logDriver
  let optional : List (String × Option String) :=
    [("TLS", driver.tls), ("compress", driver.compress), ("dd_service", driver.serviceName),
     ("dd_source", driver.sourceName), ("dd_message_key", driver.messageKey),
     ("dd_tags", c.logTags), ("apikey", c.plainKey?)]
  { driver := "awsfirelens"
    options :=
      .ofList
        ([("Name", "datadog"), ("provider", "ecs"), ("retry_limit", "2"),
          ("Host", driver.hostEndpoint)] ++
          optional.filterMap fun (key, value) => value.map fun v => (key, v))
    secretOptions := .ofList (c.keySecret?.map fun ref => ("apikey", ref)).toList }

/-- The driver of every container, if logs are routed. -/
def logDriver? (c : Config) : Option LogDriver :=
  if c.logCollection.usesRouter then some c.logDriver else none

/-- What the Agent's container is made from. -/
def agentOptions (c : Config) (linux : Bool) : ContainerOptions where
  image := c.registry ++ ":" ++ c.imageVersion
  sizing := c.sizing
  essential := some c.agentEssential
  environment := c.agentEnvironment.values
  secrets := .ofList (c.keySecret?.map fun ref => ("DD_API_KEY", ref)).toList
  healthCheck := c.agentHealthCheck
  portMappings := [⟨8125, 8125, .udp⟩, ⟨8126, 8126, .tcp⟩]
  logging := if linux then c.logDriver? else none

/-- The container of the Agent. -/
def agentContainer (c : Config) (linux : Bool) : Container :=
  let agent := Container.ofOptions agentName (c.agentOptions linux)
  if c.mountsSockets linux then agent.mount socketMount else agent

/-- The container that copies the tracer of workload security into its volume. -/
def workloadSecurityContainer (c : Config) : Container :=
  (Container.ofOptions workloadSecurityName
    { image := "datadog/cws-instrumentation:latest"
      sizing := c.workloadSecurity.sizing
      essential := some false
      user := some "0"
      command :=
        some ["/cws-instrumentation", "setup", "--cws-volume-mount", workloadSecurityPath] }).mount
    workloadSecurityMount

/-- The container that routes the logs. -/
def logRouterContainer (c : Config) : Container :=
  let router := c.logCollection.router
  { Container.ofOptions logRouterName
      { image := router.registry ++ ":" ++ router.imageVersion
        sizing := router.sizing
        essential := some router.essential
        healthCheck := some router.healthCheck } with
    firelensConfig := some
      { routerType := "fluentbit"
        enableEcsLogMetadata := router.firelens.ecsLogMetadata
        configFileType := router.firelens.configFileType
        configFileValue := router.firelens.configFileValue } }

/-- A task with the containers of the wiring. -/
def managedTask (c : Config) (linux : Bool) (task : Task) : Task :=
  let task := task.addContainer (c.agentContainer linux)
  let task := if c.mountsSockets linux then task.addVolume socketVolume else task
  let task :=
    if c.workloadSecurity.enabled then
      (task.addVolume workloadSecurityVolume).addContainer c.workloadSecurityContainer
    else task
  let task := if c.logCollection.usesRouter then task.addContainer c.logRouterContainer else task
  (task.addPolicy agentPolicy).addTag Construct.tag.1 Construct.tag.2

end Config

/-- A task with its wiring, to which containers can be added. -/
structure WiredTask where
  task : Task
  config : Config
  linux : Bool
  diagnostics : List Diagnostic := []
  deriving DecidableEq, Repr

namespace WiredTask

/-- Resolves the settings over a caller's defaults, checks the platform and adds the containers of
the wiring. -/
def ofSettings (id : String) (task : TaskSettings) (settings defaults : Settings)
    (options : ValidationOptions) : Except WiringError WiredTask := do
  let resolved ← settings.resolve defaults options
  let found ← resolved.value.checkPlatform task.isLinux options
  return {
    task := resolved.value.managedTask task.isLinux (.ofSettings id task)
    config := resolved.value
    linux := task.isLinux
    diagnostics := resolved.diagnostics ++ found }

/-- The environment of the Agent's container. -/
def agentEnvironment (w : WiredTask) : EnvironmentLedger := w.config.agentEnvironment

/-- What a caller asks for, with the capability and the command of workload security and the log
driver where they apply. -/
def prepareOptions (w : WiredTask) (o : ContainerOptions) : ContainerOptions :=
  let secured :=
    if w.config.workloadSecurity.enabled then
      let capabilities := o.linuxCapabilities.getD []
      { o with
        linuxCapabilities := some
          (if capabilities.contains tracingCapability then capabilities
          else capabilities ++ [tracingCapability])
        entryPoint := o.entryPoint.map (tracedCommand ++ ·) }
    else o
  if w.config.logCollection.usesRouter then { secured with logging := some w.config.logDriver }
  else secured

/-- The identity of the service as the variables and labels of a container; empty values leave no
trace. -/
def identity (w : WiredTask) : ServiceIdentity where
  env := w.config.identity.env.filter (· ≠ "")
  service := w.config.identity.service.filter (· ≠ "")
  version := w.config.identity.version.filter (· ≠ "")

/-- The variables that lead an application to the Agent. -/
def applicationVariables (w : WiredTask) : List (String × String) :=
  let c := w.config
  (if c.mountsSockets w.linux then
    (if c.dogstatsdSocket then [("DD_DOGSTATSD_URL", dogstatsdSocketUrl)] else []) ++
    (if c.apmSocket then [("DD_TRACE_AGENT_URL", apmSocketUrl)] else [])
  else []) ++
  (if c.needsAgentHost w.linux then [("DD_AGENT_HOST", "127.0.0.1")] else []) ++
  (if c.apm.enabled && c.apm.profiling then [("DD_PROFILING_ENABLED", "true")] else []) ++
  (if c.apm.enabled && c.apm.inferredProxy then
    [("DD_TRACE_INFERRED_PROXY_SERVICES_ENABLED", "true")]
  else []) ++
  w.identity.under "DD_ENV" "DD_SERVICE" "DD_VERSION"

/-- The labels that carry the identity of the service. -/
def applicationLabels (w : WiredTask) : List (String × String) :=
  w.identity.under "tags.datadoghq.com/env" "tags.datadoghq.com/service"
    "tags.datadoghq.com/version"

/-- The containers of the wiring that an application waits for. -/
def awaited (w : WiredTask) : List String :=
  let c := w.config
  (if c.agentDependency && c.agentHealthCheck.isSome then [agentName] else []) ++
  (if c.logCollection.usesRouter && c.logCollection.router.dependencyEnabled then [logRouterName]
  else []) ++
  (if c.workloadSecurity.enabled then [workloadSecurityName] else [])

/-- The mounts that an application shares with the containers of the wiring. -/
def applicationMounts (w : WiredTask) : List MountPoint :=
  (if w.config.mountsSockets w.linux then [socketMount] else []) ++
  (if w.config.workloadSecurity.enabled then [workloadSecurityMount] else [])

/-- The container of an application as it joins the task. -/
def applicationContainer (w : WiredTask) (name : String) (o : ContainerOptions) : Container :=
  let plain := Container.ofOptions name (w.prepareOptions o)
  let waiting := w.awaited.foldl (fun c name => c.waitFor name .healthy) plain
  let mounted := w.applicationMounts.foldl (fun c point => c.mount point) waiting
  (mounted.setVariables w.applicationVariables).setLabels w.applicationLabels

/-- Whether a container may not take a name. -/
def isTaken (w : WiredTask) (name : String) : Bool :=
  reservedNames.contains name || w.task.hasContainer name

/-- Adds the container of an application under its own name or its id. Answers the container. -/
def addContainer (w : WiredTask) (id : String) (o : ContainerOptions) :
    Outcome WiredTask Container :=
  EStateM.run (do
    let name := o.containerName.getD id
    if (← get).isTaken name then throw (.containerNameTaken name)
    ofExcept (o.sizing.check name)
    let container := (← get).applicationContainer name o
    modify fun w => { w with task := w.task.addContainer container }
    return container) w

end WiredTask
end TelemetryWiring.Fargate
