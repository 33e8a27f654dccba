/-!
The problems that abort the resolution of settings or the wiring of a definition, and their
texts. Nothing is wired when one of them arises.
-/
namespace TelemetryWiring

/-- What makes an API key necessary. -/
inductive KeyDemand where
  | lambdaExtension
  | directMetrics
  | agentContainer
  deriving DecidableEq, Repr

/-- The subject of the sentence that demands a key. -/
def KeyDemand.subject : KeyDemand → String
  | .lambdaExtension => "The Datadog Lambda Extension"
  | .directMetrics => "Disabling `flushMetricsToLogs`"
  | .agentContainer => "The Datadog Agent container"

/-- Names between backquotes, separated by commas and a final "and". -/
def enumerate (names : List String) : String :=
  let quoted := names.map fun name => "`" ++ name ++ "`"
  match quoted.reverse with
  | [] => ""
  | [only] => only
  | last :: before => String.intercalate ", " before.reverse ++ " and " ++ last

/-- The sites that accept telemetry. -/
def knownSites : List String :=
  ["datadoghq.com", "datadoghq.eu", "us3.datadoghq.com", "us5.datadoghq.com", "ap1.datadoghq.com",
   "ap2.datadoghq.com", "ddog-gov.com"]

/-- Settings that contradict each other or lack something. -/
inductive ConfigError where
  | invalidSite
  | missingApiKey (demand : KeyDemand) (candidates : List String)
  | conflictingApiKeys (names : List String)
  | protectionSetTwice
  | protectionUnsupported
  | mlAppMissing
  | mlAppMalformed
  | undefinedSetting (name : String)
  | healthCheckMissing
  | healthCheckWithoutCommand
  | loggingTypeMissing
  | workloadSecurityWithoutDependency
  | logRouterOffLinux
  | secretUnreadable (function : String)
  | loggingUnresolved (machine : String)
  deriving DecidableEq, Repr

def ConfigError.message : ConfigError → String
  | .invalidSite =>
    "Warning: Invalid site URL. Must be one of: " ++ String.intercalate ", " knownSites ++ "."
  | .missingApiKey demand candidates =>
    demand.subject ++ " requires an API key: set one of " ++ enumerate candidates ++ "."
  | .conflictingApiKeys names => enumerate names ++ " should not be set at the same time."
  | .protectionSetTwice =>
    "`datadogAppSecMode` and `enableDatadogASM` are mutually exclusive; set only `datadogAppSecMode`."
  | .protectionUnsupported =>
    "App and API Protection requires `enableDatadogTracing` and either `extensionLayerVersion` or `extensionLayerArn` when `datadogAppSecMode` or `enableDatadogASM` enable it."
  | .mlAppMissing => "When `llmObsEnabled` is true, `llmObsMlApp` must also be set."
  | .mlAppMalformed =>
    "`llmObsMlApp` must only contain up to 193 alphanumeric characters, hyphens, underscores, periods, and slashes."
  | .undefinedSetting name => "The `" ++ name ++ "` property must be defined."
  | .healthCheckMissing =>
    "The `datadogHealthCheck` property must be defined when `isDatadogDependencyEnabled` is true."
  | .healthCheckWithoutCommand => "The `command` property must be defined in `datadogHealthCheck`."
  | .loggingTypeMissing => "The `loggingType` property must be defined when logging enabled."
  | .workloadSecurityWithoutDependency =>
    "CWS configuration highly recommends Datadog Agent dependency enabled. The CWS tracer eventually exits the application if it can't connect to the Datadog Agent."
  | .logRouterOffLinux => "Fluent Bit logging is only supported on Linux."
  | .secretUnreadable function =>
    "`apiKeySecretArn` is not supported for Node runtimes (" ++ function ++
      ") when using Synchronous Metrics. Use either `apiKey` or `apiKmsKey`."
  | .loggingUnresolved machine =>
    "loggingConfiguration of " ++ machine ++
      " is an unresolved token. Step Function Instrumentation is not supported."

/-- Settings of the log forwarder that cannot be used. -/
inductive ForwarderError where
  | empty
  | malformed (arn : String)
  | permissionsWithoutForwarder
  | logGroupsWithoutForwarder (count : Nat)
  deriving DecidableEq, Repr

def ForwarderError.message : ForwarderError → String
  | .empty => "`forwarderArn` is set but empty"
  | .malformed arn => "`forwarderArn` '" ++ arn ++ "' is not a valid ARN"
  | .permissionsWithoutForwarder =>
    "`createForwarderPermissions` is set but no `forwarderArn` was provided"
  | .logGroupsWithoutForwarder count =>
    "Forwarding " ++ count.repr ++ " non Lambda log groups requires `forwarderArn`"

/-- What a container reserves. -/
inductive Resource where
  | cpu
  | memory
  deriving DecidableEq, Repr

namespace Resource

def unit : Resource → String
  | .cpu => "CPU units"
  | .memory => "MiB of memory"

/-- The smallest reservation that is accepted. -/
def minimum : Resource → UInt32
  | .cpu => 1
  | .memory => 6

end Resource

/-- A problem that aborts resolution or wiring. -/
inductive WiringError where
  | config (cause : ConfigError)
  | forwarder (cause : ForwarderError)
  | containerNameTaken (name : String)
  | undersized (container : String) (resource : Resource) (requested : UInt32)
  | emptyTag (key : String)
  | reservedKey (key : String)
  deriving DecidableEq, Repr

def WiringError.message : WiringError → String
  | .config cause => "Invalid configuration: " ++ cause.message
  | .forwarder cause => "Invalid forwarder configuration: " ++ cause.message
  | .containerNameTaken name =>
    "Container name '" ++ name ++ "' conflicts with an existing or Datadog-managed container"
  | .undersized container resource requested =>
    "Container '" ++ container ++ "' requests " ++ requested.toNat.repr ++ " " ++ resource.unit ++
      ", below the minimum of " ++ resource.minimum.toNat.repr
  | .emptyTag key => "Tag '" ++ key ++ "' must not be an empty string"
  | .reservedKey key => "Payload already contains the reserved key '" ++ key ++ "'"

end TelemetryWiring
