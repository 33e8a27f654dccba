import TelemetryWiring.Construct
import TelemetryWiring.Fargate.Config

/-!
The environment of the Agent's container: defaults, then what the caller asks for, then what the
configuration says. A ledger keeps the values and remembers which of them replaced another.
-/
namespace TelemetryWiring.Fargate

/-- A value in force, and whether it replaced an earlier one. -/
structure LedgerEntry where
  value : String
  replaces : Bool
  deriving DecidableEq, Repr

/-- Environment variables with the history that matters of each. -/
structure EnvironmentLedger where
  entries : Dict LedgerEntry := .empty
  deriving DecidableEq, Repr

namespace EnvironmentLedger

/-- Writes a variable; the last write wins, and a second write is remembered as one. -/
def write (l : EnvironmentLedger) (key value : String) : EnvironmentLedger :=
  ⟨l.entries.insert key ⟨value, l.entries.contains key⟩⟩

/-- Writes variables in turn. -/
def writeAll (l : EnvironmentLedger) (assignments : List (String × String)) : EnvironmentLedger :=
  assignments.foldl (fun l (key, value) => l.write key value) l

/-- The value of a variable. -/
def get? (l : EnvironmentLedger) (key : String) : Option String :=
  (l.entries.get? key).map (·.value)

/-- The values of all variables. -/
def values (l : EnvironmentLedger) : Dict String := l.entries.mapValues (·.value)

/-- The variables written more than once, in order. -/
def overwritten (l : EnvironmentLedger) : List String :=
  (l.entries.toList.filter (·.2.replaces)).map (·.1)

end EnvironmentLedger

/-- The variables of every task on Fargate. -/
def fargateDefaults : List (String × String) :=
  [("DD_ECS_TASK_COLLECTION_ENABLED", "true"), ("ECS_FARGATE", "true")]

namespace Config

/-- The key, where it is known in plain text. -/
def plainKey? (c : Config) : Option String :=
  match c.apiKey with
  | some (.plain key) => some key
  | _ => none

/-- The variables that a configuration defines, in the order in which they are written. A switch
or a value that is not set defines none. -/
def agentVariables (c : Config) : List (String × String) :=
  let optional (key : String) (value : Option String) : List (String × String) :=
    (value.map fun v => (key, v)).toList
  [("DD_INSTALL_INFO_TOOL", "cdk"),
   ("DD_INSTALL_INFO_TOOL_VERSION", Construct.name),
   ("DD_INSTALL_INFO_INSTALLER_VERSION", Construct.version)] ++
  optional "DD_API_KEY" c.plainKey? ++
  [("DD_SITE", c.site)] ++
  c.identity.under "DD_ENV" "DD_SERVICE" "DD_VERSION" ++
  optional "DD_CHECKS_TAG_CARDINALITY" (c.checksCardinality.map (·.name)) ++
  optional "DD_TAGS" c.globalTags ++
  optional "DD_CLUSTER_NAME" c.clusterName ++
  (if c.dogstatsd.originDetection then
    [("DD_DOGSTATSD_ORIGIN_DETECTION", "true"), ("DD_DOGSTATSD_ORIGIN_DETECTION_CLIENT", "true")]
  else []) ++
  [("DD_DOGSTATSD_TAG_CARDINALITY", c.dogstatsd.cardinality.name)] ++
  (if c.workloadSecurity.enabled then
    [("DD_RUNTIME_SECURITY_CONFIG_ENABLED", "true"),
     ("DD_RUNTIME_SECURITY_CONFIG_EBPFLESS_ENABLED", "true")]
  else []) ++
  [("DD_ECS_TASK_COLLECTION_ENABLED", if c.explorer.enabled then "true" else "false")] ++
  optional "DD_ORCHESTRATOR_EXPLORER_ORCHESTRATOR_DD_URL" c.explorer.url

/-- The Agent's environment. -/
def agentEnvironment (c : Config) : EnvironmentLedger :=
  (({} : EnvironmentLedger).writeAll fargateDefaults).writeAll c.environment.toList |>.writeAll
    c.agentVariables

end Config
end TelemetryWiring.Fargate
