import TelemetryWiring.Git
import TelemetryWiring.Lambda.Transport
import TelemetryWiring.Tags

/-!
The environment variables that an instrumented function receives, as lists to be written in turn,
and the tag list among them, which is merged with what the function already carries.
-/
namespace TelemetryWiring

/-- A variable that is written only when it has a value. -/
def whenSet (key : String) (value : Option String) : List (String × String) :=
  (value.map fun v => (key, v)).toList

namespace Lambda

/-- The program that starts the runtime in place of the usual one. -/
def wrapperPath : String := "/opt/datadog_wrapper"

def wrapperVariable : String × String := ("AWS_LAMBDA_EXEC_WRAPPER", wrapperPath)

/-- The variables that turn protection on where it runs. -/
def ProtectionMode.switches : ProtectionMode → List (String × String)
  | .off => []
  | .extension => [("DD_SERVERLESS_APPSEC_ENABLED", "true"), wrapperVariable]
  | .tracer => [("DD_APPSEC_ENABLED", "true")]
  | .on =>
    [("DD_SERVERLESS_APPSEC_ENABLED", "true"), ("DD_APPSEC_ENABLED", "true"), wrapperVariable]

namespace Config

/-- The switches that every instrumented function receives. -/
def featureVariables (c : Config) : List (String × String) :=
  [("DD_TRACE_ENABLED", switchText c.tracing),
   ("DD_MERGE_XRAY_TRACES", switchText c.mergeXrayTraces),
   ("DD_LOGS_INJECTION", switchText c.injectLogContext),
   ("DD_SERVERLESS_LOGS_ENABLED", switchText c.collectLogs),
   ("DD_CAPTURE_LAMBDA_PAYLOAD", switchText c.capturePayload)] ++
  (if c.captureCloudPayload then
    [("DD_TRACE_CLOUD_REQUEST_PAYLOAD_TAGGING", "all"),
     ("DD_TRACE_CLOUD_RESPONSE_PAYLOAD_TAGGING", "all")]
  else []) ++
  whenSet "DD_LOG_LEVEL" c.tracer.logLevel ++
  ProtectionMode.switches c.protectionMode

/-- The variables of the observability of language models. -/
def llmObsVariables (c : Config) : List (String × String) :=
  if c.llmObs then
    ("DD_LLMOBS_ENABLED", "true") ::
      (whenSet "DD_LLMOBS_ML_APP" c.tracer.llmObsMlApp ++
        whenSet "DD_LLMOBS_AGENTLESS_ENABLED" (c.tracer.llmObsAgentless.map switchText))
  else []

/-- The service's identity, which only the extension reads here, and the tracer's settings. -/
def serviceVariables (c : Config) : List (String × String) :=
  (if c.usesExtension then c.identity.under "DD_ENV" "DD_SERVICE" "DD_VERSION" else []) ++
  whenSet "DD_COLD_START_TRACING" (c.tracer.coldStartTracing.map switchText) ++
  whenSet "DD_MIN_COLD_START_DURATION" (c.tracer.minColdStartDuration.map (·.toNat.repr)) ++
  whenSet "DD_COLD_START_TRACE_SKIP_LIB" c.tracer.coldStartSkipLibs ++
  whenSet "DD_PROFILING_ENABLED" (c.tracer.profiling.map switchText) ++
  whenSet "DD_ENCODE_AUTHORIZER_CONTEXT" (c.tracer.encodeAuthorizerContext.map switchText) ++
  whenSet "DD_DECODE_AUTHORIZER_CONTEXT" (c.tracer.decodeAuthorizerContext.map switchText) ++
  whenSet "DD_APM_FLUSH_DEADLINE_MILLISECONDS" c.tracer.apmFlushDeadline ++
  c.llmObsVariables

end Config
end Lambda

namespace LambdaFunction

/-- The tags that the function's environment carries. -/
def carriedTags (f : LambdaFunction) : Tags :=
  match f.environment.get? "DD_TAGS" with
  | some text => Tags.parse text
  | none => .empty

/-- Writes the tag list: what the function carries, then the configured tags when the extension
reads them, then the source's metadata. An empty list is not written. -/
def writeTags (f : LambdaFunction) (c : Lambda.Config) (git : GitMetadata) : LambdaFunction :=
  let configured := if c.usesExtension then Tags.parse (c.tags.getD "") else .empty
  let tags := (f.carriedTags.merge configured).setAll git.tags
  if tags.isEmpty then f else f.setVariable "DD_TAGS" tags.render

/-- Writes the source's metadata over the tags that the function carries, if there is any. -/
def writeGitTags (f : LambdaFunction) (git : GitMetadata) : LambdaFunction :=
  if git.tags.isEmpty then f
  else f.setVariable "DD_TAGS" (f.carriedTags.setAll git.tags).render

end LambdaFunction
end TelemetryWiring
