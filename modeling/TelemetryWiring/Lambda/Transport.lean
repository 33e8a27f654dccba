import TelemetryWiring.Lambda.Config

/-!
How the telemetry of an instrumented function leaves it: through the logs, through the extension,
or straight to the site.
-/
namespace TelemetryWiring.Lambda

structure Transport where
  flushMetricsToLogs : Bool
  site : String
  apiKey : Option ApiKeySource := none
  extension : LayerPin := {}
  deriving DecidableEq, Repr

/-- The text of a switch in an environment. -/
def switchText (on : Bool) : String := if on then "true" else "false"

namespace Transport

/-- Metrics go to the logs unless that is turned off or the extension is chosen. -/
def ofChoices (flushMetricsToLogs : Option Bool) (site : Option String)
    (apiKey : Option ApiKeySource) (extension : LayerPin) : Transport where
  flushMetricsToLogs := flushMetricsToLogs.getD true && !extension.isSet
  site := site.getD defaultSite
  apiKey := apiKey
  extension := extension

def ofConfig (c : Config) : Transport :=
  ofChoices (some c.flushMetricsToLogs) (some c.site) c.apiKey c.layers.extension

def usesExtension (t : Transport) : Bool := t.extension.isSet

/-- The secret that an instrumented function reads its key from. -/
def secretArn? (t : Transport) : Option String := t.apiKey.bind (·.secretArn?)

/-- A function of the Node family that sends metrics itself cannot read a key from a secret. -/
def check (t : Transport) (f : LambdaFunction) : Except WiringError Unit :=
  if RuntimeFamily.ofRuntime f.runtime = .node && t.secretArn?.isSome && !t.flushMetricsToLogs &&
      !t.usesExtension then
    .error (.config (.secretUnreadable f.name))
  else .ok ()

/-- The variable that hands a key source to the function. -/
def keyVariable : ApiKeySource → String × String
  | .plain key => ("DD_API_KEY", key)
  | .kmsEncrypted ciphertext => ("DD_KMS_API_KEY", ciphertext)
  | .secretArn arn => ("DD_API_KEY_SECRET_ARN", arn)
  | .secret ref => ("DD_API_KEY_SECRET_ARN", ref.secretArn)

/-- The environment variables that direct the telemetry; the site is only needed off the logs. -/
def assignments (t : Transport) : List (String × String) :=
  ("DD_FLUSH_TO_LOG", switchText t.flushMetricsToLogs) ::
    ((if t.flushMetricsToLogs then [] else [("DD_SITE", t.site)]) ++
      (t.apiKey.map keyVariable).toList)

end Transport
end TelemetryWiring.Lambda
