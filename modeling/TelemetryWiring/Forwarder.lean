import TelemetryWiring.Digest.Sha256
import TelemetryWiring.LogGroup
import TelemetryWiring.Text.Blank
import TelemetryWiring.Validation

/-!
Forwarding of logs through a forwarder function. The name of a filter is derived from its source
and its forwarder, so that subscribing again finds the filter already attached.
-/
namespace TelemetryWiring

/-- The name of a filter: a fixed word and the last eight digits of the digest of both ARNs. -/
def filterName (sourceArn forwarderArn : String) : String :=
  let digest := (Digest.sha256Hex (sourceArn ++ forwarderArn)).toList
  "DatadogSubscriptionFilter" ++ .ofList (digest.drop (digest.length - 8))

/-- Subscribes a log group to a forwarder on behalf of a source. -/
def LogGroup.subscribe (group : LogGroup) (sourceArn forwarderArn : String) (permissions : Bool) :
    LogGroup :=
  group.addFilter
    { name := filterName sourceArn forwarderArn
      destinationArn := forwarderArn
      addPermissions := permissions }

/-- Subscribes log groups that stand for themselves as sources. -/
def subscribeAll (groups : List LogGroup) (forwarderArn : String) (permissions : Bool) :
    List LogGroup :=
  groups.map fun group => group.subscribe group.name forwarderArn permissions

/-- Refuses a forwarder that no log group can be subscribed to. Blanks around it are ignored. -/
def checkForwarderArn (arn : String) : Except WiringError Unit :=
  let arn := Text.trim arn
  if arn = "" then .error (.forwarder .empty)
  else if Text.startsWith arn "arn:" || isToken arn then .ok ()
  else .error (.forwarder (.malformed arn))

end TelemetryWiring
