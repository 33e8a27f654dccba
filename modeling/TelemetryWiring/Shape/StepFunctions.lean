import TelemetryWiring.Shape.Base
import TelemetryWiring.StepFunctions.Payload
import TelemetryWiring.StepFunctions.Settings
import TelemetryWiring.StepFunctions.StateMachine

/-!
The JSON forms of state machines and of the settings of their instrumentation.
-/
namespace TelemetryWiring

instance : Decode LogLevel := Decode.byName LogLevel.name [.off, .all, .error, .fatal]
instance : Encode LogLevel := ⟨fun level => encode level.name⟩

instance : Decode LoggingConfiguration where
  decode? j := do
    let fields ← j.fields?
    return {
      level := ← fields.orElse "level" .off
      includeExecutionData := ← fields.orElse "includeExecutionData" false
      destination := ← fields.optional "destination" }

instance : Encode LoggingConfiguration where
  encode c := .object
    ([("level", encode c.level), ("includeExecutionData", encode c.includeExecutionData)] ++
      Json.present "destination" c.destination)

/-- A text is logging that is not known yet, an object is logging that is. No whole number in it may
need more than sixty-four bits, also where it counts for nothing. -/
instance : Decode Logging where
  decode?
    | .str token => some (.unresolved token)
    | j => if j.fitsWords then (decode? j).map .configured else none

instance : Encode Logging where
  encode
    | .unresolved token => encode token
    | .configured configuration => encode configuration

instance : Decode StateMachine where
  decode? j := do
    let fields ← j.fields?
    return {
      name := ← fields.required "name"
      arn := ← fields.required "arn"
      path := ← fields.optional "path"
      tags := ← fields.orElse "tags" .empty
      logging := ← fields.optional "logging" }

instance : Encode StateMachine where
  encode m := .object
    ([("name", encode m.name), ("arn", encode m.arn), ("tags", encode m.tags)] ++
      Json.present "path" m.path ++ Json.present "logging" m.logging)

instance : Decode TaskKind := Decode.byName TaskKind.name [.lambda, .execution]
instance : Encode TaskKind := ⟨fun kind => encode kind.name⟩

namespace StepFunctions

instance : Decode Settings where
  decode? j := do
    let fields ← j.fields?
    return {
      identity := ← ServiceIdentity.ofFields? fields
      forwarderArn := ← fields.optional "forwarderArn"
      tags := ← fields.optional "tags" }

instance : Encode Settings where
  encode s := .object
    ([("forwarderArn", encode s.forwarderArn), ("tags", encode s.tags)] ++ s.identity.toFields)

instance : Encode Config where
  encode c := .object
    ([("forwarder_arn", encode c.forwarderArn), ("tags", encode c.tags)] ++ c.identity.toFields)

end StepFunctions
end TelemetryWiring
