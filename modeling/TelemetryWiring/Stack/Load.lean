import TelemetryWiring.Json.Text
import TelemetryWiring.Shape.Stack
import TelemetryWiring.Stack.Override
import TelemetryWiring.Stack.Sourced
import TelemetryWiring.Yaml.Document

/-!
Loading of a stack from the text of its file and the process environment.
-/
namespace TelemetryWiring

/-- The notation of a stack file. -/
inductive StackFormat where
  | json
  | yaml
  deriving DecidableEq, Repr

namespace StackFormat

/-- The notation that the end of a file's name tells. A name that only begins with a point has no
such end. -/
def ofFileName? (name : String) : Option StackFormat :=
  match Text.afterLast? '.' name.toList with
  | none => none
  | some ending =>
    if ending.length + 1 = name.length then none
    else if ending = "json".toList then some .json
    else if ending = "yaml".toList || ending = "yml".toList then some .yaml
    else none

/-- Reads the fields of a text in the notation; of fields with one key the last counts. Values
inside them may be written with their sources. -/
def parse? (format : StackFormat) (text : String) : Option (Dict Json) :=
  (match format with
  | .json => Json.parseFields? sourcedFields? text
  | .yaml => Yaml.parseFields? sourcedFields? text).map .ofList

end StackFormat

/-- A description in which the payload of a task without a value is empty. -/
def withPayloads : Json → Json :=
  .mapField "stepFunctions" <| .mapField "taskPayloads" <| .mapItems <| .mapField "payload" fun
    | .null => .obj []
    | payload => payload

/-- The stack that a file describes, with the values that the environment replaces. A stack of which
a record is written as an array is refused, see `Json.fields?`. -/
def Stack.load? (fileName text : String) (environment : Dict String) : Option Stack := do
  let format ← StackFormat.ofFileName? fileName
  let fields ← format.parse? text
  decode? (withPayloads (Override.apply (.ofDict fields) environment))

end TelemetryWiring
