import TelemetryWiring.Json.Token

/-!
Values that are written together with their sources. Where a value comes from is a number, which
counts for nothing in a stack: a value with its source is read as the value.
-/
namespace TelemetryWiring

/-- The key of the number that tells a source. -/
def sourceKey : String := "___figment_value_id"

/-- The key of a value that is written with its source. -/
def sourcedValueKey : String := "___figment_value_value"

/-- Whether a value tells a source: it is a whole number of sixty-four bits. -/
def isSource : Json → Bool
  | .num (.whole n) => Number.fitsWord n
  | _ => false

/-- What fields amount to that may be a value with its source. Every source has to be one, and other
fields beside a value with its source count for nothing. -/
def sourcedFields? : Json.FieldRule := fun fields =>
  if !(fields.all fun (key, value) => key ≠ sourceKey || isSource value) then none
  else
    match fields.reverse.lookup sourcedValueKey with
    | some value => some value
    | none => some (.object (fields.filter (·.1 ≠ sourceKey)))

example : sourcedFields? [(sourceKey, .num (.whole 1)), ("a", .null)] =
    some (.object [("a", .null)]) := by decide +kernel
example : sourcedFields? [(sourcedValueKey, .bool true), ("a", .null)] = some (.bool true) := by
  decide +kernel

end TelemetryWiring
