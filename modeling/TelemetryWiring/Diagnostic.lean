/-!
Findings that do not stop the wiring and are handed back with its result, in the order in which
they arise.
-/
namespace TelemetryWiring

inductive Diagnostic where
  /-- No library layer exists for the runtime, so none was attached. -/
  | unsupportedRuntime (resource runtime : String)
  /-- A library layer exists, but neither its version nor its ARN is set; the resource was not
  instrumented. -/
  | missingLayerVersion (resource runtime setting : String)
  /-- A socket was asked for where none can be mounted. -/
  | socketFallback (feature reason : String)
  /-- An environment variable held a different value, which was replaced. -/
  | variableOverwritten (resource key previous : String)
  | deprecated (setting replacement : String)
  deriving DecidableEq, Repr

def Diagnostic.message : Diagnostic → String
  | .unsupportedRuntime resource runtime =>
    "Unsupported runtime '" ++ runtime ++ "' for " ++ resource ++ ", skipping Datadog layers"
  | .missingLayerVersion resource runtime setting =>
    "Resource " ++ resource ++ " has a " ++ runtime ++ " runtime, but no " ++ runtime ++
      " Lambda Library version was provided. Please add the '" ++ setting ++
      "' parameter. Skipping instrumenting it"
  | .socketFallback feature reason =>
    feature ++ " socket disabled, falling back to TCP/UDP: " ++ reason
  | .variableOverwritten resource key previous =>
    "Overwriting environment variable " ++ key ++ " on " ++ resource ++ " (previous value '" ++
      previous ++ "')"
  | .deprecated setting replacement =>
    "'" ++ setting ++ "' is deprecated, use '" ++ replacement ++ "' instead"

/-- A result together with the findings made on the way to it. -/
structure Noted (α : Type) where
  value : α
  diagnostics : List Diagnostic
  deriving DecidableEq, Repr

end TelemetryWiring
