import TelemetryWiring.Lambda.Environment

/-!
Redirection of a function to the handler that starts the tracer and then calls the function's own
handler.
-/
namespace TelemetryWiring

/-- The handler of a family whose functions are redirected by replacing theirs. With layers, the
one of Node lies in the layer. -/
def RuntimeFamily.tracerHandler? (family : RuntimeFamily) (addLayers : Bool) : Option String :=
  match family with
  | .node =>
    if addLayers then some "/opt/nodejs/node_modules/datadog-lambda-js/handler.handler"
    else some "node_modules/datadog-lambda-js/dist/handler.handler"
  | .python => some "datadog_lambda.handler.handler"
  | _ => none

namespace LambdaFunction

/-- The handler and the environment variables of a redirected function. Java and .NET start
through a wrapper. Node and Python get the tracer's handler, and the function's own is recorded
unless it is the tracer's already. Other supported runtimes only record theirs. -/
def redirection (f : LambdaFunction) (addLayers : Bool) : String × List (String × String) :=
  let family := RuntimeFamily.ofRuntime f.runtime
  match family with
  | .java | .dotnet => (f.handler, [Lambda.wrapperVariable])
  | .unsupported => (f.handler, [])
  | _ =>
    match family.tracerHandler? addLayers with
    | some handler =>
      if f.handler = handler then (handler, [])
      else (handler, [("DD_LAMBDA_HANDLER", f.handler)])
    | none => (f.handler, [("DD_LAMBDA_HANDLER", f.handler)])

/-- Redirects the function and reports the variables that it replaces. -/
def redirect (f : LambdaFunction) (addLayers : Bool) : Noted LambdaFunction :=
  let (handler, assignments) := f.redirection addLayers
  { f with handler := handler }.assign assignments

end LambdaFunction
end TelemetryWiring
