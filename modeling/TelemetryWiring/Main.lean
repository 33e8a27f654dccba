import TelemetryWiring.Json.Text
import TelemetryWiring.Shape.Stack
import TelemetryWiring.Stack.Load

/-!
The command line. It loads a stack file, synthesizes the stack and prints the instrumented
definitions. Where the source comes from is taken from the stack alone.
-/
namespace TelemetryWiring.CommandLine

/-- The variables in the listing of a process environment, whose entries end with a NUL. -/
def variablesOfListing (listing : String) : Dict String :=
  .ofList ((listing.toList.splitOn '\x00').filterMap fun entry =>
    (Text.cut? ['='] entry).map fun (name, value) => (.ofList name, .ofList value))

/-- The file to load: the first argument, or what the environment names. -/
def stackFile? (arguments : List String) (environment : Dict String) : Option String :=
  arguments.head?.or (environment.get? "DD_CDK_STACK_FILE")

def usage : String := "usage: datadog-cdk-synth <stack file>, or set DD_CDK_STACK_FILE"

/-- The last part of a path, which alone tells the notation of a file. -/
def fileName (path : String) : String :=
  .ofList ((Text.afterLast? '/' path.toList).getD path.toList)

/-- The definitions for the text of a file, or what to complain about. -/
def synthesize (path text : String) (environment : Dict String) : Except String String :=
  match Stack.load? (fileName path) text environment with
  | none => .error ("invalid stack file " ++ path)
  | some stack =>
    match stack.synthesize (.ofEnvironment environment) {} with
    | .ok result => .ok (encode result).render
    | .error e => .error e.message

/-- The environment of the running process. -/
def processEnvironment : IO (Dict String) := do
  let bytes ← IO.FS.readBinFile "/proc/self/environ"
  return variablesOfListing ((String.fromUTF8? bytes).getD "")

/-- Loads, synthesizes and prints; complains on the error stream. -/
def run (arguments : List String) : IO UInt32 := do
  let environment ← processEnvironment
  match stackFile? arguments environment with
  | none =>
    IO.eprintln usage
    return 1
  | some path =>
    match synthesize path (← IO.FS.readFile path) environment with
    | .ok output =>
      IO.println output
      return 0
    | .error message =>
      IO.eprintln message
      return 1

end TelemetryWiring.CommandLine

def main (arguments : List String) : IO UInt32 := TelemetryWiring.CommandLine.run arguments
