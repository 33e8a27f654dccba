import TelemetryWiring.Text.Affix

/-!
Runtimes of Lambda functions, sorted into families. The family of a function decides how its
library layer and its handler are chosen.
-/
namespace TelemetryWiring

inductive RuntimeFamily where
  | dotnet
  | node
  | python
  | java
  | ruby
  /-- Runtimes that bring only an operating system. -/
  | custom
  | unsupported
  deriving DecidableEq, Repr

namespace RuntimeFamily

def all : List RuntimeFamily := [.dotnet, .node, .python, .java, .ruby, .custom]

/-- The runtimes of a family by their identifiers. -/
def identifiers : RuntimeFamily → List String
  | .dotnet => ["dotnet6", "dotnet8"]
  | .node =>
    ["nodejs12.x", "nodejs14.x", "nodejs16.x", "nodejs18.x", "nodejs20.x", "nodejs22.x",
     "nodejs24.x"]
  | .python =>
    ["python3.6", "python3.7", "python3.8", "python3.9", "python3.10", "python3.11", "python3.12",
     "python3.13", "python3.14"]
  | .java => ["java8.al2", "java11", "java17", "java21", "java25"]
  | .ruby => ["ruby3.2", "ruby3.3", "ruby3.4"]
  | .custom => ["provided", "provided.al2", "provided.al2023"]
  | .unsupported => []

/-- The family that knows a runtime. -/
def ofRuntime (runtime : String) : RuntimeFamily :=
  (all.find? fun family => family.identifiers.contains runtime).getD .unsupported

/-- The name of a family in sentences. -/
def title : RuntimeFamily → String
  | .dotnet => ".NET"
  | .node => "Node.js"
  | .python => "Python"
  | .java => "Java"
  | .ruby => "Ruby"
  | .custom => "custom"
  | .unsupported => "unsupported"

/-- The beginning of the names of a family's settings. -/
def settingStem : RuntimeFamily → String
  | .dotnet => "dotnet"
  | .node => "node"
  | .python => "python"
  | .java => "java"
  | .ruby => "ruby"
  | .custom | .unsupported => ""

def isSupported (family : RuntimeFamily) : Bool := family != .unsupported

end RuntimeFamily

/-- What follows the letters at the front of a runtime's identifier. -/
def runtimeVersion (runtime : String) : List Char := runtime.toList.dropWhile (·.isAlpha)

/-- The name of a runtime's library layer, without the mark of an architecture. -/
def libraryLayerName? (runtime : String) : Option String :=
  let version := runtimeVersion runtime
  match RuntimeFamily.ofRuntime runtime with
  | .dotnet => some "dd-trace-dotnet"
  | .java => some "dd-trace-java"
  | .node => some ("Datadog-Node" ++ Text.replaceChar '.' '-' (.ofList version))
  | .python => some ("Datadog-Python" ++ .ofList (version.filter (· ≠ '.')))
  | .ruby => some ("Datadog-Ruby" ++ Text.replaceChar '.' '-' (.ofList version))
  | .custom | .unsupported => none

example : libraryLayerName? "nodejs20.x" = some "Datadog-Node20-x" := by decide
example : libraryLayerName? "python3.12" = some "Datadog-Python312" := by decide
example : libraryLayerName? "ruby3.3" = some "Datadog-Ruby3-3" := by decide

end TelemetryWiring
