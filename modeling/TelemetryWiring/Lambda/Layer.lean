import TelemetryWiring.Digest.Sha256
import TelemetryWiring.Lambda.Function
import TelemetryWiring.Lambda.Runtime

/-!
Which layers a function receives: the library of its runtime, and the extension. A layer is pinned
by an ARN of its own or by a version, from which an ARN is built.
-/
namespace TelemetryWiring

/-- The choice of a layer; an ARN counts before a version. -/
structure LayerPin where
  version : Option UInt32 := none
  arn : Option String := none
  deriving DecidableEq, Repr

namespace LayerPin

def isSet (pin : LayerPin) : Bool := pin.version.isSome || pin.arn.isSome

def merge (a b : LayerPin) : LayerPin where
  version := b.version.or a.version
  arn := b.arn.or a.arn

/-- The ARN of the pinned layer, built by the given function if only a version is set. -/
def resolve? (pin : LayerPin) (build : UInt32 → Option String) : Option String :=
  pin.arn.or (pin.version.bind build)

end LayerPin

/-- The choices of the library layers and of the extension. -/
structure LayerPins where
  python : LayerPin := {}
  node : LayerPin := {}
  java : LayerPin := {}
  dotnet : LayerPin := {}
  ruby : LayerPin := {}
  extension : LayerPin := {}
  deriving DecidableEq, Repr

namespace LayerPins

def merge (a b : LayerPins) : LayerPins where
  python := a.python.merge b.python
  node := a.node.merge b.node
  java := a.java.merge b.java
  dotnet := a.dotnet.merge b.dotnet
  ruby := a.ruby.merge b.ruby
  extension := a.extension.merge b.extension

/-- The choice of a family's library layer; two families have none. -/
def library? (pins : LayerPins) : RuntimeFamily → Option LayerPin
  | .python => some pins.python
  | .node => some pins.node
  | .java => some pins.java
  | .dotnet => some pins.dotnet
  | .ruby => some pins.ruby
  | .custom | .unsupported => none

end LayerPins

def isGovRegion (region : String) : Bool := ["us-gov-east-1", "us-gov-west-1"].contains region

/-- The ARN of a layer version in the partition of its region, in the layers' usual account unless
another one is given. -/
def layerArn (region layerName : String) (version : UInt32) (account : Option String) : String :=
  let (partition, usual) :=
    if isGovRegion region then ("aws-us-gov", "002406178527") else ("aws", "464622532012")
  "arn:" ++ partition ++ ":lambda:" ++ region ++ ":" ++ account.getD usual ++ ":layer:" ++
    layerName ++ ":" ++ version.toNat.repr

/-- A layer name with the mark of the architecture. -/
def markArchitecture (name : String) (arm : Bool) : String := if arm then name ++ "-ARM" else name

/-- The ARN of a runtime's library layer. The layers of Node serve both architectures. -/
def libraryLayerArn? (region : String) (version : UInt32) (runtime : String) (arm : Bool)
    (account : Option String) : Option String :=
  (libraryLayerName? runtime).map fun name =>
    layerArn region (markArchitecture name (arm && RuntimeFamily.ofRuntime runtime != .node))
      version account

def extensionLayerArn (region : String) (version : UInt32) (arm : Bool) (account : Option String) :
    String :=
  layerArn region (markArchitecture "Datadog-Extension" arm) version account

def libraryLayerId (functionArn runtime : String) : String :=
  "DatadogLayer-" ++ runtime ++ "-" ++ Digest.sha256Hex functionArn

def extensionLayerId (functionArn : String) : String :=
  "DatadogExtension-" ++ Digest.sha256Hex functionArn

/-- What came of attaching a library layer. -/
inductive LayerOutcome where
  /-- The layer is attached, or the runtime needs none. -/
  | applied (function : LambdaFunction)
  /-- No layer exists for the runtime; the wiring goes on without one. -/
  | skipped (note : Diagnostic)
  /-- A layer exists but none was chosen; the function is not to be wired. -/
  | missing (note : Diagnostic)
  deriving DecidableEq, Repr

namespace LambdaFunction

/-- Attaches the chosen library layer of the function's runtime. -/
def attachLibrary (f : LambdaFunction) (pins : LayerPins) (account : Option String) :
    LayerOutcome :=
  let family := RuntimeFamily.ofRuntime f.runtime
  if family = .unsupported then .skipped (.unsupportedRuntime f.name f.runtime)
  else
    match pins.library? family with
    | none => .applied f
    | some pin =>
      match pin.resolve? fun version =>
        libraryLayerArn? f.region version f.runtime f.isArm account with
      | some arn => .applied (f.addLayer ⟨libraryLayerId f.arn f.runtime, arn⟩)
      | none =>
        .missing
          (.missingLayerVersion f.name family.title (family.settingStem ++ "LayerVersion"))

/-- Attaches the chosen extension layer, unless the runtime is not supported. -/
def attachExtension (f : LambdaFunction) (pin : LayerPin) (account : Option String) :
    LambdaFunction :=
  if (RuntimeFamily.ofRuntime f.runtime).isSupported then
    match pin.resolve? fun version =>
      some (extensionLayerArn f.region version f.isArm account) with
    | some arn => f.addLayer ⟨extensionLayerId f.arn, arn⟩
    | none => f
  else f

end LambdaFunction
end TelemetryWiring
