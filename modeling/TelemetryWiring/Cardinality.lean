import TelemetryWiring.Text.Affix

/-!
How many tags the Agent attaches to the metrics it receives.
-/
namespace TelemetryWiring

inductive Cardinality where
  | low
  | orchestrator
  | high
  deriving DecidableEq, Repr

namespace Cardinality

instance : Inhabited Cardinality := ⟨.orchestrator⟩

def all : List Cardinality := [.low, .orchestrator, .high]

def name : Cardinality → String
  | .low => "low"
  | .orchestrator => "orchestrator"
  | .high => "high"

/-- The level of a name in letters of either case. No character beyond A to Z has a lower-case form
that is a letter of a name. -/
def ofName? (text : String) : Option Cardinality :=
  all.find? fun level => level.name == Text.lowerCase text

/-- The complaint about a text that names no level. -/
def unknownMessage (text : String) : String :=
  "Invalid cardinality: '" ++ text ++ "'. Valid values are: low, orchestrator, high"

end Cardinality
end TelemetryWiring
