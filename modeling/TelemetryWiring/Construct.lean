/-!
The name and version under which this program marks what it wires.
-/
namespace TelemetryWiring.Construct

def name : String := "datadog-cdk-constructs"

def version : String := "0.1.0"

/-- The tag on every resource that was wired. -/
def tag : String × String := ("dd_cdk_construct", "v" ++ version)

end TelemetryWiring.Construct
