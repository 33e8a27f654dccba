import TelemetryWiring.Main
import TelemetryWiring.Proofs.AddOnce
import TelemetryWiring.Proofs.Fargate.Container
import TelemetryWiring.Proofs.Checks
import TelemetryWiring.Proofs.Fargate.Resolution
import TelemetryWiring.Proofs.Fargate.Run
import TelemetryWiring.Proofs.Fargate.WellFormed
import TelemetryWiring.Proofs.Tags.Merge
import TelemetryWiring.Proofs.Tags.Words
import TelemetryWiring.Proofs.Tags.Monoid
import TelemetryWiring.Proofs.Tags.Codec
import TelemetryWiring.Proofs.Tags.Reachable
import TelemetryWiring.Proofs.Dict
import TelemetryWiring.Proofs.Lambda.Function
import TelemetryWiring.Proofs.Lambda.TagList
import TelemetryWiring.Proofs.Lambda.Assignments
import TelemetryWiring.Proofs.Lambda.Layer
import TelemetryWiring.Proofs.Lambda.Wiring
import TelemetryWiring.Proofs.Lambda.Rewiring
import TelemetryWiring.Proofs.Lambda.Instrumentation
import TelemetryWiring.Proofs.Lambda.Owned
import TelemetryWiring.Proofs.Lambda.Reinstrumentation
import TelemetryWiring.Proofs.Lambda.Override
import TelemetryWiring.Proofs.Lambda.History
import TelemetryWiring.Proofs.Lambda.Skipped
import TelemetryWiring.Proofs.Lambda.Layers
import TelemetryWiring.Proofs.Fargate.Layers
import TelemetryWiring.Proofs.Resolution.Precedence
import TelemetryWiring.Proofs.ApiKey
import TelemetryWiring.Proofs.Lambda.Resolution
import TelemetryWiring.Proofs.Resolution.Idempotence
import TelemetryWiring.Proofs.Fargate.Health
import TelemetryWiring.Proofs.Lambda.Telemetry
import TelemetryWiring.Proofs.Lambda.GitPrecedence
import TelemetryWiring.Proofs.Lambda.Provenance
import TelemetryWiring.Proofs.Lambda.Overwrites
import TelemetryWiring.Proofs.Lambda.Additions
import TelemetryWiring.Proofs.Lambda.Attachment
import TelemetryWiring.Proofs.Lambda.Forwarding
import TelemetryWiring.Proofs.Fargate.Intake
import TelemetryWiring.Proofs.Fargate.Application
import TelemetryWiring.Proofs.Fargate.AgentEnvironment
import TelemetryWiring.Proofs.Fargate.Secrets
import TelemetryWiring.Proofs.Fargate.LogRouting
import TelemetryWiring.Proofs.Validation
import TelemetryWiring.Proofs.Lambda.Validity
import TelemetryWiring.Proofs.Fargate.Validity
import TelemetryWiring.Proofs.Fargate.Additions
import TelemetryWiring.Proofs.Forwarder
import TelemetryWiring.Proofs.StepFunctions.Instrumentation
import TelemetryWiring.Proofs.StepFunctions.TraceContext
import TelemetryWiring.Proofs.StepFunctions.LogGroups
import TelemetryWiring.Proofs.Fargate.Relaxation
import TelemetryWiring.Proofs.Resolution.Relaxation
import TelemetryWiring.Proofs.Stack.Sections
import TelemetryWiring.Proofs.Stack.Functions
import TelemetryWiring.Proofs.Lambda.Redirection
import TelemetryWiring.Proofs.Redaction
import TelemetryWiring.Proofs.Fargate.Redaction
import TelemetryWiring.Proofs.Lambda.Redaction
import TelemetryWiring.Proofs.Confidentiality
import TelemetryWiring.Proofs.Shape.Lawful
import TelemetryWiring.Proofs.Shape.RoundTrip
import TelemetryWiring.Proofs.Stack.Ordered
import TelemetryWiring.Proofs.Stack.Override
import TelemetryWiring.Proofs.Stack.VariableName
import TelemetryWiring.Proofs.Stack.TextFields
import TelemetryWiring.Proofs.Stack.Overridable
import TelemetryWiring.Proofs.Stack.Records
import TelemetryWiring.Proofs.Stack.Variables
import TelemetryWiring.Proofs.Subscriptions
import TelemetryWiring.Proofs.Destinations
import TelemetryWiring.Proofs.ResourceTags
import TelemetryWiring.Proofs.Disclosure
import TelemetryWiring.Proofs.Address
import TelemetryWiring.Proofs.Partition
