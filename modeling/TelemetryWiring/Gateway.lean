import TelemetryWiring.Dict

/-!
Request parameters of an API gateway integration that carry the request's context to the backend,
where the tracer infers the span of the gateway from them.
-/
namespace TelemetryWiring

/-- The header mappings in the order in which they are documented. -/
def gatewayParameters : List (String × String) :=
  [("integration.request.header.x-dd-proxy", "'aws-apigateway'"),
   ("integration.request.header.x-dd-proxy-request-time-ms", "context.requestTimeEpoch"),
   ("integration.request.header.x-dd-proxy-domain-name", "context.domainName"),
   ("integration.request.header.x-dd-proxy-httpmethod", "context.httpMethod"),
   ("integration.request.header.x-dd-proxy-path", "context.path"),
   ("integration.request.header.x-dd-proxy-stage", "context.stage")]

/-- The integration's own parameters with the header mappings over them. -/
def withGatewayParameters (existing : Dict String) : Dict String :=
  existing.insertMany gatewayParameters

end TelemetryWiring
