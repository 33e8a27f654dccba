import TelemetryWiring.Lambda.Settings
import TelemetryWiring.Proofs.Layers

/-!
The leaves of the settings of the Lambda instrumentation. Layer pins, the tracer's settings and the
service's identity are records of their own, which are never missing.
-/
namespace TelemetryWiring

attribute [ext] LayerPin LayerPins TracerSettings Lambda.Settings

inductive LayerPin.Leaf : Leaves LayerPin
  | version : Leaf UInt32 (·.version)
  | arn : Leaf String (·.arn)

theorem LayerPin.isLayering : IsLayering Leaf merge {} where
  read_merge h a b := by cases h <;> rfl
  read_empty h := by cases h <;> rfl
  ext h := LayerPin.ext (h _ _ .version) (h _ _ .arn)

inductive LayerPins.Leaf : Leaves LayerPins
  | python {α : Type} {read : LayerPin → Option α} :
      LayerPin.Leaf α read → Leaf α (read ·.python)
  | node {α : Type} {read : LayerPin → Option α} :
      LayerPin.Leaf α read → Leaf α (read ·.node)
  | java {α : Type} {read : LayerPin → Option α} :
      LayerPin.Leaf α read → Leaf α (read ·.java)
  | dotnet {α : Type} {read : LayerPin → Option α} :
      LayerPin.Leaf α read → Leaf α (read ·.dotnet)
  | ruby {α : Type} {read : LayerPin → Option α} :
      LayerPin.Leaf α read → Leaf α (read ·.ruby)
  | extension {α : Type} {read : LayerPin → Option α} :
      LayerPin.Leaf α read → Leaf α (read ·.extension)

theorem LayerPins.isLayering : IsLayering Leaf merge {} where
  read_merge h a b := by cases h <;> exact LayerPin.isLayering.read_merge ‹_› _ _
  read_empty h := by cases h <;> exact LayerPin.isLayering.read_empty ‹_›
  ext h := by
    have hpin := @LayerPin.isLayering.ext
    apply LayerPins.ext
    · exact hpin fun _ _ hleaf => h _ _ (.python hleaf)
    · exact hpin fun _ _ hleaf => h _ _ (.node hleaf)
    · exact hpin fun _ _ hleaf => h _ _ (.java hleaf)
    · exact hpin fun _ _ hleaf => h _ _ (.dotnet hleaf)
    · exact hpin fun _ _ hleaf => h _ _ (.ruby hleaf)
    · exact hpin fun _ _ hleaf => h _ _ (.extension hleaf)

inductive TracerSettings.Leaf : Leaves TracerSettings
  | logLevel : Leaf String (·.logLevel)
  | coldStartTracing : Leaf Bool (·.coldStartTracing)
  | minColdStartDuration : Leaf UInt64 (·.minColdStartDuration)
  | coldStartSkipLibs : Leaf String (·.coldStartSkipLibs)
  | profiling : Leaf Bool (·.profiling)
  | encodeAuthorizerContext : Leaf Bool (·.encodeAuthorizerContext)
  | decodeAuthorizerContext : Leaf Bool (·.decodeAuthorizerContext)
  | apmFlushDeadline : Leaf String (·.apmFlushDeadline)
  | llmObsMlApp : Leaf String (·.llmObsMlApp)
  | llmObsAgentless : Leaf Bool (·.llmObsAgentless)

theorem TracerSettings.isLayering : IsLayering Leaf merge {} where
  read_merge h a b := by cases h <;> rfl
  read_empty h := by cases h <;> rfl
  ext h :=
    TracerSettings.ext (h _ _ .logLevel) (h _ _ .coldStartTracing) (h _ _ .minColdStartDuration)
      (h _ _ .coldStartSkipLibs) (h _ _ .profiling) (h _ _ .encodeAuthorizerContext)
      (h _ _ .decodeAuthorizerContext) (h _ _ .apmFlushDeadline) (h _ _ .llmObsMlApp)
      (h _ _ .llmObsAgentless)

namespace Lambda.Settings

inductive Leaf : Leaves Settings
  | layers {α : Type} {read : LayerPins → Option α} :
      LayerPins.Leaf α read → Leaf α (read ·.layers)
  | addLayers : Leaf Bool (·.addLayers)
  | layerAccount : Leaf String (·.layerAccount)
  | forwarderArn : Leaf String (·.forwarderArn)
  | createForwarderPermissions : Leaf Bool (·.createForwarderPermissions)
  | flushMetricsToLogs : Leaf Bool (·.flushMetricsToLogs)
  | site : Leaf String (·.site)
  | apiKeys {α : Type} {read : ApiKeySettings → Option α} :
      ApiKeySettings.Leaf α read → Leaf α (read ·.apiKeys)
  | encryptedApiKey : Leaf String (·.encryptedApiKey)
  | tracing : Leaf Bool (·.tracing)
  | protection : Leaf Bool (·.protection)
  | protectionMode : Leaf ProtectionMode (·.protectionMode)
  | mergeXrayTraces : Leaf Bool (·.mergeXrayTraces)
  | injectLogContext : Leaf Bool (·.injectLogContext)
  | collectLogs : Leaf Bool (·.collectLogs)
  | capturePayload : Leaf Bool (·.capturePayload)
  | captureCloudPayload : Leaf Bool (·.captureCloudPayload)
  | identity {α : Type} {read : ServiceIdentity → Option α} :
      ServiceIdentity.Leaf α read → Leaf α (read ·.identity)
  | tags : Leaf String (·.tags)
  | sourceCodeIntegration : Leaf Bool (·.sourceCodeIntegration)
  | redirectHandler : Leaf Bool (·.redirectHandler)
  | grantSecretRead : Leaf Bool (·.grantSecretRead)
  | llmObs : Leaf Bool (·.llmObs)
  | tracer {α : Type} {read : TracerSettings → Option α} :
      TracerSettings.Leaf α read → Leaf α (read ·.tracer)

theorem isLayering : IsLayering Leaf merge {} where
  read_merge h a b := by
    cases h with
    | layers h => exact LayerPins.isLayering.read_merge h a.layers b.layers
    | apiKeys h => exact ApiKeySettings.isLayering.read_merge h a.apiKeys b.apiKeys
    | identity h => exact ServiceIdentity.isLayering.read_merge h a.identity b.identity
    | tracer h => exact TracerSettings.isLayering.read_merge h a.tracer b.tracer
    | _ => rfl
  read_empty h := by
    cases h with
    | layers h => exact LayerPins.isLayering.read_empty h
    | apiKeys h => exact ApiKeySettings.isLayering.read_empty h
    | identity h => exact ServiceIdentity.isLayering.read_empty h
    | tracer h => exact TracerSettings.isLayering.read_empty h
    | _ => rfl
  ext {a b} h := by
    have hlayers : a.layers = b.layers :=
      LayerPins.isLayering.ext fun _ _ hleaf => h _ _ (.layers hleaf)
    have hkeys : a.apiKeys = b.apiKeys :=
      ApiKeySettings.isLayering.ext fun _ _ hleaf => h _ _ (.apiKeys hleaf)
    have hidentity : a.identity = b.identity :=
      ServiceIdentity.isLayering.ext fun _ _ hleaf => h _ _ (.identity hleaf)
    have htracer : a.tracer = b.tracer :=
      TracerSettings.isLayering.ext fun _ _ hleaf => h _ _ (.tracer hleaf)
    exact Settings.ext hlayers (h _ _ .addLayers) (h _ _ .layerAccount) (h _ _ .forwarderArn)
      (h _ _ .createForwarderPermissions) (h _ _ .flushMetricsToLogs) (h _ _ .site) hkeys
      (h _ _ .encryptedApiKey) (h _ _ .tracing) (h _ _ .protection) (h _ _ .protectionMode)
      (h _ _ .mergeXrayTraces) (h _ _ .injectLogContext) (h _ _ .collectLogs)
      (h _ _ .capturePayload) (h _ _ .captureCloudPayload) hidentity (h _ _ .tags)
      (h _ _ .sourceCodeIntegration) (h _ _ .redirectHandler) (h _ _ .grantSecretRead)
      (h _ _ .llmObs) htracer

end Lambda.Settings
end TelemetryWiring
