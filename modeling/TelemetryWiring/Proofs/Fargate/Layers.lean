import TelemetryWiring.Fargate.Settings
import TelemetryWiring.Proofs.Dict
import TelemetryWiring.Proofs.Layers

/-!
The leaves of the settings of the wiring of Fargate tasks. A feature is a record that may be
missing, and whether it is there is a leaf too: a feature without any setting is not the same as
none. The environment has a leaf for each variable.
-/
namespace TelemetryWiring

/-- The values of a map. -/
inductive Dict.Leaf {β : Type} : Leaves (Dict β)
  | value (key : String) : Leaf β (·.get? key)

theorem Dict.isLayering {β : Type} : IsLayering (Leaf (β := β)) Dict.merge .empty where
  read_merge h a b := by
    cases h with
    | value key => exact get?_merge a b key
  read_empty h := by cases h; rfl
  ext h := Dict.ext_get? fun key => h _ _ (.value key)

attribute [ext] Sizing

inductive Sizing.Leaf : Leaves Sizing
  | cpu : Leaf UInt32 (·.cpu)
  | memoryMiB : Leaf UInt32 (·.memoryMiB)

theorem Sizing.isLayering : IsLayering Leaf merge {} where
  read_merge h a b := by cases h <;> rfl
  read_empty h := by cases h <;> rfl
  ext h := Sizing.ext (h _ _ .cpu) (h _ _ .memoryMiB)

namespace Fargate

/-- The leaves of a record that may be missing: its presence, and the leaves of the record. -/
inductive OptionLeaf {S : Type} (Leaf : Leaves S) : Leaves (Option S)
  | present : OptionLeaf Leaf Unit (fun record => record.map fun _ => ())
  | within {α : Type} {read : S → Option α} :
      Leaf α read → OptionLeaf Leaf α (fun record => record.bind read)

theorem isLayering_option {S : Type} {Leaf : Leaves S} {merge : S → S → S} {empty : S}
    (h : IsLayering Leaf merge empty) : IsLayering (OptionLeaf Leaf) (mergeOption merge) none where
  read_merge hleaf a b := by
    cases hleaf with
    | present => cases a <;> cases b <;> rfl
    | @within α read hleaf =>
      cases a with
      | none => cases b <;> simp [mergeOption]
      | some a =>
        cases b with
        | none => rfl
        | some b => exact h.read_merge hleaf a b
  read_empty hleaf := by cases hleaf <;> rfl
  ext {a b} heq := by
    have hpresent := heq _ _ .present
    cases a <;> cases b
    case none.none => rfl
    case some.some a b => exact congrArg some (h.ext fun _ _ hleaf => heq _ _ (.within hleaf))
    all_goals cases hpresent

attribute [ext] ApmSettings DogstatsdSettings WorkloadSecuritySettings LogDriverSettings
  FirelensSettings LogRouterSettings LogCollectionSettings ExplorerSettings Settings

inductive ApmSettings.Leaf : Leaves ApmSettings
  | enabled : Leaf Bool (·.enabled)
  | socket : Leaf Bool (·.socket)
  | profiling : Leaf Bool (·.profiling)
  | inferredProxy : Leaf Bool (·.inferredProxy)

theorem ApmSettings.isLayering : IsLayering Leaf merge {} where
  read_merge h a b := by cases h <;> rfl
  read_empty h := by cases h <;> rfl
  ext h :=
    ApmSettings.ext (h _ _ .enabled) (h _ _ .socket) (h _ _ .profiling) (h _ _ .inferredProxy)

inductive DogstatsdSettings.Leaf : Leaves DogstatsdSettings
  | enabled : Leaf Bool (·.enabled)
  | socket : Leaf Bool (·.socket)
  | originDetection : Leaf Bool (·.originDetection)
  | cardinality : Leaf Cardinality (·.cardinality)

theorem DogstatsdSettings.isLayering : IsLayering Leaf merge {} where
  read_merge h a b := by cases h <;> rfl
  read_empty h := by cases h <;> rfl
  ext h :=
    DogstatsdSettings.ext (h _ _ .enabled) (h _ _ .socket) (h _ _ .originDetection)
      (h _ _ .cardinality)

inductive WorkloadSecuritySettings.Leaf : Leaves WorkloadSecuritySettings
  | enabled : Leaf Bool (·.enabled)
  | sizing {α : Type} {read : Sizing → Option α} :
      Sizing.Leaf α read → Leaf α (read ·.sizing)

theorem WorkloadSecuritySettings.isLayering : IsLayering Leaf merge {} where
  read_merge h a b := by
    cases h with
    | enabled => rfl
    | sizing h => exact Sizing.isLayering.read_merge h a.sizing b.sizing
  read_empty h := by
    cases h with
    | enabled => rfl
    | sizing h => exact Sizing.isLayering.read_empty h
  ext h :=
    WorkloadSecuritySettings.ext (h _ _ .enabled)
      (Sizing.isLayering.ext fun _ _ hleaf => h _ _ (.sizing hleaf))

inductive LogDriverSettings.Leaf : Leaves LogDriverSettings
  | hostEndpoint : Leaf String (·.hostEndpoint)
  | tls : Leaf String (·.tls)
  | compress : Leaf String (·.compress)
  | serviceName : Leaf String (·.serviceName)
  | sourceName : Leaf String (·.sourceName)
  | messageKey : Leaf String (·.messageKey)

theorem LogDriverSettings.isLayering : IsLayering Leaf merge {} where
  read_merge h a b := by cases h <;> rfl
  read_empty h := by cases h <;> rfl
  ext h :=
    LogDriverSettings.ext (h _ _ .hostEndpoint) (h _ _ .tls) (h _ _ .compress) (h _ _ .serviceName)
      (h _ _ .sourceName) (h _ _ .messageKey)

inductive FirelensSettings.Leaf : Leaves FirelensSettings
  | configFileType : Leaf String (·.configFileType)
  | configFileValue : Leaf String (·.configFileValue)
  | ecsLogMetadata : Leaf Bool (·.ecsLogMetadata)
  | parseJson : Leaf Bool (·.parseJson)

theorem FirelensSettings.isLayering : IsLayering Leaf merge {} where
  read_merge h a b := by cases h <;> rfl
  read_empty h := by cases h <;> rfl
  ext h :=
    FirelensSettings.ext (h _ _ .configFileType) (h _ _ .configFileValue) (h _ _ .ecsLogMetadata)
      (h _ _ .parseJson)

inductive LogRouterSettings.Leaf : Leaves LogRouterSettings
  | logDriver {α : Type} {read : Option LogDriverSettings → Option α} :
      OptionLeaf LogDriverSettings.Leaf α read → Leaf α (read ·.logDriver)
  | firelens {α : Type} {read : Option FirelensSettings → Option α} :
      OptionLeaf FirelensSettings.Leaf α read → Leaf α (read ·.firelens)
  | essential : Leaf Bool (·.essential)
  | dependencyEnabled : Leaf Bool (·.dependencyEnabled)
  | healthCheck : Leaf HealthCheck (·.healthCheck)
  | registry : Leaf String (·.registry)
  | imageVersion : Leaf String (·.imageVersion)
  | sizing {α : Type} {read : Sizing → Option α} :
      Sizing.Leaf α read → Leaf α (read ·.sizing)

theorem LogRouterSettings.isLayering : IsLayering Leaf merge {} where
  read_merge h a b := by
    cases h with
    | logDriver h =>
      exact (isLayering_option LogDriverSettings.isLayering).read_merge h a.logDriver b.logDriver
    | firelens h =>
      exact (isLayering_option FirelensSettings.isLayering).read_merge h a.firelens b.firelens
    | sizing h => exact Sizing.isLayering.read_merge h a.sizing b.sizing
    | _ => rfl
  read_empty h := by
    cases h with
    | logDriver h => exact (isLayering_option LogDriverSettings.isLayering).read_empty h
    | firelens h => exact (isLayering_option FirelensSettings.isLayering).read_empty h
    | sizing h => exact Sizing.isLayering.read_empty h
    | _ => rfl
  ext {a b} h := by
    have hdriver : a.logDriver = b.logDriver :=
      (isLayering_option LogDriverSettings.isLayering).ext fun _ _ hleaf => h _ _ (.logDriver hleaf)
    have hfirelens : a.firelens = b.firelens :=
      (isLayering_option FirelensSettings.isLayering).ext fun _ _ hleaf => h _ _ (.firelens hleaf)
    have hsizing : a.sizing = b.sizing :=
      Sizing.isLayering.ext fun _ _ hleaf => h _ _ (.sizing hleaf)
    exact LogRouterSettings.ext hdriver hfirelens (h _ _ .essential) (h _ _ .dependencyEnabled)
      (h _ _ .healthCheck) (h _ _ .registry) (h _ _ .imageVersion) hsizing

inductive LogCollectionSettings.Leaf : Leaves LogCollectionSettings
  | enabled : Leaf Bool (·.enabled)
  | loggingType : Leaf LoggingType (·.loggingType)
  | router {α : Type} {read : Option LogRouterSettings → Option α} :
      OptionLeaf LogRouterSettings.Leaf α read → Leaf α (read ·.router)

theorem LogCollectionSettings.isLayering : IsLayering Leaf merge {} where
  read_merge h a b := by
    cases h with
    | router h =>
      exact (isLayering_option LogRouterSettings.isLayering).read_merge h a.router b.router
    | _ => rfl
  read_empty h := by
    cases h with
    | router h => exact (isLayering_option LogRouterSettings.isLayering).read_empty h
    | _ => rfl
  ext h :=
    LogCollectionSettings.ext (h _ _ .enabled) (h _ _ .loggingType)
      ((isLayering_option LogRouterSettings.isLayering).ext fun _ _ hleaf => h _ _ (.router hleaf))

inductive ExplorerSettings.Leaf : Leaves ExplorerSettings
  | enabled : Leaf Bool (·.enabled)
  | url : Leaf String (·.url)

theorem ExplorerSettings.isLayering : IsLayering Leaf merge {} where
  read_merge h a b := by cases h <;> rfl
  read_empty h := by cases h <;> rfl
  ext h := ExplorerSettings.ext (h _ _ .enabled) (h _ _ .url)

namespace Settings

inductive Leaf : Leaves Settings
  | apiKeys {α : Type} {read : ApiKeySettings → Option α} :
      ApiKeySettings.Leaf α read → Leaf α (read ·.apiKeys)
  | registry : Leaf String (·.registry)
  | imageVersion : Leaf String (·.imageVersion)
  | sizing {α : Type} {read : Sizing → Option α} :
      Sizing.Leaf α read → Leaf α (read ·.sizing)
  | agentEssential : Leaf Bool (·.agentEssential)
  | agentDependency : Leaf Bool (·.agentDependency)
  | agentHealthCheck : Leaf HealthCheck (·.agentHealthCheck)
  | site : Leaf String (·.site)
  | clusterName : Leaf String (·.clusterName)
  | environment {α : Type} {read : Option (Dict String) → Option α} :
      OptionLeaf Dict.Leaf α read → Leaf α (read ·.environment)
  | globalTags : Leaf String (·.globalTags)
  | checksCardinality : Leaf Cardinality (·.checksCardinality)
  | identity {α : Type} {read : ServiceIdentity → Option α} :
      ServiceIdentity.Leaf α read → Leaf α (read ·.identity)
  | apm {α : Type} {read : Option ApmSettings → Option α} :
      OptionLeaf ApmSettings.Leaf α read → Leaf α (read ·.apm)
  | dogstatsd {α : Type} {read : Option DogstatsdSettings → Option α} :
      OptionLeaf DogstatsdSettings.Leaf α read → Leaf α (read ·.dogstatsd)
  | workloadSecurity {α : Type} {read : Option WorkloadSecuritySettings → Option α} :
      OptionLeaf WorkloadSecuritySettings.Leaf α read → Leaf α (read ·.workloadSecurity)
  | logCollection {α : Type} {read : Option LogCollectionSettings → Option α} :
      OptionLeaf LogCollectionSettings.Leaf α read → Leaf α (read ·.logCollection)
  | explorer {α : Type} {read : Option ExplorerSettings → Option α} :
      OptionLeaf ExplorerSettings.Leaf α read → Leaf α (read ·.explorer)

theorem isLayering : IsLayering Leaf merge {} where
  read_merge h a b := by
    cases h with
    | apiKeys h => exact ApiKeySettings.isLayering.read_merge h a.apiKeys b.apiKeys
    | sizing h => exact Sizing.isLayering.read_merge h a.sizing b.sizing
    | environment h =>
      exact (isLayering_option Dict.isLayering).read_merge h a.environment b.environment
    | identity h => exact ServiceIdentity.isLayering.read_merge h a.identity b.identity
    | apm h => exact (isLayering_option ApmSettings.isLayering).read_merge h a.apm b.apm
    | dogstatsd h =>
      exact (isLayering_option DogstatsdSettings.isLayering).read_merge h a.dogstatsd b.dogstatsd
    | workloadSecurity h =>
      exact (isLayering_option WorkloadSecuritySettings.isLayering).read_merge h
        a.workloadSecurity b.workloadSecurity
    | logCollection h =>
      exact (isLayering_option LogCollectionSettings.isLayering).read_merge h
        a.logCollection b.logCollection
    | explorer h =>
      exact (isLayering_option ExplorerSettings.isLayering).read_merge h a.explorer b.explorer
    | _ => rfl
  read_empty h := by
    cases h with
    | apiKeys h => exact ApiKeySettings.isLayering.read_empty h
    | sizing h => exact Sizing.isLayering.read_empty h
    | environment h => exact (isLayering_option Dict.isLayering).read_empty h
    | identity h => exact ServiceIdentity.isLayering.read_empty h
    | apm h => exact (isLayering_option ApmSettings.isLayering).read_empty h
    | dogstatsd h => exact (isLayering_option DogstatsdSettings.isLayering).read_empty h
    | workloadSecurity h =>
      exact (isLayering_option WorkloadSecuritySettings.isLayering).read_empty h
    | logCollection h => exact (isLayering_option LogCollectionSettings.isLayering).read_empty h
    | explorer h => exact (isLayering_option ExplorerSettings.isLayering).read_empty h
    | _ => rfl
  ext {a b} h := by
    have hkeys : a.apiKeys = b.apiKeys :=
      ApiKeySettings.isLayering.ext fun _ _ hleaf => h _ _ (.apiKeys hleaf)
    have hsizing : a.sizing = b.sizing :=
      Sizing.isLayering.ext fun _ _ hleaf => h _ _ (.sizing hleaf)
    have henvironment : a.environment = b.environment :=
      (isLayering_option Dict.isLayering).ext fun _ _ hleaf => h _ _ (.environment hleaf)
    have hidentity : a.identity = b.identity :=
      ServiceIdentity.isLayering.ext fun _ _ hleaf => h _ _ (.identity hleaf)
    have hapm : a.apm = b.apm :=
      (isLayering_option ApmSettings.isLayering).ext fun _ _ hleaf => h _ _ (.apm hleaf)
    have hdogstatsd : a.dogstatsd = b.dogstatsd :=
      (isLayering_option DogstatsdSettings.isLayering).ext fun _ _ hleaf => h _ _ (.dogstatsd hleaf)
    have hsecurity : a.workloadSecurity = b.workloadSecurity :=
      (isLayering_option WorkloadSecuritySettings.isLayering).ext fun _ _ hleaf =>
        h _ _ (.workloadSecurity hleaf)
    have hlogs : a.logCollection = b.logCollection :=
      (isLayering_option LogCollectionSettings.isLayering).ext fun _ _ hleaf =>
        h _ _ (.logCollection hleaf)
    have hexplorer : a.explorer = b.explorer :=
      (isLayering_option ExplorerSettings.isLayering).ext fun _ _ hleaf => h _ _ (.explorer hleaf)
    exact Settings.ext hkeys (h _ _ .registry) (h _ _ .imageVersion) hsizing
      (h _ _ .agentEssential) (h _ _ .agentDependency) (h _ _ .agentHealthCheck) (h _ _ .site)
      (h _ _ .clusterName) henvironment (h _ _ .globalTags) (h _ _ .checksCardinality) hidentity
      hapm hdogstatsd hsecurity hlogs hexplorer

end Settings
end Fargate
end TelemetryWiring
