import TelemetryWiring.Proofs.Stack.Overridable
import TelemetryWiring.Stack.Load

/-!
The records of a stack through which variables reach its texts: the keys by which they are read,
the fields to which a key in lower case leads, and what comes of a word at the path of each of
their texts.
-/
namespace TelemetryWiring

open TextField

def GitMetadata.fieldNames : List String := ["commitSha", "repositoryUrl"]

theorem GitMetadata.readsOnly_fieldNames : ReadsOnly (readRecord GitMetadata) fieldNames := by
  refine .record (fun _ => rfl) fun key hkey => ?_
  repeat refine .bind (ignores_optional (ne_of_mem_of_not_mem (by decide) hkey).symm) fun _ => ?_
  exact ignores_pure _

theorem GitMetadata.isOverridable :
    ∀ f ∈ textFields, f.IsOverridable (readRecord GitMetadata) :=
  isOverridable_of_mem readsOnly_fieldNames (by decide +kernel) nofun

namespace ServiceIdentity

def fieldNames : List String := ["env", "service", "version"]

theorem readsOnly_fieldNames : ReadsOnly ofFields? fieldNames := by
  intro key hkey
  unfold ofFields?
  repeat refine .bind (ignores_optional (ne_of_mem_of_not_mem (by decide) hkey).symm) fun _ => ?_
  exact ignores_pure _

theorem hasField : ∀ f ∈ textFields, HasField ofFields? f.key f.set := by
  simp only [textFields, List.forall_mem_cons]
  refine ⟨?env, ?service, ?version, nofun⟩
  all_goals
    repeat refine .of_rest (ignores_optional (by decide)) fun _ => ?_
    refine .of_first hasField_optional fun new old d value => ?_
    repeat refine bind_eq_map_bind (ignores_optional (by decide) d value) fun _ => ?_
    rfl

theorem key_mem_fieldNames : ∀ f ∈ textFields, f.key ∈ fieldNames := by decide +kernel

/-- The texts can be replaced in every record to which they belong. -/
theorem isOverridable_within {α : Type} {read : Dict Json → Option α}
    {modify : (ServiceIdentity → ServiceIdentity) → α → α}
    (h : ∀ f ∈ textFields, HasField read f.key (f.within modify).set) :
    ∀ f ∈ textFields, (f.within modify).IsOverridable read := by
  intro f hf
  obtain ⟨hkey, hpath⟩ : Text.lowerCase f.key = f.key ∧ f.path = [] := by
    revert f
    decide +kernel
  exact isOverridable_of_hasField (h f hf) hkey hpath

end ServiceIdentity

/-- The keys by which a layer is chosen. -/
def LayerPin.fieldNames (stem : String) : List String :=
  [stem ++ "LayerVersion", stem ++ "LayerArn"]

theorem LayerPin.readsOnly_fieldNames (stem : String) :
    ReadsOnly (ofFields? · stem) (fieldNames stem) := by
  intro key hkey
  simp only [fieldNames, List.mem_cons, List.not_mem_nil, or_false, not_or] at hkey
  exact .bind (ignores_optional hkey.1) fun _ => .bind (ignores_optional hkey.2) fun _ =>
    ignores_pure _

def LayerPins.stems : List String := ["python", "node", "java", "dotnet", "ruby", "extension"]

def LayerPins.fieldNames : List String := stems.flatMap LayerPin.fieldNames

theorem LayerPins.readsOnly_fieldNames : ReadsOnly ofFields? fieldNames := by
  intro key hkey
  have hpin (stem : String) (hstem : stem ∈ stems) : Ignores (LayerPin.ofFields? · stem) key :=
    LayerPin.readsOnly_fieldNames stem key fun h => hkey (List.mem_flatMap_of_mem hstem h)
  unfold ofFields?
  repeat refine .bind (hpin _ (by decide)) fun _ => ?_
  exact ignores_pure _

def TracerSettings.fieldNames : List String :=
  ["logLevel", "enableColdStartTracing", "minColdStartTraceDuration", "coldStartTraceSkipLibs",
    "enableProfiling", "encodeAuthorizerContext", "decodeAuthorizerContext", "apmFlushDeadline",
    "llmObsMlApp", "llmObsAgentlessEnabled"]

theorem TracerSettings.readsOnly_fieldNames : ReadsOnly ofFields? fieldNames := by
  intro key hkey
  unfold ofFields?
  repeat refine .bind (ignores_optional (ne_of_mem_of_not_mem (by decide) hkey).symm) fun _ => ?_
  exact ignores_pure _

namespace Lambda.Settings

/-- The keys of the settings without those of the records among them. -/
def ownNames : List String :=
  ["addLayers", "useLayersFromAccount", "forwarderArn", "createForwarderPermissions",
    "flushMetricsToLogs", "site", "apiKey", "apiKeySecretArn", "apiKeySecret", "apiKmsKey",
    "enableDatadogTracing", "enableDatadogASM", "datadogAppSecMode", "enableMergeXrayTraces",
    "injectLogContext", "enableDatadogLogs", "captureLambdaPayload",
    "captureCloudServicePayload", "tags", "sourceCodeIntegration", "redirectHandler",
    "grantSecretReadAccess", "llmObsEnabled"]

def fieldNames : List String :=
  ownNames ++ LayerPins.fieldNames ++ ServiceIdentity.fieldNames ++ TracerSettings.fieldNames

theorem readsOnly_fieldNames : ReadsOnly (readRecord Settings) fieldNames := by
  refine .record (fun _ => rfl) fun key hkey => ?_
  simp only [fieldNames, List.mem_append, not_or] at hkey
  obtain ⟨⟨⟨hown, hlayers⟩, hidentity⟩, htracer⟩ := hkey
  repeat first
    | refine .bind (ignores_optional (ne_of_mem_of_not_mem (by decide) hown).symm) fun _ => ?_
    | refine .bind (LayerPins.readsOnly_fieldNames key hlayers) fun _ => ?_
    | refine .bind (ServiceIdentity.readsOnly_fieldNames key hidentity) fun _ => ?_
    | refine .bind (TracerSettings.readsOnly_fieldNames key htracer) fun _ => ?_
  exact ignores_pure _

/-- A key of the settings leads to no other record. -/
theorem ignores_of_mem_ownNames {key : String} (h : key ∈ ownNames) :
    Ignores LayerPins.ofFields? key ∧ Ignores ServiceIdentity.ofFields? key ∧
      Ignores TracerSettings.ofFields? key := by
  obtain ⟨hlayers, hidentity, htracer⟩ : key ∉ LayerPins.fieldNames ∧
      key ∉ ServiceIdentity.fieldNames ∧ key ∉ TracerSettings.fieldNames := by
    revert key
    decide +kernel
  exact ⟨LayerPins.readsOnly_fieldNames key hlayers,
    ServiceIdentity.readsOnly_fieldNames key hidentity,
    TracerSettings.readsOnly_fieldNames key htracer⟩

theorem hasField_site :
    HasField (readRecord Settings) "site" fun v s => { s with site := some v } := by
  obtain ⟨hlayers, hidentity, htracer⟩ := ignores_of_mem_ownNames (show "site" ∈ _ by decide)
  refine .record (fun _ => rfl) (.of_rest hlayers fun _ => ?_)
  repeat refine .of_rest (ignores_optional (by decide)) fun _ => ?_
  refine .of_first hasField_optional fun new old d value => ?_
  repeat first
    | refine bind_eq_map_bind (ignores_optional (by decide) d value) fun _ => ?_
    | refine bind_eq_map_bind (hidentity d value) fun _ => ?_
    | refine bind_eq_map_bind (htracer d value) fun _ => ?_
  rfl

theorem hasField_tags :
    HasField (readRecord Settings) "tags" fun v s => { s with tags := some v } := by
  obtain ⟨hlayers, hidentity, htracer⟩ := ignores_of_mem_ownNames (show "tags" ∈ _ by decide)
  refine .record (fun _ => rfl) (.of_rest hlayers fun _ => ?_)
  repeat first
    | refine .of_rest (ignores_optional (by decide)) fun _ => ?_
    | refine .of_rest hidentity fun _ => ?_
  refine .of_first hasField_optional fun new old d value => ?_
  repeat first
    | refine bind_eq_map_bind (ignores_optional (by decide) d value) fun _ => ?_
    | refine bind_eq_map_bind (htracer d value) fun _ => ?_
  rfl

theorem hasField_identity : ∀ f ∈ ServiceIdentity.textFields,
    HasField (readRecord Settings) f.key fun v s => { s with identity := f.set v s.identity } := by
  intro f hf
  have hkey := ServiceIdentity.key_mem_fieldNames f hf
  obtain ⟨hlayers, htracer⟩ : f.key ∉ LayerPins.fieldNames ∧ f.key ∉ TracerSettings.fieldNames := by
    revert f
    decide +kernel
  refine .record (fun _ => rfl) (.of_rest (LayerPins.readsOnly_fieldNames _ hlayers) fun _ => ?_)
  repeat refine .of_rest (ignores_optional (ne_of_mem_of_not_mem hkey (by decide))) fun _ => ?_
  refine .of_first (ServiceIdentity.hasField f hf) fun new old d value => ?_
  repeat first
    | refine bind_eq_map_bind (ignores_optional (ne_of_mem_of_not_mem hkey (by decide)) d value)
        fun _ => ?_
    | refine bind_eq_map_bind (TracerSettings.readsOnly_fieldNames _ htracer d value) fun _ => ?_
  rfl

theorem filter_textFields :
    textFields.filter (fun f => Text.lowerCase f.key = f.key) =
      [{ key := "site", set := fun v s => { s with site := some v } },
        { key := "tags", set := fun v s => { s with tags := some v } }] ++
      ServiceIdentity.textFields.map (within fun f s => { s with identity := f s.identity }) := rfl

theorem isOverridable : ∀ f ∈ textFields, f.IsOverridable (readRecord Settings) := by
  refine isOverridable_of_mem readsOnly_fieldNames (by decide +kernel) ?_
  simp only [filter_textFields, List.forall_mem_append, List.forall_mem_cons, List.forall_mem_map]
  exact ⟨⟨isOverridable_of_hasField hasField_site (by decide) rfl,
    isOverridable_of_hasField hasField_tags (by decide) rfl, nofun⟩,
    ServiceIdentity.isOverridable_within hasField_identity⟩

end Lambda.Settings

namespace Fargate.Settings

/-- The keys of the settings without those of the identity. -/
def ownNames : List String :=
  ["apiKey", "apiKeySecret", "apiKeySecretArn", "registry", "imageVersion", "cpu",
    "memoryLimitMiB", "isDatadogEssential", "isDatadogDependencyEnabled", "datadogHealthCheck",
    "site", "clusterName", "environmentVariables", "globalTags", "checksCardinality", "apm",
    "dogstatsd", "cws", "logCollection", "orchestratorExplorer"]

def fieldNames : List String := ownNames ++ ServiceIdentity.fieldNames

theorem ignores_sizing {key : String} (hcpu : key ≠ "cpu") (hmemory : key ≠ "memoryLimitMiB") :
    Ignores Sizing.ofFields? key :=
  .bind (ignores_optional hcpu) fun _ => .bind (ignores_optional hmemory) fun _ => ignores_pure _

theorem readsOnly_fieldNames : ReadsOnly (readRecord Settings) fieldNames := by
  refine .record (fun _ => rfl) fun key hkey => ?_
  simp only [fieldNames, List.mem_append, not_or] at hkey
  obtain ⟨hown, hidentity⟩ := hkey
  have hne {other : String} (h : other ∈ ownNames) : key ≠ other :=
    (ne_of_mem_of_not_mem h hown).symm
  repeat first
    | refine .bind (ignores_optional (hne (by decide))) fun _ => ?_
    | refine .bind (ignores_sizing (hne (by decide)) (hne (by decide))) fun _ => ?_
    | refine .bind (ServiceIdentity.readsOnly_fieldNames key hidentity) fun _ => ?_
  exact ignores_pure _

theorem hasField_registry :
    HasField (readRecord Settings) "registry" fun v s => { s with registry := some v } := by
  refine .record (fun _ => rfl) ?_
  repeat refine .of_rest (ignores_optional (by decide)) fun _ => ?_
  refine .of_first hasField_optional fun new old d value => ?_
  have hidentity := ServiceIdentity.readsOnly_fieldNames "registry" (by decide) d value
  repeat first
    | refine bind_eq_map_bind (ignores_optional (by decide) d value) fun _ => ?_
    | refine bind_eq_map_bind (ignores_sizing (by decide) (by decide) d value) fun _ => ?_
    | refine bind_eq_map_bind hidentity fun _ => ?_
  rfl

theorem hasField_site :
    HasField (readRecord Settings) "site" fun v s => { s with site := some v } := by
  refine .record (fun _ => rfl) ?_
  repeat first
    | refine .of_rest (ignores_optional (by decide)) fun _ => ?_
    | refine .of_rest (ignores_sizing (by decide) (by decide)) fun _ => ?_
  refine .of_first hasField_optional fun new old d value => ?_
  have hidentity := ServiceIdentity.readsOnly_fieldNames "site" (by decide) d value
  repeat first
    | refine bind_eq_map_bind (ignores_optional (by decide) d value) fun _ => ?_
    | refine bind_eq_map_bind hidentity fun _ => ?_
  rfl

theorem hasField_identity : ∀ f ∈ ServiceIdentity.textFields,
    HasField (readRecord Settings) f.key fun v s => { s with identity := f.set v s.identity } := by
  intro f hf
  have hne {other : String} (h : other ∉ ServiceIdentity.fieldNames) : f.key ≠ other :=
    ne_of_mem_of_not_mem (ServiceIdentity.key_mem_fieldNames f hf) h
  refine .record (fun _ => rfl) ?_
  repeat first
    | refine .of_rest (ignores_optional (hne (by decide))) fun _ => ?_
    | refine .of_rest (ignores_sizing (hne (by decide)) (hne (by decide))) fun _ => ?_
  refine .of_first (ServiceIdentity.hasField f hf) fun new old d value => ?_
  repeat refine bind_eq_map_bind (ignores_optional (hne (by decide)) d value) fun _ => ?_
  rfl

theorem filter_textFields :
    textFields.filter (fun f => Text.lowerCase f.key = f.key) =
      [{ key := "registry", set := fun v s => { s with registry := some v } },
        { key := "site", set := fun v s => { s with site := some v } }] ++
      ServiceIdentity.textFields.map (within fun f s => { s with identity := f s.identity }) := rfl

theorem isOverridable : ∀ f ∈ textFields, f.IsOverridable (readRecord Settings) := by
  refine isOverridable_of_mem readsOnly_fieldNames (by decide +kernel) ?_
  simp only [filter_textFields, List.forall_mem_append, List.forall_mem_cons, List.forall_mem_map]
  exact ⟨⟨isOverridable_of_hasField hasField_registry (by decide) rfl,
    isOverridable_of_hasField hasField_site (by decide) rfl, nofun⟩,
    ServiceIdentity.isOverridable_within hasField_identity⟩

end Fargate.Settings

/-! Sections of a stack, whose settings are an object of their own. -/

theorem LambdaSection.hasField_settings :
    HasField (readRecord LambdaSection) "props" fun settings s => { s with settings } := by
  refine .record (fun _ => rfl) (.of_first hasField_orElse fun new old d value => ?_)
  repeat refine bind_eq_map_bind (ignores_orElse (by decide) d value) fun _ => ?_
  rfl

theorem FargateSection.hasField_settings :
    HasField (readRecord FargateSection) "props" fun settings s => { s with settings } := by
  refine .record (fun _ => rfl) (.of_first hasField_orElse fun new old d value => ?_)
  repeat refine bind_eq_map_bind (ignores_orElse (by decide) d value) fun _ => ?_
  rfl

theorem LambdaSection.isOverridable :
    ∀ f ∈ textFields, f.IsOverridable (readRecord LambdaSection) := by
  refine List.forall_mem_map.mpr fun f hf => ?_
  exact (Lambda.Settings.isOverridable f hf).under hasField_settings (fun _ _ _ => rfl) (by decide)

theorem FargateSection.isOverridable :
    ∀ f ∈ textFields, f.IsOverridable (readRecord FargateSection) := by
  refine List.forall_mem_map.mpr fun f hf => ?_
  exact (Fargate.Settings.isOverridable f hf).under hasField_settings (fun _ _ _ => rfl) (by decide)

namespace Stack

def fieldNames : List String :=
  ["account", "context", "git", "lambda", "ecs", "stepFunctions", "apiGateway"]

theorem readsOnly_fieldNames : ReadsOnly (readRecord Stack) fieldNames := by
  refine .record (fun _ => rfl) fun key hkey => ?_
  have hne {other : String} (h : other ∈ fieldNames) : key ≠ other :=
    (ne_of_mem_of_not_mem h hkey).symm
  repeat first
    | refine .bind (ignores_optional (hne (by decide))) fun _ => ?_
    | refine .bind (ignores_orElse (hne (by decide))) fun _ => ?_
  exact ignores_pure _

/-- The fields of a stack that texts are in. -/
theorem hasField :
    HasField (readRecord Stack) "account" (fun v s => { s with account := some v }) ∧
    HasField (readRecord Stack) "git" (fun git s => { s with git := some git }) ∧
    HasField (readRecord Stack) "lambda" (fun lambda s => { s with lambda := some lambda }) ∧
    HasField (readRecord Stack) "ecs" (fun fargate s => { s with fargate := some fargate }) := by
  refine ⟨?account, ?git, ?lambda, ?ecs⟩
  all_goals
    refine .record (fun _ => rfl) ?_
    repeat first
      | refine .of_rest (ignores_optional (by decide)) fun _ => ?_
      | refine .of_rest (ignores_orElse (by decide)) fun _ => ?_
    refine .of_first hasField_optional fun new old d value => ?_
    repeat first
      | refine bind_eq_map_bind (ignores_optional (by decide) d value) fun _ => ?_
      | refine bind_eq_map_bind (ignores_orElse (by decide) d value) fun _ => ?_
    rfl

/-- A stack read from the fields of its description. -/
def ofFields? (fields : Dict Json) : Option Stack := decode? (withPayloads (.ofDict fields))

/-- The payloads without a value, which are empty, stand under one key. -/
theorem exists_ofFields?_eq : ∃ change : Json → Json,
    ofFields? = fun fields => readRecord Stack (fields.mapAt "stepFunctions" change) :=
  ⟨_, rfl⟩

theorem isOverridable : ∀ f ∈ textFields, f.IsOverridable ofFields? := by
  obtain ⟨haccount, hgit, hlambda, hfargate⟩ := hasField
  obtain ⟨change, hread⟩ := exists_ofFields?_eq
  rw [hread]
  unfold textFields
  simp only [List.forall_mem_append, List.forall_mem_map, List.forall_mem_singleton]
  refine ⟨⟨⟨⟨?account, fun f hf => ?git⟩, fun f hf => ?lambda⟩, fun f hf => ?fargate⟩,
    fun f _ => ?stepFunctions⟩
  case account =>
    exact isOverridable_of_hasField (haccount.mapAt _ change (by decide)) (by decide) rfl
  case git =>
    exact (GitMetadata.isOverridable f hf).under (hgit.mapAt _ change (by decide))
      (fun _ _ _ => rfl) (by decide)
  case lambda =>
    exact (LambdaSection.isOverridable f hf).under (hlambda.mapAt _ change (by decide))
      (fun _ _ _ => rfl) (by decide)
  case fargate =>
    exact (FargateSection.isOverridable f hf).under (hfargate.mapAt _ change (by decide))
      (fun _ _ _ => rfl) (by decide)
  case stepFunctions =>
    exact isOverridable_of_ignored (readsOnly_fieldNames.mapAt _ change)
      (by change Text.lowerCase "stepFunctions" ≠ "stepFunctions"; decide)
      (by change Text.lowerCase "stepFunctions" ∉ fieldNames; decide)

end Stack

end TelemetryWiring
