import TelemetryWiring.Proofs.Dict
import TelemetryWiring.Proofs.Fargate.Run

/-!
The Agent's environment. A ledger tells the last value that was written under each key and whether
it was the first, whatever the writes were. For the Agent the writes come in three layers, none of
which writes a variable twice: what counts is the uppermost layer that defines a variable, and the
variables that replaced a value are those that stand in more than one layer.
-/
namespace TelemetryWiring.Fargate

namespace EnvironmentLedger

/-- What is asked of a ledger: one variable, which is only written with a value, or many. -/
inductive Request where
  | add (key : String) (value : Option String)
  | addAll (assignments : List (String × String))

/-- The values that a request writes, in order. -/
def Request.writes : Request → List (String × String)
  | .add key value => (value.map fun v => (key, v)).toList
  | .addAll assignments => assignments

/-- The ledger after a request. -/
def serve (l : EnvironmentLedger) : Request → EnvironmentLedger
  | .add key (some value) => l.write key value
  | .add _ none => l
  | .addAll assignments => l.writeAll assignments

/-- The ledger after requests one after the other. -/
def run (l : EnvironmentLedger) (requests : List Request) : EnvironmentLedger :=
  requests.foldl serve l

/-- A ledger that tells what writes came to. -/
def Records (l : EnvironmentLedger) (writes : List (String × String)) : Prop :=
  ∀ key, l.entries.get? key =
    (lastValue key writes).map fun value => ⟨value, decide (2 ≤ timesWritten key writes)⟩

variable {l : EnvironmentLedger} {writes : List (String × String)}

theorem records_empty : ({} : EnvironmentLedger).Records [] := fun _ => rfl

theorem Records.write (h : l.Records writes) (key value : String) :
    (l.write key value).Records (writes ++ [(key, value)]) := by
  intro other
  have hreplaces : l.entries.contains key = decide (2 ≤ timesWritten key writes + 1) := by
    rw [Dict.contains, h key, Option.isSome_map, isSome_lastValue_eq]
    simp
  rw [EnvironmentLedger.write, Dict.get?_insert, hreplaces, h other, lastValue_append,
    timesWritten_append, timesWritten_singleton]
  by_cases hkey : key = other
  · subst hkey
    simp [lastValue]
  · simp [lastValue, hkey]

theorem Records.writeAll (h : l.Records writes) (assignments : List (String × String)) :
    (l.writeAll assignments).Records (writes ++ assignments) := by
  induction assignments generalizing l writes with
  | nil => rwa [List.append_nil]
  | cons e assignments ih =>
    rw [List.append_cons]
    exact ih (h.write e.1 e.2)

theorem Records.serve (h : l.Records writes) (request : Request) :
    (l.serve request).Records (writes ++ request.writes) := by
  cases request with
  | add key value =>
    cases value with
    | none => exact (List.append_nil writes).symm ▸ h
    | some value => exact h.write key value
  | addAll assignments => exact h.writeAll assignments

theorem Records.run (h : l.Records writes) (requests : List Request) :
    (l.run requests).Records (writes ++ requests.flatMap Request.writes) := by
  induction requests generalizing l writes with
  | nil => rwa [List.flatMap_nil, List.append_nil]
  | cons request requests ih =>
    rw [List.flatMap_cons, ← List.append_assoc]
    exact ih (h.serve request)

theorem Records.get?_eq (h : l.Records writes) (key : String) :
    l.get? key = lastValue key writes := by
  rw [get?, h key, Option.map_map]
  exact Option.map_id'

theorem mem_overwritten_iff {key : String} :
    key ∈ l.overwritten ↔ ∃ e, l.entries.get? key = some e ∧ e.replaces = true := by
  simp only [overwritten, List.mem_map, List.mem_filter, Dict.toList, Dict.get?_eq_some_iff]
  constructor
  · rintro ⟨⟨key, e⟩, ⟨hmem, hreplaces⟩, rfl⟩
    exact ⟨e, hmem, hreplaces⟩
  · rintro ⟨e, hmem, hreplaces⟩
    exact ⟨(key, e), ⟨hmem, hreplaces⟩, rfl⟩

theorem Records.mem_overwritten_iff (h : l.Records writes) {key : String} :
    key ∈ l.overwritten ↔ 2 ≤ timesWritten key writes := by
  rw [EnvironmentLedger.mem_overwritten_iff, h key]
  constructor
  · rintro ⟨e, he, hreplaces⟩
    obtain ⟨value, -, rfl⟩ := Option.map_eq_some_iff.mp he
    exact of_decide_eq_true hreplaces
  · intro htwice
    have hwritten : (lastValue key writes).isSome = true := by
      rw [isSome_lastValue_eq]
      exact decide_eq_true (Nat.le_of_succ_le htwice)
    obtain ⟨value, hvalue⟩ := Option.isSome_iff_exists.mp hwritten
    rw [hvalue]
    exact ⟨_, rfl, decide_eq_true htwice⟩

theorem get?_values (l : EnvironmentLedger) (key : String) : l.values.get? key = l.get? key :=
  Dict.get?_mapValues ..

/-- What writes came to: the last value of each key, and the keys, in order, that were written more
than once. -/
structure Tells (l : EnvironmentLedger) (writes : List (String × String)) : Prop where
  value : ∀ key, l.get? key = lastValue key writes
  overwritten : ∀ key, key ∈ l.overwritten ↔ 2 ≤ timesWritten key writes
  overwritten_sorted : l.overwritten.Pairwise (· < ·)

theorem Records.tells (h : l.Records writes) : l.Tells writes where
  value := h.get?_eq
  overwritten _ := h.mem_overwritten_iff
  overwritten_sorted := List.pairwise_map.mpr (l.entries.sorted.sublist List.filter_sublist)

end EnvironmentLedger

/-- The value that every task on Fargate starts from. -/
def fargateDefault? : String → Option String
  | "DD_ECS_TASK_COLLECTION_ENABLED" | "ECS_FARGATE" => some "true"
  | _ => none

namespace Config

/-- The value that a configuration defines for a variable. -/
def derived? (c : Config) : String → Option String
  | "DD_INSTALL_INFO_TOOL" => some "cdk"
  | "DD_INSTALL_INFO_TOOL_VERSION" => some "datadog-cdk-constructs"
  | "DD_INSTALL_INFO_INSTALLER_VERSION" => some "0.1.0"
  | "DD_API_KEY" => c.plainKey?
  | "DD_SITE" => some c.site
  | "DD_ENV" => c.identity.env
  | "DD_SERVICE" => c.identity.service
  | "DD_VERSION" => c.identity.version
  | "DD_CHECKS_TAG_CARDINALITY" => c.checksCardinality.map (·.name)
  | "DD_TAGS" => c.globalTags
  | "DD_CLUSTER_NAME" => c.clusterName
  | "DD_DOGSTATSD_ORIGIN_DETECTION" | "DD_DOGSTATSD_ORIGIN_DETECTION_CLIENT" =>
    if c.dogstatsd.originDetection then some "true" else none
  | "DD_DOGSTATSD_TAG_CARDINALITY" => some c.dogstatsd.cardinality.name
  | "DD_RUNTIME_SECURITY_CONFIG_ENABLED" | "DD_RUNTIME_SECURITY_CONFIG_EBPFLESS_ENABLED" =>
    if c.workloadSecurity.enabled then some "true" else none
  | "DD_ECS_TASK_COLLECTION_ENABLED" => some (if c.explorer.enabled then "true" else "false")
  | "DD_ORCHESTRATOR_EXPLORER_ORCHESTRATOR_DD_URL" => c.explorer.url
  | _ => none

/-- An environment in three layers: what the configuration defines, what the caller asks for, and
the defaults. -/
structure IsLayered (c : Config) (l : EnvironmentLedger) : Prop where
  value : ∀ key,
    l.get? key = ((c.derived? key).or (c.environment.get? key)).or (fargateDefault? key)
  /-- What the caller alone asks for passes through. -/
  passed : ∀ key, c.derived? key = none → fargateDefault? key = none →
    l.get? key = c.environment.get? key
  /-- A value was replaced exactly where two layers have one. -/
  overwritten : ∀ key, key ∈ l.overwritten ↔
    2 ≤ [c.derived? key, c.environment.get? key, fargateDefault? key].countP (·.isSome)

/-- The keys of the variables that a configuration may define. -/
def agentKeys : List String :=
  ["DD_INSTALL_INFO_TOOL", "DD_INSTALL_INFO_TOOL_VERSION", "DD_INSTALL_INFO_INSTALLER_VERSION"] ++
  ["DD_API_KEY"] ++ ["DD_SITE"] ++ ["DD_ENV", "DD_SERVICE", "DD_VERSION"] ++
  ["DD_CHECKS_TAG_CARDINALITY"] ++ ["DD_TAGS"] ++ ["DD_CLUSTER_NAME"] ++
  ["DD_DOGSTATSD_ORIGIN_DETECTION", "DD_DOGSTATSD_ORIGIN_DETECTION_CLIENT"] ++
  ["DD_DOGSTATSD_TAG_CARDINALITY"] ++
  ["DD_RUNTIME_SECURITY_CONFIG_ENABLED", "DD_RUNTIME_SECURITY_CONFIG_EBPFLESS_ENABLED"] ++
  ["DD_ECS_TASK_COLLECTION_ENABLED"] ++ ["DD_ORCHESTRATOR_EXPLORER_ORCHESTRATOR_DD_URL"]

theorem keys_agentVariables (c : Config) : (c.agentVariables.map (·.1)).Sublist agentKeys := by
  unfold agentVariables
  simp only [List.map_append]
  -- piece by piece from the end, a piece that is always written without more ado
  refine List.Sublist.append ?_ (keys_toList ..)
  refine List.Sublist.append ?_ (.refl _)
  refine List.Sublist.append ?_ (keys_ite ..)
  refine List.Sublist.append ?_ (.refl _)
  refine List.Sublist.append ?_ (keys_ite ..)
  repeat refine List.Sublist.append ?_ (keys_toList ..)
  refine List.Sublist.append ?_ (c.identity.keys_under ..)
  refine List.Sublist.append ?_ (.refl _)
  exact List.Sublist.append (.refl _) (keys_toList ..)

theorem nodup_keys_agentVariables (c : Config) : (c.agentVariables.map (·.1)).Nodup :=
  c.keys_agentVariables.nodup (by decide +kernel)

/-- What is written for a configuration is what it defines. -/
theorem lastValue_agentVariables (c : Config) (key : String) :
    lastValue key c.agentVariables = c.derived? key := by
  have hpair {p : Prop} [Decidable p] (first second : String) :
      lastValue key (if p then [(first, "true"), (second, "true")] else []) =
        if p ∧ (first = key ∨ second = key) then some "true" else none := by
    by_cases p <;> by_cases first = key <;> by_cases second = key <;> simp [lastValue, *]
  obtain ⟨henv, hservice, hversion⟩ :=
    c.identity.lastValue_under "DD_ENV" "DD_SERVICE" "DD_VERSION" (by decide)
  have hother (h : key ∉ ["DD_ENV", "DD_SERVICE", "DD_VERSION"]) :
      lastValue key (c.identity.under "DD_ENV" "DD_SERVICE" "DD_VERSION") = none :=
    c.identity.lastValue_under_eq_none h
  unfold derived?
  split
  case h_19 =>
    have hkey : key ∉ agentKeys := by simp_all [agentKeys]
    exact lastValue_eq_none_iff.mpr fun hmem => hkey (c.keys_agentVariables.subset hmem)
  all_goals
    simp [agentVariables, lastValue_append, lastValue_toList, lastValue, hpair, henv, hservice,
      hversion, hother, Construct.name, Construct.version, -Option.map_map]

theorem lastValue_fargateDefaults (key : String) :
    lastValue key fargateDefaults = fargateDefault? key := by
  unfold fargateDefault?
  split <;> simp_all [fargateDefaults, lastValue, eq_comm]

theorem records_agentEnvironment (c : Config) :
    c.agentEnvironment.Records (fargateDefaults ++ c.environment.toList ++ c.agentVariables) :=
  ((EnvironmentLedger.records_empty.writeAll _).writeAll _).writeAll _

/-- A variable of the Agent, from the uppermost layer that has it. -/
theorem get?_agentEnvironment (c : Config) (key : String) :
    c.agentEnvironment.get? key =
      ((c.derived? key).or (c.environment.get? key)).or (fargateDefault? key) := by
  have hcaller : lastValue key c.environment.toList = c.environment.get? key :=
    (c.environment.get?_eq_lastValue key).symm
  rw [c.records_agentEnvironment.get?_eq, lastValue_append, lastValue_append,
    lastValue_agentVariables, hcaller, lastValue_fargateDefaults, Option.or_assoc]

theorem isLayered_agentEnvironment (c : Config) : c.IsLayered c.agentEnvironment where
  value := c.get?_agentEnvironment
  passed key hderived hdefault := by
    rw [get?_agentEnvironment, hderived, hdefault, Option.none_or, Option.or_none]
  overwritten key := by
    have hdefaults : timesWritten key fargateDefaults =
        if (fargateDefault? key).isSome then 1 else 0 := by
      rw [timesWritten_of_nodup (by decide), lastValue_fargateDefaults]
    have hcaller : timesWritten key c.environment.toList =
        if (c.environment.get? key).isSome then 1 else 0 := by
      rw [Dict.get?_eq_lastValue]
      exact timesWritten_of_nodup c.environment.nodup_keys key
    have hderived : timesWritten key c.agentVariables =
        if (c.derived? key).isSome then 1 else 0 := by
      rw [timesWritten_of_nodup c.nodup_keys_agentVariables, lastValue_agentVariables]
    rw [c.records_agentEnvironment.mem_overwritten_iff, timesWritten_append, timesWritten_append,
      hdefaults, hcaller, hderived]
    simp only [List.countP_cons, List.countP_nil]
    omega

end Config

namespace WiredTask

/-- A ledger tells for any requests what they wrote, the environment of every configuration is in
three layers, and in every wired task, through any additions, the Agent has the environment of the
task's configuration. -/
theorem agentEnvironment_layers :
    (∀ requests : List EnvironmentLedger.Request,
      (EnvironmentLedger.run {} requests).Tells (requests.flatMap (·.writes))) ∧
    (∀ c : Config, c.IsLayered c.agentEnvironment) ∧
    ∀ (id : String) (task : TaskSettings) (settings defaults : Settings)
      (options : ValidationOptions) (w : WiredTask),
      ofSettings id task settings defaults options = .ok w →
      ∀ calls, ∃ agent, (w.run calls).task.container? agentName = some agent ∧
        agent.environment = w.config.agentEnvironment.values ∧
        (w.run calls).agentEnvironment = w.config.agentEnvironment := by
  refine ⟨?ledger, Config.isLayered_agentEnvironment, ?agent⟩
  case ledger =>
    intro requests
    have hrecords := EnvironmentLedger.records_empty.run requests
    rw [List.nil_append] at hrecords
    exact hrecords.tells
  case agent =>
    intro id task settings defaults options w h calls
    refine ⟨_, container?_agentName_run h calls, ?_, ?_⟩
    · rw [Config.agentContainer_eq]
      rfl
    · rw [agentEnvironment, run_eq]

/-- A variable in all three layers, one in two, and one of the caller's alone. -/
theorem agentEnvironment_layers_of_three_layers :
    ∃ w, ofSettings "web" {}
        { apiKeys := { plain := some "1234" }
          globalTags := some "team:a"
          environment := some (.ofList [("DD_ECS_TASK_COLLECTION_ENABLED", "no"),
            ("DD_LOG_LEVEL", "debug"), ("DD_TAGS", "team:b")]) } {} {} = .ok w ∧
      ∃ agent, (w.run [("app", {})]).task.container? agentName = some agent ∧
        agent.environment.get? "DD_ECS_TASK_COLLECTION_ENABLED" = some "true" ∧
        agent.environment.get? "DD_LOG_LEVEL" = some "debug" ∧
        agent.environment.get? "DD_TAGS" = some "team:a" ∧
        agent.environment.get? "ECS_FARGATE" = some "true" ∧
        "DD_ECS_TASK_COLLECTION_ENABLED" ∈ w.config.agentEnvironment.overwritten ∧
        "DD_TAGS" ∈ w.config.agentEnvironment.overwritten ∧
        "DD_LOG_LEVEL" ∉ w.config.agentEnvironment.overwritten := by
  refine ⟨_, (fun hw => ⟨hw, ?_⟩) rfl⟩
  obtain ⟨-, hlayered, hagent⟩ := agentEnvironment_layers
  obtain ⟨agent, hfound, henvironment, -⟩ := hagent _ _ _ _ _ _ hw [("app", {})]
  refine ⟨agent, hfound, ?_⟩
  simp only [henvironment, EnvironmentLedger.get?_values, (hlayered _).value,
    (hlayered _).overwritten]
  decide

end WiredTask
end TelemetryWiring.Fargate
