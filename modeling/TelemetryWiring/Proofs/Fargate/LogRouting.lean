import TelemetryWiring.Proofs.Fargate.Secrets
import TelemetryWiring.Proofs.Tags.Monoid

/-!
Where logs are routed, what a container's log driver says of the Agent. The tags of a log line are
written as a text in front of which the Agent's own tags stand, so they come out as the Agent's tags
with the name of the cluster merged in; the key goes into the driver the way it goes into the Agent,
as a text or as a secret.
-/
namespace TelemetryWiring

/-- A driver that has the key of a source, under one name and in one of its two maps. Nothing would
decrypt a ciphertext. -/
def ApiKeySource.IsCarriedBy (driver : LogDriver) : ApiKeySource → Prop
  | .plain key => driver.options.get? "apikey" = some key ∧ driver.secretOptions = .empty
  | .secret ref =>
    driver.options.get? "apikey" = none ∧ driver.secretOptions = .ofList [("apikey", ref)]
  | .secretArn arn =>
    driver.options.get? "apikey" = none ∧
      driver.secretOptions = .ofList [("apikey", { secretArn := arn })]
  | .kmsEncrypted _ => False

namespace Fargate

namespace Config

/-- The tags that name the cluster. -/
def clusterTags (c : Config) : Tags :=
  match c.clusterName with
  | some cluster => Tags.parse ("ecs_cluster_name:" ++ cluster)
  | none => .empty

/-- A driver that says the same of a container's logs as the Agent of a container's telemetry. -/
structure AgreesWithAgent (c : Config) (agent : Container) (driver : LogDriver) : Prop where
  tags : Tags.parse ((driver.options.get? "dd_tags").getD "") =
    (Tags.parse ((agent.environment.get? "DD_TAGS").getD "")).merge c.clusterTags
  untagged_iff : driver.options.get? "dd_tags" = none ↔
    agent.environment.get? "DD_TAGS" = none ∧ c.clusterName = none
  key : ∃ source, c.apiKey = some source ∧ source.IsCarriedBy driver

theorem get?_tags_logDriver (c : Config) : c.logDriver.options.get? "dd_tags" = c.logTags := by
  unfold logDriver
  rw [Dict.get?_ofList, lastValue_append]
  simp [lastValue_filterMap_cons, lastValue]

theorem get?_apiKey_logDriver (c : Config) : c.logDriver.options.get? "apikey" = c.plainKey? := by
  unfold logDriver
  rw [Dict.get?_ofList, lastValue_append]
  simp [lastValue_filterMap_cons, lastValue]

/-- The text of the tags reads as the Agent's tags with the cluster's merged in. -/
theorem parse_logTags (c : Config) :
    Tags.parse (c.logTags.getD "") =
      (Tags.parse ((c.agentEnvironment.get? "DD_TAGS").getD "")).merge c.clusterTags := by
  have hnothing : Tags.parse "" = .empty := by decide
  unfold logTags clusterTags
  cases c.clusterName with
  | none => exact (Tags.merge_empty _).symm
  | some cluster =>
    cases c.agentEnvironment.get? "DD_TAGS" with
    | none =>
      change Tags.parse ("" ++ "ecs_cluster_name:" ++ cluster) = (Tags.parse "").merge _
      rw [String.empty_append, hnothing, Tags.empty_merge]
    | some tags =>
      change Tags.parse (tags ++ ", " ++ "ecs_cluster_name:" ++ cluster) = (Tags.parse tags).merge _
      rw [String.append_assoc, Tags.parse_append_comma_blank]

theorem logTags_eq_none_iff (c : Config) :
    c.logTags = none ↔ c.agentEnvironment.get? "DD_TAGS" = none ∧ c.clusterName = none := by
  unfold logTags
  cases c.clusterName <;> simp

theorem isCarriedBy_logDriver {c : Config} {options : ValidationOptions}
    (h : c.IsAccepted options) :
    ∃ source, c.apiKey = some source ∧ source.IsCarriedBy c.logDriver := by
  obtain ⟨source, hsource, hplain⟩ := h.apiKey
  refine ⟨source, hsource, ?_⟩
  have hkey := c.get?_apiKey_logDriver
  have hsecret : c.logDriver.secretOptions =
      .ofList (c.keySecret?.map fun ref => ("apikey", ref)).toList := rfl
  unfold plainKey? at hkey
  unfold keySecret? at hsecret
  rw [hsource] at hkey hsecret
  cases source with
  | plain | secret | secretArn => exact ⟨hkey, hsecret⟩
  | kmsEncrypted => cases hplain

theorem agreesWithAgent_logDriver {c : Config} {options : ValidationOptions}
    (h : c.IsAccepted options) (linux : Bool) :
    c.AgreesWithAgent (c.agentContainer linux) c.logDriver := by
  have henvironment : (c.agentContainer linux).environment.get? "DD_TAGS" =
      c.agentEnvironment.get? "DD_TAGS" := by
    rw [agentContainer_eq]
    exact EnvironmentLedger.get?_values ..
  constructor
  case tags => rw [get?_tags_logDriver, henvironment, parse_logTags]
  case untagged_iff => rw [get?_tags_logDriver, henvironment, logTags_eq_none_iff]
  case key => exact isCarriedBy_logDriver h

theorem logging_agentContainer (c : Config) (linux : Bool) :
    (c.agentContainer linux).logging = if linux then c.logDriver? else none := by
  rw [agentContainer_eq]
  rfl

end Config

namespace WiredTask

variable {id : String} {task : TaskSettings} {settings defaults : Settings}
  {options : ValidationOptions} {w : WiredTask}

/-- Where logs are routed, all applications, whatever additions are tried, ship their logs with one
driver, which on Linux is the Agent's own and which agrees with the Agent. -/
theorem logs_agreeWithAgent_run (h : ofSettings id task settings defaults options = .ok w)
    (hrouter : w.config.logCollection.usesRouter = true)
    (calls : List (String × ContainerOptions)) :
    ∃ agent driver, (w.run calls).task.container? agentName = some agent ∧
      (∀ c ∈ (w.run calls).task.containers, c.name ∉ reservedNames → c.logging = some driver) ∧
      (task.isLinux = true → agent.logging = some driver) ∧
      w.config.AgreesWithAgent agent driver := by
  refine ⟨w.config.agentContainer w.linux, w.config.logDriver, container?_agentName_run h calls, ?_,
    ?_, Config.agreesWithAgent_logDriver (isAccepted_of_ofSettings h) w.linux⟩
  · intro c hc happlication
    rcases (mem_containers_run_iff h).mp hc with hmanaged | ⟨call, -, rfl⟩
    · exact absurd (name_mem_reservedNames hmanaged) happlication
    · rw [containerOf_logging, if_pos hrouter]
  · intro hlinux
    rw [Config.logging_agentContainer, (platform_of_ofSettings h).1, if_pos hlinux,
      Config.logDriver?, if_pos hrouter]

/-- Two applications, one of which brings a driver of its own, for a key from a secret and tags from
the caller's variables. -/
theorem logs_agreeWithAgent_run_of_secret_key :
    ∃ w, ofSettings "web" {}
        { apiKeys := { secretArn := some "arn:key" }
          clusterName := some "shop"
          environment := some (.ofList [("DD_TAGS", "team:a canary")])
          logCollection := some { enabled := some true, loggingType := some .fluentBit } } {} {} =
        .ok w ∧
      w.config.logCollection.usesRouter = true ∧
      ∃ agent driver,
        (w.run [("app", {}), ("job", { logging := some { driver := "awslogs" } })]).task.container?
          agentName = some agent ∧
        agent.logging = some driver ∧
        (∀ c ∈ (w.run [("app", {}),
            ("job", { logging := some { driver := "awslogs" } })]).task.containers,
          c.name ∉ reservedNames → c.logging = some driver) ∧
        (Tags.parse ((driver.options.get? "dd_tags").getD "")).entries =
          [("team", some "a"), ("canary", none), ("ecs_cluster_name", some "shop")] ∧
        driver.options.get? "apikey" = none ∧
        driver.secretOptions = .ofList [("apikey", { secretArn := "arn:key" })] := by
  refine ⟨_, (fun hw => ⟨hw, rfl, ?_⟩) rfl⟩
  obtain ⟨agent, driver, hagent, hshipped, hlinux, hagrees⟩ := logs_agreeWithAgent_run hw rfl
    [("app", {}), ("job", { logging := some { driver := "awslogs" } })]
  obtain ⟨source, hsource, hkey⟩ := hagrees.key
  refine ⟨agent, driver, hagent, hlinux rfl, hshipped, ?_, ?_⟩
  · rw [hagrees.tags]
    cases hagent
    decide
  · cases hsource
    exact hkey

end WiredTask
end Fargate
end TelemetryWiring
