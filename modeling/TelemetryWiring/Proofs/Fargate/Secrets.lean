import TelemetryWiring.Proofs.Fargate.AgentEnvironment
import TelemetryWiring.Proofs.Fargate.WellFormed

/-!
Variables that are secrets as well. A container receives its variables and its secrets as two maps,
and whatever starts it refuses a name that stands in both. The wiring fills the maps without a look
at each other, so they stay apart only where neither the Agent's environment names the key nor a
secret of an application has a name that the wiring gives a variable.
-/
namespace TelemetryWiring

def ContainerOptions.SecretsApart (o : ContainerOptions) : Prop := o.environment.Apart o.secrets

instance (o : ContainerOptions) : Decidable o.SecretsApart :=
  inferInstanceAs (Decidable (o.environment.Apart o.secrets))

/-- No variable of a container is a secret of it as well. -/
def Container.SecretsApart (c : Container) : Prop := c.environment.Apart c.secrets

instance (c : Container) : Decidable c.SecretsApart :=
  inferInstanceAs (Decidable (c.environment.Apart c.secrets))

namespace Fargate

namespace Config

variable {c : Config} {linux : Bool}

/-- The key in the Agent's environment, be it the caller's own. -/
theorem get?_apiKey_agentEnvironment (c : Config) :
    c.agentEnvironment.values.get? "DD_API_KEY" =
      c.plainKey?.or (c.environment.get? "DD_API_KEY") := by
  rw [EnvironmentLedger.get?_values, get?_agentEnvironment]
  exact Option.or_none

theorem get?_agentSecrets (c : Config) (linux : Bool) (key : String) :
    (c.agentOptions linux).secrets.get? key =
      if "DD_API_KEY" = key then c.keySecret? else none := by
  change (Dict.empty.insertMany _).get? key = _
  rw [Dict.get?_insertMany, lastValue_toList, Dict.get?_empty, Option.or_none]

theorem mem_keys_agentSecrets_iff {key : String} :
    key ∈ (c.agentOptions linux).secrets.keys ↔
      key = "DD_API_KEY" ∧ c.keySecret?.isSome = true := by
  rw [Dict.mem_keys_iff, get?_agentSecrets]
  by_cases hkey : "DD_API_KEY" = key
  · simp [← hkey]
  · simp [hkey, Ne.symm hkey]

/-- The key comes in plain text or as a secret, and not both ways. -/
theorem IsAccepted.isSome_keySecret? {options : ValidationOptions} (h : c.IsAccepted options) :
    c.keySecret?.isSome = !c.plainKey?.isSome := by
  obtain ⟨source, hsource, hplain⟩ := h.apiKey
  unfold plainKey? keySecret?
  rw [hsource]
  cases source with
  | plain | secret | secretArn => rfl
  | kmsEncrypted => cases hplain

/-- The Agent keeps its secrets apart unless the caller names the key for a source that is a
secret. -/
theorem secretsApart_agentContainer_iff {options : ValidationOptions} (h : c.IsAccepted options) :
    (c.agentContainer linux).SecretsApart ↔
      (c.keySecret?.isSome = true → "DD_API_KEY" ∉ c.environment.keys) := by
  have hkeys : "DD_API_KEY" ∈ c.agentEnvironment.values.keys ↔
      c.plainKey?.isSome = true ∨ "DD_API_KEY" ∈ c.environment.keys := by
    rw [Dict.mem_keys_iff, get?_apiKey_agentEnvironment, Option.isSome_or, Bool.or_eq_true,
      ← Dict.mem_keys_iff]
  have hsource := h.isSome_keySecret?
  rw [agentContainer_eq]
  change (∀ key ∈ c.agentEnvironment.values.keys, key ∉ (c.agentOptions linux).secrets.keys) ↔ _
  constructor
  · intro hapart hsecret hmem
    exact hapart _ (hkeys.mpr (.inr hmem)) (mem_keys_agentSecrets_iff.mpr ⟨rfl, hsecret⟩)
  · intro habsent key hkey hmem
    obtain ⟨rfl, hsecret⟩ := mem_keys_agentSecrets_iff.mp hmem
    rcases hkeys.mp hkey with hplain | hcaller
    · simp [hsecret, hplain] at hsource
    · exact habsent hsecret hcaller

/-- What the Agent has under the name of the key. -/
theorem get?_apiKey_agentContainer (c : Config) (linux : Bool) :
    (c.agentContainer linux).environment.get? "DD_API_KEY" =
        c.plainKey?.or (c.environment.get? "DD_API_KEY") ∧
      (c.agentContainer linux).secrets.get? "DD_API_KEY" = c.keySecret? := by
  rw [agentContainer_eq]
  exact ⟨c.get?_apiKey_agentEnvironment, c.get?_agentSecrets linux "DD_API_KEY"⟩

/-- The other containers of the wiring have no secrets. -/
theorem secretsApart_of_mem_managedContainers {e : Container}
    (he : e ∈ c.managedContainers linux) (hname : e.name ≠ agentName) : e.SecretsApart := by
  rcases mem_managedContainers_iff.mp he with rfl | ⟨rfl, -⟩ | ⟨rfl, -⟩
  · exact absurd (agentContainer_name c linux) hname
  · rw [workloadSecurityContainer_eq]
    exact List.forall_mem_nil _
  · exact List.forall_mem_nil _

/-- The Agent is known by its name among the containers of the wiring. -/
theorem eq_agentContainer_of_name {e : Container} (he : e ∈ c.managedContainers linux)
    (hname : e.name = agentName) : e = c.agentContainer linux := by
  rcases mem_managedContainers_iff.mp he with rfl | ⟨rfl, -⟩ | ⟨rfl, -⟩
  · rfl
  · rw [workloadSecurityContainer_name] at hname
    exact absurd hname (by decide)
  · change logRouterName = agentName at hname
    exact absurd hname (by decide)

end Config

namespace WiredTask

variable {id : String} {task : TaskSettings} {settings defaults : Settings}
  {options : ValidationOptions} {w : WiredTask}

/-- The container of an application keeps its secrets apart exactly if none of them has the name of
a variable that leads to the Agent. -/
theorem secretsApart_containerOf_iff {call : String × ContainerOptions}
    (h : call.2.SecretsApart) :
    (w.containerOf call).SecretsApart ↔
      ∀ key ∈ w.applicationVariables.map (·.1), key ∉ (w.containerOf call).secrets.keys := by
  rw [Container.SecretsApart, containerOf_environment, containerOf_secrets]
  exact Dict.apart_insertMany_iff h

/-- Whatever settings are accepted, and whatever calls come after that keep their own secrets
apart: the Agent keeps its secrets apart exactly if the caller does not name the key for a source
that is a secret, an application exactly if none of its secrets has the name of a variable of the
wiring, and every other container in any case. The Agent has the key as its source says, in its
environment or among its secrets; beside a secret, its environment has what the caller put there. -/
theorem secretsApart_run_iff (h : ofSettings id task settings defaults options = .ok w)
    {calls : List (String × ContainerOptions)} (hcalls : ∀ call ∈ calls, call.2.SecretsApart) :
    (∀ c ∈ (w.run calls).task.containers, (c.SecretsApart ↔
      (c.name = agentName → w.config.keySecret?.isSome = true →
        "DD_API_KEY" ∉ w.config.environment.keys) ∧
      (c.name ∉ reservedNames →
        ∀ key ∈ w.applicationVariables.map (·.1), key ∉ c.secrets.keys))) ∧
    ∃ agent, (w.run calls).task.container? agentName = some agent ∧
      agent.environment.get? "DD_API_KEY" =
        w.config.plainKey?.or (w.config.environment.get? "DD_API_KEY") ∧
      agent.secrets.get? "DD_API_KEY" = w.config.keySecret? ∧
      w.config.keySecret?.isSome = !w.config.plainKey?.isSome := by
  have haccepted := isAccepted_of_ofSettings h
  constructor
  · intro c hc
    rcases (mem_containers_run_iff h).mp hc with hmanaged | ⟨call, hcall, rfl⟩
    · have hreserved := name_mem_reservedNames hmanaged
      by_cases hagent : c.name = agentName
      · rw [Config.eq_agentContainer_of_name hmanaged hagent,
          Config.secretsApart_agentContainer_iff haccepted, Config.agentContainer_name]
        rw [hagent] at hreserved
        simp [hreserved]
      · have hapart := Config.secretsApart_of_mem_managedContainers hmanaged hagent
        simp [hagent, hreserved, hapart]
    · have happlication := name_not_mem_reservedNames hcall
      have hagent : (w.containerOf call).name ≠ agentName := fun hname =>
        happlication (hname ▸ List.mem_cons_self)
      rw [secretsApart_containerOf_iff (hcalls call ((accepted_sublist w calls).subset hcall))]
      simp [hagent, happlication]
  · obtain ⟨henvironment, hsecrets⟩ := w.config.get?_apiKey_agentContainer w.linux
    exact ⟨_, container?_agentName_run h calls, henvironment, hsecrets,
      haccepted.isSome_keySecret?⟩

/-- A key from a secret, with neither the caller's environment nor a secret of the application in
its way. -/
theorem secretsApart_run_iff_of_secret_key :
    ∃ w, ofSettings "web" {}
        { apiKeys := { secretArn := some "arn:key" }
          environment := some (.ofList [("DD_LOG_LEVEL", "debug")])
          identity := { env := some "prod" } } {} {} = .ok w ∧
      ∃ calls, w.accepted calls = [("app", { secrets := .ofList [("TOKEN", ⟨"arn", none⟩)] })] ∧
        (∃ app ∈ (w.run calls).task.containers, app.name = "app" ∧ app.SecretsApart) ∧
        ∃ agent ∈ (w.run calls).task.containers, agent.SecretsApart ∧
          (w.run calls).task.container? agentName = some agent ∧
          agent.environment.get? "DD_API_KEY" = none ∧
          agent.secrets.get? "DD_API_KEY" = some ⟨"arn:key", none⟩ := by
  refine ⟨_, (fun hw => ⟨hw, [("app", { secrets := .ofList [("TOKEN", ⟨"arn", none⟩)] })],
    rfl, ?_⟩) rfl⟩
  have hcalls : ∀ call ∈ [("app", { secrets := .ofList [("TOKEN", ⟨"arn", none⟩)] })],
      ContainerOptions.SecretsApart call.2 := by decide
  obtain ⟨hapart, agent, hagent, henvironment, hsecrets, -⟩ := secretsApart_run_iff hw hcalls
  constructor
  · have happ := hapart _ (List.mem_of_getElem? (i := 1) rfl)
    exact ⟨_, List.mem_of_getElem? (i := 1) rfl, rfl, happ.mpr (by decide)⟩
  · cases hagent
    have hkey := hapart _ (List.mem_of_getElem? (i := 0) rfl)
    exact ⟨_, List.mem_of_getElem? (i := 0) rfl, hkey.mpr (by decide), rfl, henvironment, hsecrets⟩

/-- A caller who names the key as a variable, and an application with a secret that is named like a
variable of the wiring: the Agent and the application each have one name in both maps. -/
theorem secrets_overlap_in_every_container :
    ∃ w, ofSettings "web" {}
        { apiKeys := { secretArn := some "arn:key" }
          environment := some (.ofList [("DD_API_KEY", "old")])
          identity := { env := some "prod" } } {} {} = .ok w ∧
      ∃ calls : List (String × ContainerOptions), (∀ call ∈ calls, call.2.SecretsApart) ∧
        (w.run calls).task.containers.map (·.name) = ["datadog-agent", "app"] ∧
        ∀ c ∈ (w.run calls).task.containers, ¬c.SecretsApart := by
  refine ⟨_, rfl, [("app", { secrets := .ofList [("DD_ENV", ⟨"arn:env", none⟩)] })], ?_⟩
  decide

end WiredTask
end Fargate
end TelemetryWiring
