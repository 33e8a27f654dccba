import TelemetryWiring.Proofs.Dict
import TelemetryWiring.Proofs.Fargate.WellFormed

/-!
How applications reach the intakes of the Agent. An intake that is on is reached through its socket
where sockets are wanted and the task can mount them, and through the network otherwise. The Agent,
the volumes, the applications and the findings each decide this for themselves; they all agree.
-/
namespace TelemetryWiring.Fargate

/-- What the Agent opens to applications. -/
inductive Intake where
  | apm
  | dogstatsd
  deriving DecidableEq, Repr

namespace Intake

/-- The name of an intake in findings. -/
def title : Intake → String
  | apm => "APM"
  | dogstatsd => "DogStatsD"

/-- The variable that leads an application to the socket. -/
def urlVariable : Intake → String
  | apm => "DD_TRACE_AGENT_URL"
  | dogstatsd => "DD_DOGSTATSD_URL"

def socketUrl : Intake → String
  | apm => "unix:///var/run/datadog/apm.socket"
  | dogstatsd => "unix:///var/run/datadog/dsd.socket"

def isEnabled (c : Config) : Intake → Bool
  | apm => c.apm.enabled
  | dogstatsd => c.dogstatsd.enabled

def wantsSocket (c : Config) : Intake → Bool
  | apm => c.apm.socket
  | dogstatsd => c.dogstatsd.socket

/-- Whether an intake is reached through its socket. -/
def UsesSocket (c : Config) (linux : Bool) (intake : Intake) : Prop :=
  intake.isEnabled c = true ∧ intake.wantsSocket c = true ∧ linux = true

instance (c : Config) (linux : Bool) (intake : Intake) : Decidable (intake.UsesSocket c linux) :=
  inferInstanceAs (Decidable (_ ∧ _))

/-- Whether an intake is reached through the network. -/
def UsesNetwork (c : Config) (linux : Bool) (intake : Intake) : Prop :=
  intake.isEnabled c = true ∧ ¬intake.UsesSocket c linux

instance (c : Config) (linux : Bool) (intake : Intake) : Decidable (intake.UsesNetwork c linux) :=
  inferInstanceAs (Decidable (_ ∧ _))

theorem exists_iff {P : Intake → Prop} : (∃ intake, P intake) ↔ P apm ∨ P dogstatsd := by
  constructor
  · rintro ⟨_ | _, h⟩
    · exact .inl h
    · exact .inr h
  · rintro (h | h)
    · exact ⟨apm, h⟩
    · exact ⟨dogstatsd, h⟩

end Intake

namespace Config

variable {c : Config} {linux : Bool}

theorem usesSocket_apm_iff :
    Intake.apm.UsesSocket c linux ↔ c.apmSocket = true ∧ linux = true := by
  simp [Intake.UsesSocket, Intake.isEnabled, Intake.wantsSocket, apmSocket, and_assoc]

theorem usesSocket_dogstatsd_iff :
    Intake.dogstatsd.UsesSocket c linux ↔ c.dogstatsdSocket = true ∧ linux = true := by
  simp [Intake.UsesSocket, Intake.isEnabled, Intake.wantsSocket, dogstatsdSocket, and_assoc]

/-- The volume of the sockets is mounted exactly if some intake is reached through one. -/
theorem mountsSockets_eq_true_iff :
    c.mountsSockets linux = true ↔ ∃ intake : Intake, intake.UsesSocket c linux := by
  rw [Intake.exists_iff, usesSocket_apm_iff, usesSocket_dogstatsd_iff, mountsSockets,
    requestsSocket]
  grind

/-- The address of the Agent is given exactly if some intake is reached through the network. -/
theorem needsAgentHost_eq_true_iff :
    c.needsAgentHost linux = true ↔ ∃ intake : Intake, intake.UsesNetwork c linux := by
  rw [Intake.exists_iff, Intake.UsesNetwork, Intake.UsesNetwork, needsAgentHost, requestsNetwork,
    requestsSocket]
  grind [Intake.UsesSocket, Intake.isEnabled, Intake.wantsSocket, apmSocket, dogstatsdSocket]

/-- The findings about a platform name the intakes whose sockets give way to the network. -/
theorem exists_socketFallback_iff {options : ValidationOptions} {found : List Diagnostic}
    (h : c.checkPlatform linux options = .ok found) (intake : Intake) :
    (∃ reason, .socketFallback intake.title reason ∈ found) ↔
      intake.isEnabled c = true ∧ intake.wantsSocket c = true ∧ linux = false := by
  unfold checkPlatform at h
  cases linux with
  | true =>
    cases h
    simp
  | false =>
    rw [if_neg Bool.false_ne_true] at h
    split at h
    · cases h
    · cases h
      cases intake <;>
        simp [Intake.title, Intake.isEnabled, Intake.wantsSocket, apmSocket, dogstatsdSocket,
          List.mem_ite_nil_right]

end Config

namespace WiredTask

variable {id : String} {task : TaskSettings} {settings defaults : Settings}
  {options : ValidationOptions} {w : WiredTask}

/-- That the volume is mounted for some socket goes without saying where one is used. -/
theorem socketVariables_eq (c : Config) (linux : Bool) :
    (if c.mountsSockets linux then
      (if c.dogstatsdSocket then [("DD_DOGSTATSD_URL", dogstatsdSocketUrl)] else []) ++
      (if c.apmSocket then [("DD_TRACE_AGENT_URL", apmSocketUrl)] else [])
    else []) =
      (if Intake.dogstatsd.UsesSocket c linux then [("DD_DOGSTATSD_URL", dogstatsdSocketUrl)]
      else []) ++
      (if Intake.apm.UsesSocket c linux then [("DD_TRACE_AGENT_URL", apmSocketUrl)] else []) := by
  simp only [Config.usesSocket_apm_iff, Config.usesSocket_dogstatsd_iff]
  cases hdogstatsd : c.dogstatsdSocket <;> cases hapm : c.apmSocket <;> cases linux <;>
    simp [Config.mountsSockets, Config.requestsSocket, hdogstatsd, hapm]

theorem lastValue_urlVariable (intake : Intake) :
    lastValue intake.urlVariable w.applicationVariables =
      if intake.UsesSocket w.config w.linux then some intake.socketUrl else none := by
  have hidentity : lastValue intake.urlVariable
      (w.identity.under "DD_ENV" "DD_SERVICE" "DD_VERSION") = none :=
    w.identity.lastValue_under_eq_none (by cases intake <;> decide)
  dsimp only [applicationVariables]
  rw [socketVariables_eq, lastValue_append, hidentity]
  cases intake <;>
    simp [lastValue_append, lastValue_ite, Intake.urlVariable, Intake.socketUrl,
      dogstatsdSocketUrl, apmSocketUrl]

theorem lastValue_agentHost :
    lastValue "DD_AGENT_HOST" w.applicationVariables =
      if w.config.needsAgentHost w.linux then some "127.0.0.1" else none := by
  have hidentity : lastValue "DD_AGENT_HOST"
      (w.identity.under "DD_ENV" "DD_SERVICE" "DD_VERSION") = none :=
    w.identity.lastValue_under_eq_none (by decide)
  dsimp only [applicationVariables]
  rw [socketVariables_eq, lastValue_append, hidentity]
  simp [lastValue_append, lastValue_ite]

/-- A look-up in the environment of an application. -/
theorem get?_environment_containerOf (call : String × ContainerOptions) (key : String) :
    (w.containerOf call).environment.get? key =
      (lastValue key w.applicationVariables).or (call.2.environment.get? key) := by
  rw [containerOf_environment, Dict.get?_insertMany]

/-- What leads an application to the intakes, over what its caller asked for. -/
structure Reaches (w : WiredTask) (linux : Bool) (o : ContainerOptions) (c : Container) :
    Prop where
  /-- The variable of an intake leads to its socket, or is left to the caller. -/
  url : ∀ intake : Intake, c.environment.get? intake.urlVariable =
    if intake.UsesSocket w.config linux then some intake.socketUrl
    else o.environment.get? intake.urlVariable
  /-- A socket lies in a volume of the task that the application and the Agent may write to. -/
  socket : ∀ intake : Intake, intake.UsesSocket w.config linux →
    "dd-sockets" ∈ w.task.volumes ∧
    .readWrite "dd-sockets" "/var/run/datadog" ∈ c.mountPoints ∧
    ∃ agent, w.task.container? "datadog-agent" = some agent ∧
      .readWrite "dd-sockets" "/var/run/datadog" ∈ agent.mountPoints
  host : ∀ intake : Intake, intake.UsesNetwork w.config linux →
    c.environment.get? "DD_AGENT_HOST" = some "127.0.0.1"
  /-- Without need of the network the address is left to the caller. -/
  host_kept : (∀ intake : Intake, ¬intake.UsesNetwork w.config linux) →
    c.environment.get? "DD_AGENT_HOST" = o.environment.get? "DD_AGENT_HOST"

theorem reaches_containerOf (h : ofSettings id task settings defaults options = .ok w)
    (calls : List (String × ContainerOptions)) (call : String × ContainerOptions) :
    (w.run calls).Reaches task.isLinux call.2 (w.containerOf call) := by
  have hlinux := (platform_of_ofSettings h).1
  have hconfig : (w.run calls).config = w.config := by rw [run_eq]
  have hvolumes : (w.run calls).task.volumes = w.config.managedVolumes w.linux := by
    rw [run_eq]
    exact (of_ofSettings_eq_ok h).2.1
  have hmounts : (w.containerOf call).mountPoints = w.applicationMounts := by
    rw [containerOf, applicationContainer_eq]
  rw [← hlinux]
  constructor
  case url =>
    intro intake
    rw [get?_environment_containerOf, lastValue_urlVariable, hconfig]
    split <;> simp
  case socket =>
    intro intake hsocket
    rw [hconfig] at hsocket
    have hmounted : w.config.mountsSockets w.linux = true :=
      Config.mountsSockets_eq_true_iff.mpr ⟨intake, hsocket⟩
    refine ⟨?_, ?_, _, container?_agentName_run h calls, ?_⟩
    · rw [hvolumes, Config.mem_managedVolumes_iff]
      exact .inl ⟨rfl, hmounted⟩
    · rw [hmounts, mem_applicationMounts_iff]
      exact .inl ⟨rfl, hmounted⟩
    · rw [Config.agentContainer_eq, if_pos hmounted]
      exact List.mem_singleton_self _
  case host =>
    intro intake hnetwork
    rw [hconfig] at hnetwork
    have hneeded : w.config.needsAgentHost w.linux = true :=
      Config.needsAgentHost_eq_true_iff.mpr ⟨intake, hnetwork⟩
    rw [get?_environment_containerOf, lastValue_agentHost, if_pos hneeded, Option.some_or]
  case host_kept =>
    intro hnone
    rw [hconfig] at hnone
    have hneeded : ¬w.config.needsAgentHost w.linux = true := fun hneeded =>
      (Config.needsAgentHost_eq_true_iff.mp hneeded).elim hnone
    rw [get?_environment_containerOf, lastValue_agentHost, if_neg hneeded, Option.none_or]

/-- Whatever settings are accepted, and whatever additions are tried afterwards, every application
reaches every intake that is on, in the one way that its settings and platform leave; the findings
name the intakes whose sockets gave way to the network. -/
theorem reaches_run (h : ofSettings id task settings defaults options = .ok w)
    (calls : List (String × ContainerOptions)) :
    (∀ c ∈ (w.run calls).task.containers, c.name ∉ reservedNames →
      ∃ call ∈ w.accepted calls, c.name = call.2.containerName.getD call.1 ∧
        (w.run calls).Reaches task.isLinux call.2 c) ∧
    ∀ intake : Intake,
      (∃ reason, .socketFallback intake.title reason ∈ (w.run calls).diagnostics) ↔
        intake.isEnabled w.config = true ∧ intake.wantsSocket w.config = true ∧
          task.isLinux = false := by
  constructor
  · intro c hc happlication
    rcases (mem_containers_run_iff h).mp hc with hmanaged | ⟨call, hcall, rfl⟩
    · exact absurd (name_mem_reservedNames hmanaged) happlication
    · exact ⟨call, hcall, containerOf_name w call, reaches_containerOf h calls call⟩
  · intro intake
    rw [run_eq]
    exact Config.exists_socketFallback_iff (platform_of_ofSettings h).2 intake

/-- One intake over its socket and the other over the network, for an application that brings an
address for its traces. -/
theorem reaches_run_of_both_routes :
    ∃ w, ofSettings "web" {}
        { apiKeys := { plain := some "1234" }, apm := some { socket := some false } } {} {} =
        .ok w ∧
      ∃ c ∈ (w.run [("app", { environment := .ofList [("DD_TRACE_AGENT_URL", "http://traces")] }),
          ("app", {})]).task.containers,
        c.name = "app" ∧
        c.environment.get? "DD_DOGSTATSD_URL" = some "unix:///var/run/datadog/dsd.socket" ∧
        c.environment.get? "DD_TRACE_AGENT_URL" = some "http://traces" ∧
        c.environment.get? "DD_AGENT_HOST" = some "127.0.0.1" := by
  refine ⟨_, (fun hw => ⟨hw, ?_⟩) rfl⟩
  refine ⟨_, List.mem_of_getElem? (i := 1) rfl, rfl, ?_⟩
  obtain ⟨happlications, -⟩ := reaches_run hw
    [("app", { environment := .ofList [("DD_TRACE_AGENT_URL", "http://traces")] }), ("app", {})]
  obtain ⟨call, hcall, -, hreaches⟩ :=
    happlications _ (List.mem_of_getElem? (i := 1) rfl) (by decide)
  -- the second call is refused, so the container is the first one's
  obtain rfl := List.mem_singleton.mp hcall
  exact ⟨(hreaches.url .dogstatsd).trans (by decide), (hreaches.url .apm).trans (by decide),
    hreaches.host .apm (by decide)⟩

end WiredTask
end TelemetryWiring.Fargate
