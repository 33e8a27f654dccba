import TelemetryWiring.Proofs.Fargate.WellFormed

/-!
Which dependencies of applications can ever be met. All of them wait until another container is
healthy, and only a container whose health check has a command is ever reported as that. The check
of the Agent is validated; the preparation of workload security has none, and that of the log router
is taken as it comes.
-/
namespace TelemetryWiring

/-- Whether the health of a container is found out at all. -/
def Container.ReportsHealth (c : Container) : Prop := ∃ check ∈ c.healthCheck, check.command ≠ []

/-- A container stands in its task under its own name if no other has that name. -/
theorem Task.container?_name {t : Task} {c : Container}
    (hnodup : (t.containers.map (·.name)).Nodup) (hc : c ∈ t.containers) :
    t.container? c.name = some c := by
  unfold container?
  cases hfind : t.containers.find? (·.name == c.name) with
  | none => exact absurd (List.find?_eq_none.mp hfind c hc) (by simp)
  | some e =>
    have hname : e.name = c.name := by simpa using List.find?_some hfind
    rw [List.inj_on_of_nodup_map hnodup (List.mem_of_find?_eq_some hfind) hc hname]

namespace Fargate

namespace Config

variable {c : Config} {linux : Bool}

theorem reportsHealth_agentContainer_iff :
    (c.agentContainer linux).ReportsHealth ↔
      ∃ check, c.agentHealthCheck = some check ∧ check.command ≠ [] := by
  rw [agentContainer_eq]
  rfl

theorem not_reportsHealth_workloadSecurityContainer :
    ¬c.workloadSecurityContainer.ReportsHealth := by
  rw [workloadSecurityContainer_eq]
  rintro ⟨check, hcheck, -⟩
  cases hcheck

theorem reportsHealth_logRouterContainer_iff :
    c.logRouterContainer.ReportsHealth ↔ c.logCollection.router.healthCheck.command ≠ [] := by
  constructor
  · rintro ⟨check, hcheck, hcommand⟩
    cases hcheck
    exact hcommand
  · intro hcommand
    exact ⟨_, rfl, hcommand⟩

end Config

namespace WiredTask

/-- What becomes of a task to which applications are added; they wait for what the configuration
names. -/
def Extends (w w' : WiredTask) : Prop :=
  ∃ applications,
    w' = { w with task := { w.task with containers := w.task.containers ++ applications } } ∧
      ∀ c ∈ applications, c.dependsOn = w.awaited.map (ContainerDependency.mk · .healthy)

theorem extends_run (w : WiredTask) (calls : List (String × ContainerOptions)) :
    w.Extends (w.run calls) := by
  refine ⟨_, w.run_eq calls, ?_⟩
  intro c hc
  obtain ⟨call, -, rfl⟩ := List.mem_map.mp hc
  rw [containerOf, applicationContainer_eq]

/-- What applications wait for stands among the containers of the wiring. -/
theorem exists_target_of_mem_awaited {w : WiredTask} {options : ValidationOptions} {name : String}
    (haccepted : w.config.IsAccepted options) (hvalidated : options.bypassValidation = false)
    (hname : name ∈ w.awaited) :
    ∃ target ∈ w.config.managedContainers w.linux, target.name = name ∧
      (target.ReportsHealth ↔ name ≠ workloadSecurityName ∧
        (name = logRouterName → w.config.logCollection.router.healthCheck.command ≠ [])) := by
  rcases mem_awaited_iff.mp hname with ⟨rfl, hdependency, -⟩ | ⟨rfl, hrouter, -⟩ | ⟨rfl, hsecurity⟩
  · refine ⟨w.config.agentContainer w.linux, Config.mem_managedContainers_iff.mpr (.inl rfl),
      Config.agentContainer_name .., iff_of_true ?_ ⟨by decide, fun hrouter => ?_⟩⟩
    · rw [Config.reportsHealth_agentContainer_iff]
      exact haccepted.dependency hvalidated hdependency
    · exact absurd hrouter (by decide)
  · refine ⟨w.config.logRouterContainer,
      Config.mem_managedContainers_iff.mpr (.inr (.inr ⟨rfl, hrouter⟩)), rfl, ?_⟩
    rw [Config.reportsHealth_logRouterContainer_iff]
    exact ⟨fun hcommand => ⟨by decide, fun _ => hcommand⟩, fun hcommand => hcommand.2 rfl⟩
  · refine ⟨w.config.workloadSecurityContainer,
      Config.mem_managedContainers_iff.mpr (.inr (.inl ⟨rfl, hsecurity⟩)),
      Config.workloadSecurityContainer_name .., iff_of_false ?_ fun hother => hother.1 rfl⟩
    exact Config.not_reportsHealth_workloadSecurityContainer

/-- With validation on, whatever additions are tried, every dependency waits for the health of a
container of the task. That health is found out exactly if the container is not the preparation of
workload security, and for the log router only if its check has a command. -/
theorem dependency_reportsHealth_iff {id : String} {task : TaskSettings}
    {settings defaults : Settings} {options : ValidationOptions} {w : WiredTask}
    (h : ofSettings id task settings defaults options = .ok w)
    (hvalidated : options.bypassValidation = false) (calls : List (String × ContainerOptions))
    {c : Container} (hc : c ∈ (w.run calls).task.containers)
    {d : ContainerDependency} (hd : d ∈ c.dependsOn) :
    d.condition = .healthy ∧
    ∃ target, (w.run calls).task.container? d.containerName = some target ∧
      (target.ReportsHealth ↔ d.containerName ≠ workloadSecurityName ∧
        (d.containerName = logRouterName →
          w.config.logCollection.router.healthCheck.command ≠ [])) := by
  have hwell : (w.run calls).WellFormed :=
    run_induction calls (wellFormed_of_ofSettings h) fun _ _ _ _ _ hw hadd => hw.addContainer hadd
  obtain ⟨applications, hrun, hwait⟩ := w.extends_run calls
  have hcontainers : (w.run calls).task.containers =
      w.config.managedContainers w.linux ++ applications := by
    rw [hrun, ← (of_ofSettings_eq_ok h).1]
  rw [hcontainers] at hc
  -- the containers of the wiring wait for nothing, so the dependency is an application's
  rcases List.mem_append.mp hc with hc | hc
  · rw [Config.dependsOn_of_mem_managedContainers hc] at hd
    cases hd
  · rw [hwait c hc] at hd
    obtain ⟨name, hname, rfl⟩ := List.mem_map.mp hd
    obtain ⟨target, htarget, rfl, hreports⟩ :=
      exists_target_of_mem_awaited (isAccepted_of_ofSettings h) hvalidated hname
    have hmem : target ∈ (w.run calls).task.containers :=
      hcontainers ▸ List.mem_append_left applications htarget
    exact ⟨rfl, target, Task.container?_name hwell.names_nodup hmem, hreports⟩

/-- An application that waits for a log router whose check has no command. -/
theorem dependency_reportsHealth_iff_of_router_without_command :
    ∃ w, ofSettings "web" {}
        { apiKeys := { plain := some "1234" }
          logCollection := some
            { enabled := some true
              loggingType := some .fluentBit
              router := some { dependencyEnabled := some true, healthCheck := some {} } } }
        {} {} = .ok w ∧
      ∃ c ∈ (w.run [("app", {})]).task.containers,
        ∃ d ∈ c.dependsOn, d.containerName = logRouterName ∧ d.condition = .healthy ∧
          ∃ target, (w.run [("app", {})]).task.container? d.containerName = some target ∧
            (target.ReportsHealth ↔ d.containerName ≠ workloadSecurityName ∧
              (d.containerName = logRouterName →
                w.config.logCollection.router.healthCheck.command ≠ [])) := by
  refine ⟨_, (fun hw => ⟨hw, ?_⟩) rfl⟩
  refine ⟨_, List.mem_of_getElem? (i := 2) rfl, _, List.mem_of_getElem? (i := 0) rfl, rfl, ?_⟩
  exact dependency_reportsHealth_iff hw rfl _ (List.mem_of_getElem? (i := 2) rfl)
    (List.mem_of_getElem? (i := 0) rfl)

/-- An application that workload security prepares waits for a container without a health check. -/
theorem application_waits_for_unchecked_container :
    ∃ w, ofSettings "web" {}
        { apiKeys := { plain := some "1234" }
          agentDependency := some true
          workloadSecurity := some { enabled := some true } }
        {} {} = .ok w ∧
      ∃ c ∈ (w.run [("app", {})]).task.containers, ∃ d ∈ c.dependsOn, d.condition = .healthy ∧
        ((w.run [("app", {})]).task.container? d.containerName).map (·.healthCheck) =
          some none := by
  refine ⟨_, rfl, ?_⟩
  decide

end WiredTask
end Fargate
end TelemetryWiring
