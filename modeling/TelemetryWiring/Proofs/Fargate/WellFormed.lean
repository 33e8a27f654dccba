import TelemetryWiring.Proofs.Fargate.Run

/-!
Every task that the wiring yields, after any run of additions, is one that can be started: names
and volumes are distinct, references lead to what the task has, dependencies lead backwards, and
logs are routed exactly where a router stands.
-/
namespace TelemetryWiring.Fargate.WiredTask

/-- A wired task whose parts fit together. -/
structure WellFormed (w : WiredTask) : Prop where
  /-- The containers of the wiring come first, each exactly if its feature is on; applications
  follow, under names of their own. -/
  names : ∃ applications : List String,
    w.task.containers.map (·.name) = w.config.managedNames ++ applications ∧
      ∀ name ∈ applications, name ∉ reservedNames
  names_nodup : (w.task.containers.map (·.name)).Nodup
  /-- A container waits only for containers that stand before it. -/
  dependencies_earlier : ∀ (i : ℕ) (c : Container), w.task.containers[i]? = some c →
    ∀ d ∈ c.dependsOn, ∃ j < i, ∃ e, w.task.containers[j]? = some e ∧ e.name = d.containerName
  volumes : w.task.volumes = w.config.managedVolumes w.linux
  volumes_nodup : w.task.volumes.Nodup
  mounts_declared : ∀ c ∈ w.task.containers, ∀ m ∈ c.mountPoints, m.sourceVolume ∈ w.task.volumes
  logs_routed : w.config.logCollection.usesRouter = true →
    ∀ c ∈ w.task.containers, c.name ∉ reservedNames → c.logging.map (·.driver) = some "awsfirelens"
  /-- The containers that route logs: the router where logs are routed, else none. -/
  routers : (w.task.containers.filter (·.firelensConfig.isSome)).map (·.name) =
    if w.config.logCollection.usesRouter then [logRouterName] else []
  sizing : ∀ c ∈ w.task.containers, c.sizing.IsSufficient

theorem managedNames_subset (c : Config) : ∀ name ∈ c.managedNames, name ∈ reservedNames := by
  unfold Config.managedNames
  split <;> split <;> decide

theorem name_mem_reservedNames {c : Config} {linux : Bool} {e : Container}
    (he : e ∈ c.managedContainers linux) : e.name ∈ reservedNames := by
  have hname : e.name ∈ c.managedNames :=
    c.map_name_managedContainers linux ▸ List.mem_map_of_mem he
  exact managedNames_subset c _ hname

theorem managedNames_nodup (c : Config) : c.managedNames.Nodup := by
  unfold Config.managedNames
  split <;> split <;> decide

theorem managedVolumes_nodup (c : Config) (linux : Bool) : (c.managedVolumes linux).Nodup := by
  unfold Config.managedVolumes
  split <;> split <;> decide

/-- Applications wait only for containers that the wiring has added. -/
theorem mem_managedNames_of_mem_awaited {w : WiredTask} {name : String} (h : name ∈ w.awaited) :
    name ∈ w.config.managedNames := by
  rw [Config.mem_managedNames_iff]
  rcases mem_awaited_iff.mp h with ⟨rfl, -⟩ | ⟨rfl, hrouter, -⟩ | ⟨rfl, hsecurity⟩
  · exact .inl rfl
  · exact .inr (.inr ⟨rfl, hrouter⟩)
  · exact .inr (.inl ⟨rfl, hsecurity⟩)

/-- Applications mount only volumes that the wiring has declared. -/
theorem mem_managedVolumes_of_mem_applicationMounts {w : WiredTask} {m : MountPoint}
    (h : m ∈ w.applicationMounts) : m.sourceVolume ∈ w.config.managedVolumes w.linux := by
  rw [Config.mem_managedVolumes_iff]
  rcases mem_applicationMounts_iff.mp h with ⟨rfl, hsockets⟩ | ⟨rfl, hsecurity⟩
  · exact .inl ⟨rfl, hsockets⟩
  · exact .inr ⟨rfl, hsecurity⟩

/-- No application has the name of a container of the wiring. -/
theorem name_not_mem_reservedNames {w : WiredTask} {calls : List (String × ContainerOptions)}
    {call : String × ContainerOptions} (h : call ∈ w.accepted calls) :
    (w.containerOf call).name ∉ reservedNames := by
  rw [containerOf_name]
  induction calls generalizing w with
  | nil => cases h
  | cons first calls ih =>
    unfold accepted at h
    split at h
    · rename_i w' c hadd
      rcases List.mem_cons.mp h with rfl | hlater
      · exact (isTaken_eq_false_iff.mp (of_addContainer_eq_ok hadd).1).1
      · exact ih hlater
    · exact ih h

/-- The wiring alone is well formed. -/
theorem wellFormed_of_ofSettings {id : String} {task : TaskSettings} {settings defaults : Settings}
    {options : ValidationOptions} {w : WiredTask}
    (h : ofSettings id task settings defaults options = .ok w) : w.WellFormed := by
  obtain ⟨hcontainers, hvolumes, hsizing⟩ := of_ofSettings_eq_ok h
  have hnames : w.task.containers.map (·.name) = w.config.managedNames := by
    rw [hcontainers, Config.map_name_managedContainers]
  refine ⟨⟨[], by simp [hnames], by simp⟩, hnames ▸ managedNames_nodup _, ?_, hvolumes,
    hvolumes ▸ managedVolumes_nodup _ _, ?_, ?_, ?_, hsizing⟩
  · intro i c hc d hd
    have hmem : c ∈ w.config.managedContainers w.linux :=
      hcontainers ▸ List.mem_of_getElem? hc
    rw [Config.dependsOn_of_mem_managedContainers hmem] at hd
    cases hd
  · intro c hc m hm
    rw [hvolumes, Config.mem_managedVolumes_iff]
    rcases Config.mem_managedContainers_iff.mp (hcontainers ▸ hc) with
      rfl | ⟨rfl, hsecurity⟩ | ⟨rfl, -⟩
    · rw [Config.agentContainer_eq] at hm
      obtain ⟨hsockets, hm⟩ := List.mem_ite_nil_right.mp hm
      rw [List.mem_singleton.mp hm]
      exact .inl ⟨rfl, hsockets⟩
    · rw [Config.workloadSecurityContainer_eq] at hm
      rw [List.mem_singleton.mp hm]
      exact .inr ⟨rfl, hsecurity⟩
    · cases hm
  · intro _ c hc hname
    have hmem : c.name ∈ w.config.managedNames := hnames ▸ List.mem_map_of_mem hc
    exact absurd (managedNames_subset _ _ hmem) hname
  · have hagent : (w.config.agentContainer w.linux).firelensConfig = none := by
      rw [Config.agentContainer_eq]
      rfl
    have hsecurity : w.config.workloadSecurityContainer.firelensConfig = none := by
      rw [Config.workloadSecurityContainer_eq]
      rfl
    have hrouter : w.config.logRouterContainer.firelensConfig.isSome = true := rfl
    have hname : w.config.logRouterContainer.name = logRouterName := rfl
    rw [hcontainers]
    unfold Config.managedContainers
    split <;> split <;> simp [hagent, hsecurity, hrouter, hname]

/-- An accepted addition keeps a task well formed: all that the new container refers to stands in
the task already. -/
theorem WellFormed.addContainer {w w' : WiredTask} {id : String} {o : ContainerOptions}
    {c : Container} (h : w.WellFormed) (hadd : w.addContainer id o = .ok c w') :
    w'.WellFormed := by
  obtain ⟨hfree, hsizing, hc, rfl⟩ := of_addContainer_eq_ok hadd
  rw [applicationContainer_eq] at hc
  obtain ⟨hreserved, hunused⟩ := isTaken_eq_false_iff.mp hfree
  have hname : c.name = o.containerName.getD id := by rw [hc]; rfl
  have hrouter : c.firelensConfig = none := by rw [hc]; rfl
  obtain ⟨applications, hnames, happlications⟩ := h.names
  constructor
  case names =>
    refine ⟨applications ++ [c.name], by simp [Task.addContainer, hnames], ?_⟩
    intro name hmem
    rcases List.mem_append.mp hmem with hold | hnew
    · exact happlications name hold
    · rwa [List.mem_singleton.mp hnew, hname]
  case names_nodup =>
    rw [← hname] at hunused
    simpa [Task.addContainer, List.nodup_append, h.names_nodup] using hunused
  case dependencies_earlier =>
    intro i e he d hd
    change (w.task.containers ++ [c])[i]? = some e at he
    by_cases hi : i < w.task.containers.length
    · rw [List.getElem?_append_left hi] at he
      obtain ⟨j, hj, e', he', hd'⟩ := h.dependencies_earlier i e he d hd
      refine ⟨j, hj, e', ?_, hd'⟩
      change (w.task.containers ++ [c])[j]? = some e'
      rwa [List.getElem?_append_left (by omega)]
    · -- the new container waits for containers of the wiring, which all stand before it
      rw [List.getElem?_append_right (by omega)] at he
      rw [List.mem_singleton.mp (List.mem_of_getElem? he), hc] at hd
      obtain ⟨name, hawaited, rfl⟩ := List.mem_map.mp hd
      have hmem : name ∈ w.task.containers.map (·.name) := by
        rw [hnames]
        exact List.mem_append_left _ (mem_managedNames_of_mem_awaited hawaited)
      obtain ⟨e', he', rfl⟩ := List.mem_map.mp hmem
      obtain ⟨j, hj, hget⟩ := List.getElem_of_mem he'
      refine ⟨j, by omega, e', ?_, rfl⟩
      change (w.task.containers ++ [c])[j]? = some e'
      rw [List.getElem?_append_left hj, List.getElem?_eq_getElem hj, hget]
  case volumes => exact h.volumes
  case volumes_nodup => exact h.volumes_nodup
  case mounts_declared =>
    intro e he m hm
    rcases List.mem_append.mp he with hold | hnew
    · exact h.mounts_declared e hold m hm
    · rw [List.mem_singleton.mp hnew, hc] at hm
      change m.sourceVolume ∈ w.task.volumes
      rw [h.volumes]
      exact mem_managedVolumes_of_mem_applicationMounts hm
  case logs_routed =>
    intro hroutes e he happlication
    rcases List.mem_append.mp he with hold | hnew
    · exact h.logs_routed hroutes e hold happlication
    · rw [List.mem_singleton.mp hnew, hc]
      change (w.prepareOptions o).logging.map (·.driver) = some "awsfirelens"
      rw [prepareOptions_logging, if_pos hroutes]
      rfl
  case routers => simpa [Task.addContainer, hrouter] using h.routers
  case sizing =>
    intro e he
    rcases List.mem_append.mp he with hold | hnew
    · exact h.sizing e hold
    · rw [List.mem_singleton.mp hnew, hc]
      change (w.prepareOptions o).sizing.IsSufficient
      rwa [prepareOptions_sizing]

/-- Every reachable task is well formed: whatever settings are accepted, and whatever additions
are tried afterwards. -/
theorem run_wellFormed {id : String} {task : TaskSettings} {settings defaults : Settings}
    {options : ValidationOptions} {w : WiredTask}
    (h : ofSettings id task settings defaults options = .ok w)
    (calls : List (String × ContainerOptions)) : (w.run calls).WellFormed :=
  run_induction calls (wellFormed_of_ofSettings h) fun _ _ _ _ _ hw hadd => hw.addContainer hadd

theorem run_wellFormed_with_every_feature :
    ∃ w, ofSettings "web" {}
        { apiKeys := { plain := some "1234" }
          agentDependency := some true
          workloadSecurity := some { enabled := some true }
          logCollection := some { enabled := some true, loggingType := some .fluentBit } }
        {} {} = .ok w ∧
      (w.run [("app", {}), ("datadog-agent", {}), ("app", {}), ("job", {})]).WellFormed := by
  apply Exists.imp
  · intro w hw
    exact ⟨hw, run_wellFormed hw _⟩
  · exact ⟨_, rfl⟩

end TelemetryWiring.Fargate.WiredTask
