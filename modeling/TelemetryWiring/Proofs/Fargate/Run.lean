import TelemetryWiring.Proofs.Call
import TelemetryWiring.Proofs.Fargate.Container
import TelemetryWiring.Proofs.Fargate.Resolution

/-!
A wired task over its life: what stands in it at the start, what one addition does, and runs of
additions. An addition that fails has changed nothing by then, so a run goes on from the task as it
was.
-/
namespace TelemetryWiring.Fargate

namespace Config

/-- The containers of the wiring, in order. -/
def managedContainers (c : Config) (linux : Bool) : List Container :=
  c.agentContainer linux ::
    ((if c.workloadSecurity.enabled then [c.workloadSecurityContainer] else []) ++
      (if c.logCollection.usesRouter then [c.logRouterContainer] else []))

def managedNames (c : Config) : List String :=
  agentName :: ((if c.workloadSecurity.enabled then [workloadSecurityName] else []) ++
    (if c.logCollection.usesRouter then [logRouterName] else []))

/-- The volumes that the wiring declares. -/
def managedVolumes (c : Config) (linux : Bool) : List String :=
  (if c.mountsSockets linux then [socketVolume] else []) ++
    (if c.workloadSecurity.enabled then [workloadSecurityVolume] else [])

theorem mem_managedNames_iff {c : Config} {name : String} :
    name ∈ c.managedNames ↔ name = agentName ∨
      (name = workloadSecurityName ∧ c.workloadSecurity.enabled = true) ∨
      (name = logRouterName ∧ c.logCollection.usesRouter = true) := by
  simp [managedNames, List.mem_ite_nil_right, and_comm]

theorem mem_managedVolumes_iff {c : Config} {linux : Bool} {volume : String} :
    volume ∈ c.managedVolumes linux ↔
      (volume = socketVolume ∧ c.mountsSockets linux = true) ∨
      (volume = workloadSecurityVolume ∧ c.workloadSecurity.enabled = true) := by
  simp [managedVolumes, List.mem_ite_nil_right, and_comm]

theorem mem_managedContainers_iff {c : Config} {linux : Bool} {container : Container} :
    container ∈ c.managedContainers linux ↔ container = c.agentContainer linux ∨
      (container = c.workloadSecurityContainer ∧ c.workloadSecurity.enabled = true) ∨
      (container = c.logRouterContainer ∧ c.logCollection.usesRouter = true) := by
  simp [managedContainers, List.mem_ite_nil_right, and_comm]

theorem agentContainer_eq (c : Config) (linux : Bool) :
    c.agentContainer linux =
      { Container.ofOptions agentName (c.agentOptions linux) with
        mountPoints := if c.mountsSockets linux then [socketMount] else [] } := by
  dsimp only [agentContainer]
  split
  · rw [Container.mount_eq]
    rfl
  · rfl

theorem workloadSecurityContainer_eq (c : Config) :
    c.workloadSecurityContainer =
      { Container.ofOptions workloadSecurityName
          { image := "datadog/cws-instrumentation:latest"
            sizing := c.workloadSecurity.sizing
            essential := some false
            user := some "0"
            command := some
              ["/cws-instrumentation", "setup", "--cws-volume-mount", workloadSecurityPath] } with
        mountPoints := [workloadSecurityMount] } := by
  rw [workloadSecurityContainer, Container.mount_eq]
  rfl

theorem agentContainer_name (c : Config) (linux : Bool) :
    (c.agentContainer linux).name = agentName := by
  rw [agentContainer_eq]
  rfl

theorem workloadSecurityContainer_name (c : Config) :
    c.workloadSecurityContainer.name = workloadSecurityName := by
  rw [workloadSecurityContainer_eq]
  rfl

theorem map_name_managedContainers (c : Config) (linux : Bool) :
    (c.managedContainers linux).map (·.name) = c.managedNames := by
  have hrouter : c.logRouterContainer.name = logRouterName := rfl
  unfold managedContainers managedNames
  split <;> split <;> simp [agentContainer_name, workloadSecurityContainer_name, hrouter]

theorem dependsOn_of_mem_managedContainers {c : Config} {linux : Bool} {e : Container}
    (he : e ∈ c.managedContainers linux) : e.dependsOn = [] := by
  rcases mem_managedContainers_iff.mp he with rfl | ⟨rfl, -⟩ | ⟨rfl, -⟩
  · rw [agentContainer_eq]
    rfl
  · rw [workloadSecurityContainer_eq]
    rfl
  · rfl

theorem managedTask_containers (c : Config) (linux : Bool) (id : String) (s : TaskSettings) :
    (c.managedTask linux (.ofSettings id s)).containers = c.managedContainers linux := by
  have hvolume (t : Task) (name : String) : (t.addVolume name).containers = t.containers := by
    unfold Task.addVolume
    split <;> rfl
  have hpolicy (t : Task) : (t.addPolicy agentPolicy).containers = t.containers := by
    unfold Task.addPolicy
    split <;> rfl
  dsimp only [managedTask, managedContainers, Task.addTag]
  rw [hpolicy]
  split <;> split <;> split <;> simp [Task.addContainer, Task.ofSettings, hvolume]

theorem managedTask_volumes (c : Config) (linux : Bool) (id : String) (s : TaskSettings) :
    (c.managedTask linux (.ofSettings id s)).volumes = c.managedVolumes linux := by
  have hpolicy (t : Task) : (t.addPolicy agentPolicy).volumes = t.volumes := by
    unfold Task.addPolicy
    split <;> rfl
  dsimp only [managedTask, managedVolumes, Task.addTag]
  rw [hpolicy]
  split <;> split <;> split <;> rfl

end Config

namespace WiredTask

variable {id : String} {task : TaskSettings} {settings defaults : Settings}
  {options : ValidationOptions} {w : WiredTask}

theorem isAccepted_of_ofSettings (h : ofSettings id task settings defaults options = .ok w) :
    w.config.IsAccepted options := by
  unfold ofSettings at h
  obtain ⟨resolved, hresolved, h⟩ := bind_eq_ok_iff.mp h
  obtain ⟨found, -, h⟩ := bind_eq_ok_iff.mp h
  cases h
  exact Settings.isAccepted_of_finalize hresolved

/-- Settings that are accepted give a task with the containers of the wiring alone, and their
reservations suffice. -/
theorem of_ofSettings_eq_ok (h : ofSettings id task settings defaults options = .ok w) :
    w.task.containers = w.config.managedContainers w.linux ∧
    w.task.volumes = w.config.managedVolumes w.linux ∧
    ∀ c ∈ w.task.containers, c.sizing.IsSufficient := by
  have haccepted := isAccepted_of_ofSettings h
  unfold ofSettings at h
  obtain ⟨resolved, -, h⟩ := bind_eq_ok_iff.mp h
  obtain ⟨found, -, h⟩ := bind_eq_ok_iff.mp h
  cases h
  refine ⟨Config.managedTask_containers .., Config.managedTask_volumes .., ?_⟩
  intro c hc
  rw [Config.managedTask_containers] at hc
  rcases Config.mem_managedContainers_iff.mp hc with rfl | ⟨rfl, -⟩ | ⟨rfl, -⟩
  · rw [Config.agentContainer_eq]
    exact Sizing.check_eq_ok_iff.mp haccepted.agentSizing
  · rw [Config.workloadSecurityContainer_eq]
    exact Sizing.check_eq_ok_iff.mp haccepted.preparationSizing
  · exact Sizing.check_eq_ok_iff.mp haccepted.routerSizing

/-- All that is found while a task is wired concerns its platform. -/
theorem platform_of_ofSettings (h : ofSettings id task settings defaults options = .ok w) :
    w.linux = task.isLinux ∧
      w.config.checkPlatform task.isLinux options = .ok w.diagnostics := by
  unfold ofSettings at h
  obtain ⟨resolved, hresolved, h⟩ := bind_eq_ok_iff.mp h
  obtain ⟨found, hfound, h⟩ := bind_eq_ok_iff.mp h
  cases h
  obtain ⟨key, features, -, -, -, rfl⟩ := Settings.finalize_eq_ok_iff.mp hresolved
  exact ⟨rfl, hfound⟩

theorem isTaken_eq_false_iff {w : WiredTask} {name : String} :
    w.isTaken name = false ↔
      name ∉ reservedNames ∧ name ∉ w.task.containers.map (·.name) := by
  simp [isTaken, Task.hasContainer, Task.container?]

theorem addContainer_of_taken {w : WiredTask} {id : String} {o : ContainerOptions}
    (h : w.isTaken (o.containerName.getD id) = true) :
    w.addContainer id o = .error (.containerNameTaken (o.containerName.getD id)) w := by
  unfold addContainer
  simp only [EStateM.run_bind, EStateM.run_get, if_pos h]
  rfl

theorem addContainer_of_free {w : WiredTask} {id : String} {o : ContainerOptions}
    (h : w.isTaken (o.containerName.getD id) = false) :
    w.addContainer id o =
      match o.sizing.check (o.containerName.getD id) with
      | .ok _ =>
        let container := w.applicationContainer (o.containerName.getD id) o
        .ok container { w with task := w.task.addContainer container }
      | .error e => .error e w := by
  have hfree : ¬w.isTaken (o.containerName.getD id) = true := h ▸ Bool.false_ne_true
  unfold addContainer
  simp only [EStateM.run_bind, EStateM.run_get, if_neg hfree, EStateM.run_pure, Call.run_ofExcept]
  cases o.sizing.check (o.containerName.getD id) <;> rfl

/-- An addition answers in one of three ways: the name is taken, the container reserves too little,
or it is appended. In the first two nothing is changed yet. -/
theorem addContainer_cases (w : WiredTask) (id : String) (o : ContainerOptions) :
    let name := o.containerName.getD id
    let container := w.applicationContainer name o
    (w.isTaken name = true ∧ w.addContainer id o = .error (.containerNameTaken name) w) ∨
    (w.isTaken name = false ∧ ¬o.sizing.IsSufficient ∧
      ∃ resource n, w.addContainer id o = .error (.undersized name resource n) w) ∨
    (w.isTaken name = false ∧ o.sizing.IsSufficient ∧
      w.addContainer id o =
        .ok container { w with task := w.task.addContainer container }) := by
  intro name container
  cases htaken : w.isTaken name with
  | true => exact .inl ⟨rfl, addContainer_of_taken htaken⟩
  | false =>
    right
    rw [addContainer_of_free htaken]
    rcases o.sizing.check_cases name with ⟨hsizing, hcheck⟩ | ⟨hsizing, resource, n, -, -, hcheck⟩
    · rw [hcheck]
      exact .inr ⟨rfl, hsizing, rfl⟩
    · rw [hcheck]
      exact .inl ⟨rfl, hsizing, resource, n, rfl⟩

/-- What an accepted addition did. -/
theorem of_addContainer_eq_ok {w w' : WiredTask} {id : String} {o : ContainerOptions}
    {c : Container} (h : w.addContainer id o = .ok c w') :
    w.isTaken (o.containerName.getD id) = false ∧ o.sizing.IsSufficient ∧
      c = w.applicationContainer (o.containerName.getD id) o ∧
      w' = { w with task := w.task.addContainer c } := by
  rcases w.addContainer_cases id o with ⟨-, hadd⟩ | ⟨-, -, _, _, hadd⟩ | ⟨hfree, hsizing, hadd⟩
  · cases hadd.symm.trans h
  · cases hadd.symm.trans h
  · cases hadd.symm.trans h
    exact ⟨hfree, hsizing, rfl, rfl⟩

/-- An addition that fails has changed nothing by then. -/
theorem unchanged_of_addContainer_eq_error {w w' : WiredTask} {id : String} {o : ContainerOptions}
    {e : WiringError} (h : w.addContainer id o = .error e w') : w' = w := by
  rcases w.addContainer_cases id o with ⟨-, hadd⟩ | ⟨-, -, _, _, hadd⟩ | ⟨-, -, hadd⟩
  · cases hadd.symm.trans h
    rfl
  · cases hadd.symm.trans h
    rfl
  · cases hadd.symm.trans h

/-- The task that a call of a caller leaves. -/
def attempt (w : WiredTask) (call : String × ContainerOptions) : WiredTask :=
  (w.addContainer call.1 call.2).state

/-- Calls one after the other. -/
def run (w : WiredTask) (calls : List (String × ContainerOptions)) : WiredTask :=
  calls.foldl attempt w

/-- The container that a call asks for, under its own name or its id. -/
def containerOf (w : WiredTask) (call : String × ContainerOptions) : Container :=
  w.applicationContainer (call.2.containerName.getD call.1) call.2

/-- The calls of a run that are accepted, in order. -/
def accepted (w : WiredTask) : List (String × ContainerOptions) → List (String × ContainerOptions)
  | [] => []
  | call :: calls =>
    match w.addContainer call.1 call.2 with
    | .ok _ w' => call :: w'.accepted calls
    | .error _ w' => w'.accepted calls

theorem accepted_sublist (w : WiredTask) (calls : List (String × ContainerOptions)) :
    (w.accepted calls).Sublist calls := by
  induction calls generalizing w with
  | nil => exact .slnil
  | cons call calls ih =>
    unfold accepted
    split
    · exact (ih _).cons_cons call
    · exact (ih _).cons call

/-- Calls that were accepted among others are all accepted without these. -/
theorem accepted_accepted (w : WiredTask) (calls : List (String × ContainerOptions)) :
    w.accepted (w.accepted calls) = w.accepted calls := by
  induction calls generalizing w with
  | nil => rfl
  | cons call calls ih =>
    cases hadd : w.addContainer call.1 call.2 with
    | error e w' =>
      cases unchanged_of_addContainer_eq_error hadd
      simp only [accepted, hadd]
      exact ih w
    | ok c w' =>
      simp only [accepted, hadd]
      exact congrArg (call :: ·) (ih w')

/-- A run appends the containers of the accepted calls. Each is made from the configuration, which
no call changes. -/
theorem run_eq (w : WiredTask) (calls : List (String × ContainerOptions)) :
    w.run calls =
      { w with task :=
        { w.task with
          containers := w.task.containers ++ (w.accepted calls).map w.containerOf } } := by
  induction calls generalizing w with
  | nil => rw [accepted, List.map_nil, List.append_nil, run, List.foldl_nil]
  | cons call calls ih =>
    change (w.attempt call).run calls = _
    unfold attempt accepted
    cases hadd : w.addContainer call.1 call.2 with
    | ok c w' =>
      obtain ⟨-, -, rfl, rfl⟩ := of_addContainer_eq_ok hadd
      dsimp only [Outcome.state]
      rw [ih, List.map_cons, List.append_cons]
      rfl
    | error e w' =>
      cases unchanged_of_addContainer_eq_error hadd
      exact ih w

theorem containerOf_name (w : WiredTask) (call : String × ContainerOptions) :
    (w.containerOf call).name = call.2.containerName.getD call.1 := by
  rw [containerOf, applicationContainer_eq]
  rfl

/-- The variables of the wiring come over the caller's. -/
theorem containerOf_environment (w : WiredTask) (call : String × ContainerOptions) :
    (w.containerOf call).environment = call.2.environment.insertMany w.applicationVariables := by
  rw [containerOf, applicationContainer_eq, prepareOptions_eq]

theorem containerOf_secrets (w : WiredTask) (call : String × ContainerOptions) :
    (w.containerOf call).secrets = call.2.secrets := by
  rw [containerOf, applicationContainer_eq, prepareOptions_eq]
  rfl

theorem containerOf_logging (w : WiredTask) (call : String × ContainerOptions) :
    (w.containerOf call).logging =
      if w.config.logCollection.usesRouter then some w.config.logDriver else call.2.logging := by
  rw [containerOf, applicationContainer_eq, prepareOptions_eq]
  rfl

/-- The containers of the wiring and those of the accepted calls make up a task. -/
theorem mem_containers_run_iff (h : ofSettings id task settings defaults options = .ok w)
    {calls : List (String × ContainerOptions)} {c : Container} :
    c ∈ (w.run calls).task.containers ↔ c ∈ w.config.managedContainers w.linux ∨
      ∃ call ∈ w.accepted calls, w.containerOf call = c := by
  rw [run_eq, List.mem_append, List.mem_map, (of_ofSettings_eq_ok h).1]

theorem container?_agentName_run (h : ofSettings id task settings defaults options = .ok w)
    (calls : List (String × ContainerOptions)) :
    (w.run calls).task.container? agentName = some (w.config.agentContainer w.linux) := by
  rw [run_eq, Task.container?, (of_ofSettings_eq_ok h).1, Config.managedContainers,
    List.cons_append, List.find?_cons_of_pos]
  rw [Config.agentContainer_name]
  exact beq_self_eq_true agentName

/-- What holds of a task and is kept by every accepted addition holds after every run. -/
theorem run_induction {P : WiredTask → Prop} {w : WiredTask}
    (calls : List (String × ContainerOptions)) (start : P w)
    (step : ∀ w w' id o c, P w → w.addContainer id o = .ok c w' → P w') : P (w.run calls) := by
  induction calls generalizing w with
  | nil => exact start
  | cons call calls ih =>
    apply ih
    unfold attempt
    cases hadd : w.addContainer call.1 call.2 with
    | ok c w' => exact step w w' call.1 call.2 c start hadd
    | error e w' =>
      cases unchanged_of_addContainer_eq_error hadd
      exact start

end WiredTask
end TelemetryWiring.Fargate
