import TelemetryWiring.Proofs.Fargate.Intake

/-!
What the container of an application keeps of its caller's request. Most of the request is taken
over as it is. Variables and labels are the caller's but for a fixed few, and none is ever lost;
command and capabilities are extended for workload security, and the log driver gives way only where
logs are routed.
-/
namespace TelemetryWiring.Fargate.WiredTask

/-- The variables that the wiring may give an application. -/
def applicationKeys : List String :=
  ["DD_DOGSTATSD_URL", "DD_TRACE_AGENT_URL", "DD_AGENT_HOST", "DD_PROFILING_ENABLED",
    "DD_TRACE_INFERRED_PROXY_SERVICES_ENABLED"] ++ ["DD_ENV", "DD_SERVICE", "DD_VERSION"]

/-- The labels that the wiring may give an application. -/
def applicationLabelKeys : List String :=
  ["tags.datadoghq.com/env", "tags.datadoghq.com/service", "tags.datadoghq.com/version"]

/-- A configured value in the variable and the label that carry it. A value that is missing or empty
leaves both to the caller. -/
structure CarriesValue (o : ContainerOptions) (c : Container) (value : Option String)
    (key label : String) : Prop where
  inVariable : c.environment.get? key =
    (value.filter (· ≠ "")).or (o.environment.get? key)
  inLabel : c.dockerLabels.get? label =
    (value.filter (· ≠ "")).or (o.dockerLabels.get? label)

/-- A container that is what its caller asked for, beside what the wiring adds to it. -/
structure KeepsRequest (w : WiredTask) (o : ContainerOptions) (c : Container) : Prop where
  image : c.image = o.image
  sizing : c.sizing = o.sizing
  essential : c.essential = o.essential.getD true
  secrets : c.secrets = o.secrets
  healthCheck : c.healthCheck = o.healthCheck
  portMappings : c.portMappings = o.portMappings
  command : c.command = o.command
  user : c.user = o.user
  variables_kept : ∀ key ∈ o.environment.keys, key ∈ c.environment.keys
  otherVariables : ∀ key, key ∉ applicationKeys →
    c.environment.get? key = o.environment.get? key
  labels_kept : ∀ key ∈ o.dockerLabels.keys, key ∈ c.dockerLabels.keys
  otherLabels : ∀ key, key ∉ applicationLabelKeys →
    c.dockerLabels.get? key = o.dockerLabels.get? key
  env : CarriesValue o c w.config.identity.env "DD_ENV" "tags.datadoghq.com/env"
  service : CarriesValue o c w.config.identity.service "DD_SERVICE" "tags.datadoghq.com/service"
  version : CarriesValue o c w.config.identity.version "DD_VERSION" "tags.datadoghq.com/version"
  entryPoint : c.entryPoint = o.entryPoint.map fun command =>
    (if w.config.workloadSecurity.enabled then
      ["/cws-instrumentation-volume/cws-instrumentation", "trace", "--"] else []) ++ command
  capabilities : c.linuxCapabilities = o.linuxCapabilities.getD [] ++
    if w.config.workloadSecurity.enabled = true ∧ "SYS_PTRACE" ∉ o.linuxCapabilities.getD [] then
      ["SYS_PTRACE"] else []
  logging : w.config.logCollection.usesRouter = false → c.logging = o.logging

theorem keys_applicationVariables (w : WiredTask) :
    (w.applicationVariables.map (·.1)).Sublist applicationKeys := by
  dsimp only [applicationVariables]
  rw [socketVariables_eq]
  simp only [List.map_append]
  refine List.Sublist.append ?_ (w.identity.keys_under ..)
  exact ((((keys_ite ..).append (keys_ite ..)).append (keys_ite ..)).append (keys_ite ..)).append
    (keys_ite ..)

theorem keys_applicationLabels (w : WiredTask) :
    (w.applicationLabels.map (·.1)).Sublist applicationLabelKeys := w.identity.keys_under ..

/-- The identity is the last thing that an application is told. -/
theorem lastValue_identity (w : WiredTask) {key : String}
    (hkey : key ∈ ["DD_ENV", "DD_SERVICE", "DD_VERSION"]) :
    lastValue key w.applicationVariables =
      lastValue key (w.identity.under "DD_ENV" "DD_SERVICE" "DD_VERSION") := by
  dsimp only [applicationVariables]
  rw [socketVariables_eq, lastValue_append]
  simp only [List.mem_cons, List.not_mem_nil, or_false] at hkey
  rcases hkey with rfl | rfl | rfl <;> simp [lastValue_append, lastValue_ite]

theorem get?_dockerLabels_containerOf (w : WiredTask) (call : String × ContainerOptions)
    (key : String) :
    (w.containerOf call).dockerLabels.get? key =
      (lastValue key w.applicationLabels).or (call.2.dockerLabels.get? key) := by
  rw [containerOf, applicationContainer_eq, prepareOptions_eq]
  exact Dict.get?_insertMany ..

variable {w : WiredTask}

theorem carriesValue_containerOf {call : String × ContainerOptions} {value : Option String}
    {key label : String} (hkey : lastValue key w.applicationVariables = value.filter (· ≠ ""))
    (hlabel : lastValue label w.applicationLabels = value.filter (· ≠ "")) :
    CarriesValue call.2 (w.containerOf call) value key label where
  inVariable := by rw [get?_environment_containerOf, hkey]
  inLabel := by rw [get?_dockerLabels_containerOf, hlabel]

theorem keepsRequest_containerOf (w : WiredTask) (call : String × ContainerOptions) :
    w.KeepsRequest call.2 (w.containerOf call) := by
  have heq := w.applicationContainer_eq (call.2.containerName.getD call.1) call.2
  rw [prepareOptions_eq] at heq
  change w.containerOf call = _ at heq
  obtain ⟨henv, hservice, hversion⟩ :=
    w.identity.lastValue_under "DD_ENV" "DD_SERVICE" "DD_VERSION" (by decide)
  obtain ⟨henvLabel, hserviceLabel, hversionLabel⟩ := w.identity.lastValue_under
    "tags.datadoghq.com/env" "tags.datadoghq.com/service" "tags.datadoghq.com/version" (by decide)
  constructor
  case image | sizing | essential | secrets | healthCheck | portMappings | command | user =>
    rw [heq]
    rfl
  case variables_kept =>
    intro key hkey
    rw [containerOf_environment, Dict.mem_keys_insertMany]
    exact .inl hkey
  case otherVariables =>
    intro key hkey
    have hnone : lastValue key w.applicationVariables = none :=
      lastValue_eq_none_iff.mpr fun hmem => hkey (w.keys_applicationVariables.subset hmem)
    rw [get?_environment_containerOf, hnone, Option.none_or]
  case labels_kept =>
    intro key hkey
    rw [heq, Dict.mem_keys_insertMany]
    exact .inl hkey
  case otherLabels =>
    intro key hkey
    have hnone : lastValue key w.applicationLabels = none :=
      lastValue_eq_none_iff.mpr fun hmem => hkey (w.keys_applicationLabels.subset hmem)
    rw [get?_dockerLabels_containerOf, hnone, Option.none_or]
  case env =>
    exact carriesValue_containerOf ((w.lastValue_identity (by decide)).trans henv) henvLabel
  case service =>
    exact carriesValue_containerOf ((w.lastValue_identity (by decide)).trans hservice) hserviceLabel
  case version =>
    exact carriesValue_containerOf ((w.lastValue_identity (by decide)).trans hversion) hversionLabel
  case entryPoint =>
    rw [heq]
    by_cases hsecurity : w.config.workloadSecurity.enabled = true
    · simp [hsecurity, Container.ofOptions, tracedCommand]
    · simp [hsecurity, Container.ofOptions]
  case capabilities =>
    rw [heq]
    by_cases hsecurity : w.config.workloadSecurity.enabled = true
    · by_cases hasked : "SYS_PTRACE" ∈ call.2.linuxCapabilities.getD []
      · simp [hsecurity, hasked, Container.ofOptions, tracingCapability, addOnce_of_mem]
      · simp [hsecurity, hasked, Container.ofOptions, tracingCapability, addOnce_of_not_mem]
    · simp [hsecurity, Container.ofOptions]
  case logging =>
    intro hrouter
    rw [heq, hrouter]
    rfl

/-- An accepted addition appends the container that it answers, which stays in the task through any
later calls and keeps what its caller asked for. -/
theorem keepsRequest_of_addContainer {w' : WiredTask} {id : String} {o : ContainerOptions}
    {c : Container} (h : w.addContainer id o = .ok c w') :
    c.name = o.containerName.getD id ∧ w'.task.containers = w.task.containers ++ [c] ∧
      (∀ calls, c ∈ (w'.run calls).task.containers) ∧ w.KeepsRequest o c := by
  obtain ⟨-, -, rfl, rfl⟩ := of_addContainer_eq_ok h
  refine ⟨w.containerOf_name (id, o), rfl, ?_, w.keepsRequest_containerOf (id, o)⟩
  intro calls
  rw [run_eq]
  simp [Task.addContainer]

/-- An application with variables, capabilities and a command of its own, with workload security. -/
theorem keepsRequest_of_addContainer_of_secured :
    ∃ w, ofSettings "web" {}
        { apiKeys := { plain := some "1234" }
          identity := { env := some "prod", service := some "" }
          agentDependency := some true
          workloadSecurity := some { enabled := some true } } {} {} = .ok w ∧
      ∃ o : ContainerOptions, o =
          { image := "app:1"
            environment := .ofList [("DD_ENV", "test"), ("DD_SERVICE", "shop"), ("STAGE", "x")]
            entryPoint := some ["/run"]
            linuxCapabilities := some ["NET_ADMIN"]
            logging := some { driver := "awslogs" } } ∧
        ∃ w' c, w.addContainer "app" o = .ok c w' ∧ c ∈ (w'.run [("app", o)]).task.containers ∧
          c.environment.get? "DD_ENV" = some "prod" ∧
          c.environment.get? "DD_SERVICE" = some "shop" ∧
          c.environment.get? "STAGE" = some "x" ∧
          c.entryPoint =
            some ["/cws-instrumentation-volume/cws-instrumentation", "trace", "--", "/run"] ∧
          c.linuxCapabilities = ["NET_ADMIN", "SYS_PTRACE"] ∧
          c.logging = o.logging := by
  refine ⟨_, (fun hw => ⟨hw, _, rfl, ?_⟩) rfl⟩
  refine ⟨_, _, (fun hadd => ⟨hadd, ?_⟩) rfl⟩
  obtain ⟨-, -, hstays, hkeeps⟩ := keepsRequest_of_addContainer hadd
  exact ⟨hstays _, hkeeps.env.inVariable.trans (by decide),
    hkeeps.service.inVariable.trans (by decide),
    (hkeeps.otherVariables "STAGE" (by decide)).trans (by decide),
    hkeeps.entryPoint.trans (by decide), hkeeps.capabilities.trans (by decide),
    hkeeps.logging (by decide)⟩

end TelemetryWiring.Fargate.WiredTask
