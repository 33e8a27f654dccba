import TelemetryWiring.Proofs.Fargate.Relaxation
import TelemetryWiring.Proofs.Fargate.Secrets
import TelemetryWiring.Proofs.Redaction

/-!
The wiring of tasks with the plain key blotted out. The text of the key reaches a variable of the
Agent and an option of the drivers that route logs, and no decision on the way looks at it: blotting
it out beforehand leaves no other trace than blotting it out in the result.
-/
namespace TelemetryWiring

/-- A driver whose key, if it routes logs, is blotted out. -/
def LogDriver.redacted (d : LogDriver) : LogDriver :=
  if d.driver = "awsfirelens" then { d with options := d.options.redact "apikey" } else d

/-- A container without the text of the key: the Agent has it in its environment, and the driver of
any container may have it. -/
def Container.redacted (c : Container) : Container :=
  { c with
    environment :=
      if c.name = Fargate.agentName then c.environment.redact "DD_API_KEY" else c.environment
    logging := c.logging.map (·.redacted) }

theorem LogDriver.redacted_redacted (d : LogDriver) : d.redacted.redacted = d.redacted := by
  unfold redacted
  by_cases h : d.driver = "awsfirelens"
  · simp only [h, if_true, Dict.redact_redact]
  · simp only [h, if_false]

theorem Container.redacted_redacted (c : Container) : c.redacted.redacted = c.redacted := by
  have hlogging : (c.logging.map (·.redacted)).map (·.redacted) = c.logging.map (·.redacted) := by
    rw [Option.map_map]
    exact congrFun (congrArg _ (funext LogDriver.redacted_redacted)) _
  unfold redacted
  dsimp only
  rw [hlogging]
  split
  · rw [Dict.redact_redact]
  · rfl

def Task.redacted (t : Task) : Task := { t with containers := t.containers.map (·.redacted) }

namespace Fargate

namespace EnvironmentLedger

/-- The ledger without the text of the key; it still tells whether the key replaced another. -/
def redacted (l : EnvironmentLedger) : EnvironmentLedger :=
  ⟨l.entries.mapAt "DD_API_KEY" fun e => { e with value := "" }⟩

theorem redacted_write (l : EnvironmentLedger) (key value : String) :
    (l.write key value).redacted =
      l.redacted.write key (if key = "DD_API_KEY" then "" else value) := by
  unfold write redacted
  rw [Dict.mapAt_insert, Dict.contains_mapAt]
  split <;> rfl

theorem redacted_writeAll (l : EnvironmentLedger) (writes : List (String × String)) :
    (l.writeAll writes).redacted = l.redacted.writeAll (writes.map (redactWrite "DD_API_KEY")) := by
  induction writes generalizing l with
  | nil => rfl
  | cons e writes ih =>
    change ((l.write e.1 e.2).writeAll writes).redacted = _
    rw [ih, redacted_write]
    rfl

theorem values_redacted (l : EnvironmentLedger) :
    l.redacted.values = l.values.redact "DD_API_KEY" := by
  apply Dict.ext_get?
  intro key
  rw [values, Dict.get?_mapValues, redacted, Dict.get?_mapAt, Dict.redact, Dict.get?_mapAt, values,
    Dict.get?_mapValues]
  split
  · rw [Option.map_map, Option.map_map]
    rfl
  · rfl

theorem overwritten_redacted (l : EnvironmentLedger) : l.redacted.overwritten = l.overwritten := by
  unfold overwritten redacted Dict.mapAt Dict.toList
  rw [List.filter_map, List.map_map]
  congr 1
  refine List.filter_congr fun e _ => ?_
  dsimp only [Function.comp]
  split <;> rfl

/-- What stands under other names than the key's can be told without its text. -/
theorem get?_redacted_of_ne {key : String} (h : key ≠ "DD_API_KEY") (l : EnvironmentLedger) :
    l.redacted.get? key = l.get? key := by
  rw [get?, redacted, Dict.get?_mapAt, if_neg h]
  rfl

end EnvironmentLedger

def Settings.redacted (s : Settings) : Settings := { s with apiKeys := s.apiKeys.redacted }

def Config.redacted (c : Config) : Config := { c with apiKey := c.apiKey.map (·.redacted) }

namespace Settings

theorem redacted_merge (a b : Settings) : (a.merge b).redacted = a.redacted.merge b.redacted := by
  unfold redacted merge
  rw [ApiKeySettings.redacted_merge]

theorem keyCandidates_redacted (s : Settings) :
    s.redacted.keyCandidates = s.keyCandidates.map fun e => (e.1, e.2.map (·.redacted)) := by
  simp [keyCandidates, redacted, ApiKeySettings.redacted, ApiKeySource.redacted,
    Function.comp_def]

/-- The text of the key does not decide whether settings are accepted. -/
theorem finalize_redacted (s : Settings) (options : ValidationOptions) :
    s.redacted.finalize options =
      (s.finalize options).map fun r => ⟨r.value.redacted, r.diagnostics⟩ := by
  unfold finalize
  rw [keyCandidates_redacted, selectApiKey_redacted, bind_of_map]
  simp only [map_of_bind]
  rfl

end Settings

namespace Config

variable (c : Config)

theorem redacted_redacted : c.redacted.redacted = c.redacted := by
  unfold redacted
  dsimp only
  rw [map_redacted_redacted]

theorem plainKey?_redacted : c.redacted.plainKey? = c.plainKey?.map fun _ => "" := by
  unfold plainKey? redacted
  cases c.apiKey with
  | none => rfl
  | some source => cases source <;> rfl

theorem keySecret?_redacted : c.redacted.keySecret? = c.keySecret? := by
  unfold keySecret? redacted
  cases c.apiKey with
  | none => rfl
  | some source => cases source <;> rfl

theorem agentVariables_redacted :
    c.redacted.agentVariables.map (redactWrite "DD_API_KEY") =
      c.agentVariables.map (redactWrite "DD_API_KEY") := by
  unfold agentVariables
  rw [plainKey?_redacted]
  simp only [List.map_append]
  cases c.plainKey? <;> rfl

/-- The text of the key is all that the Agent's environment has of it. -/
theorem agentEnvironment_redacted :
    c.redacted.agentEnvironment.redacted = c.agentEnvironment.redacted := by
  unfold agentEnvironment
  simp only [EnvironmentLedger.redacted_writeAll, agentVariables_redacted]
  rfl

theorem logTags_redacted : c.redacted.logTags = c.logTags := by
  have htags : c.redacted.agentEnvironment.get? "DD_TAGS" = c.agentEnvironment.get? "DD_TAGS" := by
    rw [← EnvironmentLedger.get?_redacted_of_ne (by decide), agentEnvironment_redacted,
      EnvironmentLedger.get?_redacted_of_ne (by decide)]
  unfold logTags
  rw [htags]
  rfl

theorem logDriver_redacted : c.redacted.logDriver.redacted = c.logDriver.redacted := by
  have hoptions : c.redacted.logDriver.options.redact "apikey" =
      c.logDriver.options.redact "apikey" := by
    unfold logDriver
    rw [logTags_redacted, plainKey?_redacted]
    simp only [Dict.ofList, Dict.redact_insertMany, List.map_append, map_redactWrite_filterMap]
    cases c.plainKey? <;> rfl
  have hsecrets : c.redacted.logDriver.secretOptions = c.logDriver.secretOptions := by
    unfold logDriver
    rw [keySecret?_redacted]
  change LogDriver.mk _ (c.redacted.logDriver.options.redact "apikey")
    c.redacted.logDriver.secretOptions = _
  rw [hoptions, hsecrets]
  rfl

theorem logDriver?_redacted :
    c.redacted.logDriver?.map (·.redacted) = c.logDriver?.map (·.redacted) := by
  unfold logDriver?
  change (if c.logCollection.usesRouter then some c.redacted.logDriver else none).map _ = _
  split
  · exact congrArg some c.logDriver_redacted
  · rfl

theorem redacted_agentContainer (linux : Bool) :
    (c.redacted.agentContainer linux).redacted = (c.agentContainer linux).redacted := by
  have henvironment : c.redacted.agentEnvironment.values.redact "DD_API_KEY" =
      c.agentEnvironment.values.redact "DD_API_KEY" := by
    rw [← EnvironmentLedger.values_redacted, agentEnvironment_redacted,
      EnvironmentLedger.values_redacted]
  have hlogging : (if linux then c.redacted.logDriver? else none).map (·.redacted) =
      (if linux then c.logDriver? else none).map (·.redacted) := by
    split
    · exact c.logDriver?_redacted
    · rfl
  have hmounts : c.redacted.mountsSockets linux = c.mountsSockets linux := rfl
  rw [agentContainer_eq, agentContainer_eq, hmounts]
  unfold Container.redacted Container.ofOptions agentOptions
  dsimp only
  rw [hlogging, keySecret?_redacted, if_pos rfl, if_pos rfl, henvironment]
  rfl

end Config
end Fargate

namespace Task

variable (t : Task)

theorem redacted_redacted : t.redacted.redacted = t.redacted := by
  unfold redacted
  rw [List.map_map]
  congr 2
  funext c
  exact c.redacted_redacted

theorem redacted_addContainer (c : Container) :
    (t.addContainer c).redacted = t.redacted.addContainer c.redacted := by
  simp [addContainer, redacted]

theorem redacted_addVolume (name : String) :
    (t.addVolume name).redacted = t.redacted.addVolume name := by
  unfold addVolume
  rw [apply_ite Task.redacted]
  rfl

theorem redacted_addPolicy (statement : PolicyStatement) :
    (t.addPolicy statement).redacted = t.redacted.addPolicy statement := by
  unfold addPolicy
  rw [apply_ite Task.redacted]
  rfl

theorem hasContainer_redacted (name : String) :
    t.redacted.hasContainer name = t.hasContainer name := by
  unfold hasContainer container? redacted
  rw [List.find?_map, Option.isSome_map]
  rfl

end Task

namespace Fargate

theorem Config.redacted_managedTask (c : Config) (linux : Bool) (t : Task) :
    (c.redacted.managedTask linux t).redacted = (c.managedTask linux t).redacted := by
  have htag (t : Task) (key value : String) :
      (t.addTag key value).redacted = t.redacted.addTag key value := rfl
  unfold managedTask
  simp only [htag, Task.redacted_addPolicy, Task.redacted_addContainer, Task.redacted_addVolume,
    apply_ite Task.redacted, redacted_agentContainer]
  rfl

namespace WiredTask

/-- A wired task without the text of the key. -/
def redacted (w : WiredTask) : WiredTask :=
  { w with task := w.task.redacted, config := w.config.redacted }

theorem redacted_redacted (w : WiredTask) : w.redacted.redacted = w.redacted := by
  unfold redacted
  dsimp only
  rw [Task.redacted_redacted, Config.redacted_redacted]

/-- Settings whose key is blotted out are refused alike, or give the same task but for the key. -/
theorem redacted_ofSettings (id : String) (task : TaskSettings) (s d : Settings)
    (options : ValidationOptions) :
    (ofSettings id task s.redacted d.redacted options).map redacted =
      (ofSettings id task s d options).map redacted := by
  have hmerge : (Settings.libraryDefaults.merge d.redacted).merge s.redacted =
      ((Settings.libraryDefaults.merge d).merge s).redacted := by
    rw [Settings.redacted_merge, Settings.redacted_merge]
    rfl
  unfold ofSettings Settings.resolve
  rw [hmerge, Settings.finalize_redacted, bind_of_map]
  simp only [map_of_bind]
  refine bind_congr fun resolved => ?_
  have hplatform : resolved.value.redacted.checkPlatform task.isLinux options =
      resolved.value.checkPlatform task.isLinux options := rfl
  rw [hplatform]
  refine bind_congr fun found => congrArg Except.ok ?_
  unfold redacted
  dsimp only
  rw [Config.redacted_managedTask, Config.redacted_redacted]

/-- What a caller asks for is prepared without a look at the key, which is in the driver alone. -/
theorem prepareOptions_redacted (w : WiredTask) (o : ContainerOptions) :
    w.redacted.prepareOptions o =
      { w.prepareOptions o with logging := (w.redacted.prepareOptions o).logging } ∧
    (w.redacted.prepareOptions o).logging.map (·.redacted) =
      (w.prepareOptions o).logging.map (·.redacted) := by
  have hrouter : w.redacted.config.logCollection.usesRouter = w.config.logCollection.usesRouter :=
    rfl
  have hsecurity : w.redacted.config.workloadSecurity = w.config.workloadSecurity := rfl
  constructor
  · unfold prepareOptions
    rw [hrouter, hsecurity]
    split <;> split <;> rfl
  · rw [prepareOptions_logging, prepareOptions_logging, hrouter]
    split
    · exact congrArg some w.config.logDriver_redacted
    · rfl

/-- The container of an application has the key in its driver alone. -/
theorem redacted_applicationContainer (w : WiredTask) (name : String) (o : ContainerOptions) :
    (w.redacted.applicationContainer name o).redacted =
      (w.applicationContainer name o).redacted := by
  obtain ⟨hprepared, hlogging⟩ := w.prepareOptions_redacted o
  rw [applicationContainer_eq, applicationContainer_eq, hprepared]
  unfold Container.redacted Container.ofOptions
  dsimp only
  rw [hlogging]
  rfl

theorem isTaken_redacted (w : WiredTask) (name : String) :
    w.redacted.isTaken name = w.isTaken name := by
  unfold isTaken
  rw [← w.task.hasContainer_redacted name]
  rfl

/-- A call is met without a look at the key: what it leaves and what it is told differ in the key
at most. -/
theorem redacted_addContainer (w : WiredTask) (id : String) (o : ContainerOptions) :
    (w.redacted.addContainer id o).state.redacted = (w.addContainer id o).state.redacted ∧
      (w.redacted.addContainer id o).answer.map (·.redacted) =
        (w.addContainer id o).answer.map (·.redacted) := by
  have hcontainer := w.redacted_applicationContainer (o.containerName.getD id) o
  have hsame := w.isTaken_redacted (o.containerName.getD id)
  cases htaken : w.isTaken (o.containerName.getD id) with
  | true =>
    rw [addContainer_of_taken htaken, addContainer_of_taken (hsame.trans htaken)]
    exact ⟨w.redacted_redacted, rfl⟩
  | false =>
    rw [addContainer_of_free htaken, addContainer_of_free (hsame.trans htaken)]
    cases o.sizing.check (o.containerName.getD id) with
    | error e => exact ⟨w.redacted_redacted, rfl⟩
    | ok _ =>
      refine ⟨?_, congrArg Except.ok hcontainer⟩
      unfold redacted at hcontainer ⊢
      dsimp only [Outcome.state] at hcontainer ⊢
      rw [Task.redacted_addContainer, Task.redacted_addContainer, hcontainer,
        Task.redacted_redacted, Config.redacted_redacted]

theorem redacted_attempt (w : WiredTask) (call : String × ContainerOptions) :
    (w.redacted.attempt call).redacted = (w.attempt call).redacted :=
  (w.redacted_addContainer call.1 call.2).1

variable {w w' : WiredTask}

/-- Tasks that differ in the text of the key go on to differ in nothing else. -/
theorem redacted_run_congr (h : w.redacted = w'.redacted)
    (calls : List (String × ContainerOptions)) :
    (w.run calls).redacted = (w'.run calls).redacted := by
  induction calls generalizing w w' with
  | nil => exact h
  | cons call calls ih =>
    apply ih
    rw [← redacted_attempt, h, redacted_attempt]

/-- Tasks that differ in the text of the key tell their callers the same but for it. -/
theorem redacted_outcomes_congr (h : w.redacted = w'.redacted)
    (calls : List (String × ContainerOptions)) :
    (w.outcomes calls).map (·.map (·.redacted)) = (w'.outcomes calls).map (·.map (·.redacted)) := by
  induction calls generalizing w w' with
  | nil => rfl
  | cons call calls ih =>
    have hattempt : (w.attempt call).redacted = (w'.attempt call).redacted := by
      rw [← redacted_attempt, h, redacted_attempt]
    have hanswer : (w.addContainer call.1 call.2).answer.map (·.redacted) =
        (w'.addContainer call.1 call.2).answer.map (·.redacted) := by
      rw [← (redacted_addContainer w ..).2, h, (redacted_addContainer w' ..).2]
    rw [outcomes, outcomes, List.map_cons, List.map_cons, ih hattempt, hanswer]

/-- The ledgers of their Agents differ in the text of the key alone. -/
theorem redacted_agentEnvironment_congr (h : w.redacted = w'.redacted) :
    w.agentEnvironment.redacted = w'.agentEnvironment.redacted := by
  have hconfig : w.config.redacted = w'.config.redacted := congrArg WiredTask.config h
  unfold agentEnvironment
  rw [← Config.agentEnvironment_redacted, hconfig, Config.agentEnvironment_redacted]

end WiredTask
end Fargate
end TelemetryWiring
