import TelemetryWiring.Proofs.Fargate.Resolution
import TelemetryWiring.Proofs.Lambda.Resolution
import TelemetryWiring.Proofs.StepFunctions.Resolution

/-!
What resolution yields is its own resolution: a configuration spelled out as settings goes through
again unchanged and without complaint.
-/
namespace TelemetryWiring

/-- For settings of every kind, a resolved configuration that is spelled out and resolved over no
defaults comes back without diagnostics; that of a task or a state machine also does so over the
defaults that it came from. -/
theorem resolve_ofConfig_value (options : ValidationOptions) :
    (∀ (s defaults : Lambda.Settings) (r : Noted Lambda.Config),
      s.resolve defaults options = .ok r →
        (Lambda.Settings.ofConfig r.value).resolve {} options = .ok ⟨r.value, []⟩) ∧
    (∀ (s defaults : Fargate.Settings) (r : Noted Fargate.Config),
      s.resolve defaults options = .ok r →
        (Fargate.Settings.ofConfig r.value).resolve {} options = .ok ⟨r.value, []⟩ ∧
        (Fargate.Settings.ofConfig r.value).resolve defaults options = .ok ⟨r.value, []⟩) ∧
    (∀ (s defaults : StepFunctions.Settings) (r : Noted StepFunctions.Config),
      s.resolve defaults options = .ok r →
        (StepFunctions.Settings.ofConfig r.value).resolve {} options = .ok ⟨r.value, []⟩ ∧
        (StepFunctions.Settings.ofConfig r.value).resolve defaults options =
          .ok ⟨r.value, []⟩) := by
  refine ⟨fun s defaults r h => ?_, fun s defaults r h => ?_, fun s defaults r h => ?_⟩
  · exact Lambda.Settings.resolve_ofConfig_of_resolve h
  · exact Fargate.Settings.resolve_ofConfig_of_resolve h
  · exact StepFunctions.Settings.resolve_ofConfig_of_resolve h

/-- Settings of each kind that resolve: an older switch is read as a mode and metrics leave the
logs, parsing of JSON brings the file for it, and two layers make one identity. -/
theorem resolve_ofConfig_value_of_rewritten :
    (∃ r, Lambda.Settings.resolve
        { apiKeys := { secretArn := some "arn:aws:secretsmanager:eu-west-1:1:secret:key" }
          protection := some true }
        { layers := { extension := { version := some 80 } } } {} = .ok r ∧
      (Lambda.Settings.ofConfig r.value).resolve {} {} = .ok ⟨r.value, []⟩) ∧
    (∃ r, Fargate.Settings.resolve
        { logCollection := some
            { enabled := some true
              loggingType := some .fluentBit
              router := some { firelens := some { parseJson := some true } } } }
        { apiKeys := { plain := some "key" }, agentDependency := some true } {} = .ok r ∧
      (Fargate.Settings.ofConfig r.value).resolve {} {} = .ok ⟨r.value, []⟩ ∧
      (Fargate.Settings.ofConfig r.value).resolve
        { apiKeys := { plain := some "key" }, agentDependency := some true } {} =
          .ok ⟨r.value, []⟩) ∧
    (∃ r, StepFunctions.Settings.resolve
        { identity := { service := some "orders" } } { identity := { env := some "prod" } } {} =
          .ok r ∧
      (StepFunctions.Settings.ofConfig r.value).resolve {} {} = .ok ⟨r.value, []⟩ ∧
      (StepFunctions.Settings.ofConfig r.value).resolve
        { identity := { env := some "prod" } } {} = .ok ⟨r.value, []⟩) := by
  obtain ⟨hlambda, hfargate, hstates⟩ := resolve_ofConfig_value {}
  refine ⟨?_, ?_, ?_⟩
  · exact Exists.imp (fun r hr => And.intro hr (hlambda _ _ r hr)) ⟨_, rfl⟩
  · exact Exists.imp (fun r hr => And.intro hr (hfargate _ _ r hr)) ⟨_, rfl⟩
  · exact Exists.imp (fun r hr => And.intro hr (hstates _ _ r hr)) ⟨_, rfl⟩

end TelemetryWiring
