import TelemetryWiring.Lambda.Config
import TelemetryWiring.Proofs.Fargate.Relaxation
import TelemetryWiring.StepFunctions.Settings

/-!
What switching checks off can change. Settings that resolve go on to resolve, to the same, and a
task that was wired is wired the same and answers later calls alike.
-/
namespace TelemetryWiring

variable {options laxer : ValidationOptions}

theorem Lambda.Settings.relaxes_finalize (h : options.IsRelaxedBy laxer) (s : Lambda.Settings) :
    Relaxes (s.finalize laxer) (s.finalize options) := by
  unfold Lambda.Settings.finalize
  exact (relaxes_checkSite h _).bind fun _ => .refl _

/-- Laxer options accept, of settings of every kind and of tasks, whatever stricter ones accept, and
with the same result. -/
theorem resolve_of_isRelaxedBy (h : options.IsRelaxedBy laxer) :
    (∀ (s defaults : Lambda.Settings) (r : Noted Lambda.Config),
      s.resolve defaults options = .ok r → s.resolve defaults laxer = .ok r) ∧
    (∀ (s defaults : Fargate.Settings) (r : Noted Fargate.Config),
      s.resolve defaults options = .ok r → s.resolve defaults laxer = .ok r) ∧
    (∀ (s defaults : StepFunctions.Settings) (r : Noted StepFunctions.Config),
      s.resolve defaults options = .ok r → s.resolve defaults laxer = .ok r) ∧
    (∀ (id : String) (task : TaskSettings) (s defaults : Fargate.Settings) (w : Fargate.WiredTask),
      Fargate.WiredTask.ofSettings id task s defaults options = .ok w →
        ∃ w', Fargate.WiredTask.ofSettings id task s defaults laxer = .ok w' ∧
          w'.task = w.task ∧ w'.agentEnvironment = w.agentEnvironment ∧
          w'.diagnostics = w.diagnostics ∧
          ∀ calls, w'.outcomes calls = w.outcomes calls ∧
            (w'.run calls).task = (w.run calls).task) := by
  refine ⟨fun s defaults r hr => ?_, fun s defaults r hr => ?_, fun s defaults r hr => ?_,
    fun id task s defaults w hw => ?_⟩
  · exact Lambda.Settings.relaxes_finalize h _ r hr
  · exact Fargate.Settings.relaxes_finalize h _ r hr
  · -- no switch is looked at
    exact hr
  · have hlaxer := Fargate.WiredTask.relaxes_ofSettings h id task s defaults w hw
    exact ⟨w, hlaxer, rfl, rfl, rfl, fun calls => ⟨rfl, rfl⟩⟩

/-- With sites not looked at and then nothing validated: settings for an unknown site, and a task off
Linux whose sockets give way. -/
theorem resolve_of_isRelaxedBy_of_unknown_site :
    let options : ValidationOptions := { bypassSiteValidation := true }
    let laxer : ValidationOptions := { bypassSiteValidation := true, bypassValidation := true }
    let windows : TaskSettings :=
      { runtimePlatform := some { operatingSystem := some .windowsServer2022Core } }
    let settings : Fargate.Settings :=
      { site := some "nowhere", apiKeys := { plain := some "key" } }
    options.IsRelaxedBy laxer ∧
    (∃ r, Lambda.Settings.resolve { site := some "nowhere" } {} options = .ok r ∧
      Lambda.Settings.resolve { site := some "nowhere" } {} laxer = .ok r) ∧
    (∃ r, settings.resolve {} options = .ok r ∧ settings.resolve {} laxer = .ok r) ∧
    (∃ r, StepFunctions.Settings.resolve { tags := some "team:shop" } {} options = .ok r ∧
      StepFunctions.Settings.resolve { tags := some "team:shop" } {} laxer = .ok r) ∧
    ∃ w w', Fargate.WiredTask.ofSettings "web" windows settings {} options = .ok w ∧
      Fargate.WiredTask.ofSettings "web" windows settings {} laxer = .ok w' ∧
      w.diagnostics ≠ [] ∧ w'.diagnostics = w.diagnostics ∧
      w'.outcomes [("app", {}), ("app", {})] = w.outcomes [("app", {}), ("app", {})] := by
  intro options laxer windows settings
  have h : options.IsRelaxedBy laxer := ⟨id, fun _ => rfl⟩
  obtain ⟨hlambda, hfargate, hstates, htask⟩ := resolve_of_isRelaxedBy h
  refine ⟨h, ?_, ?_, ?_, ?_⟩
  · exact Exists.imp (fun r hr => And.intro hr (hlambda _ _ r hr)) ⟨_, rfl⟩
  · exact Exists.imp (fun r hr => And.intro hr (hfargate _ _ r hr)) ⟨_, rfl⟩
  · exact Exists.imp (fun r hr => And.intro hr (hstates _ _ r hr)) ⟨_, rfl⟩
  · have hwired : ∃ w, Fargate.WiredTask.ofSettings "web" windows settings {} options = .ok w :=
      ⟨_, rfl⟩
    obtain ⟨w, hw⟩ := hwired
    obtain ⟨w', hw', -, -, hdiagnostics, hcalls⟩ := htask _ _ _ _ _ hw
    refine ⟨w, w', hw, hw', ?_, hdiagnostics, (hcalls _).1⟩
    cases hw
    decide

end TelemetryWiring
