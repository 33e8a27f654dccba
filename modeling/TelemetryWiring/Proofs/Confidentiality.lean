import TelemetryWiring.Proofs.Fargate.Redaction
import TelemetryWiring.Proofs.Lambda.Redaction

/-!
Where a key in plain text can be seen. Two wirings that are given different keys are refused alike,
report the same findings, and build the same things, down to the text of the key in the places that
are there to hold it.
-/
namespace TelemetryWiring

/-- Tasks that go through every run of additions alike but for the text of a key: it is the value of
a variable of the Agent and of an option of the drivers that route logs. -/
structure Fargate.WiredTask.AgreesButForKey (v w : WiredTask) : Prop where
  outcomes : ∀ calls, (v.outcomes calls).map (·.map (·.redacted)) =
    (w.outcomes calls).map (·.map (·.redacted))
  run : ∀ calls, (v.run calls).redacted = (w.run calls).redacted
  overwritten : ∀ calls, (v.run calls).agentEnvironment.overwritten =
    (w.run calls).agentEnvironment.overwritten

/-- Instrumenters that go through every run over functions without a key alike but for the text of
their own: it is the value of a variable of the functions that they instrument. -/
structure Lambda.Instrumenter.AgreesButForKey (i j : Instrumenter) (commands : List Command) :
    Prop where
  replies : i.replies commands = j.replies commands
  run : (i.performAll commands).redacted = (j.performAll commands).redacted
  /-- A function that is skipped does not meet the key at all. -/
  functions : List.Forall₂ (fun f g => f.redacted = g.redacted ∧
      ((i.performAll commands).config.skips f = true → f = g))
    (i.performAll commands).functions (j.performAll commands).functions
  forwarded : ∀ groups, (i.performAll commands).forwardLogGroups groups =
    (j.performAll commands).forwardLogGroups groups

theorem Fargate.WiredTask.agreesButForKey_of_redacted_eq {v w : WiredTask}
    (h : v.redacted = w.redacted) : v.AgreesButForKey w := by
  constructor
  case outcomes => exact redacted_outcomes_congr h
  case run => exact redacted_run_congr h
  case overwritten =>
    intro calls
    rw [← EnvironmentLedger.overwritten_redacted,
      redacted_agentEnvironment_congr (redacted_run_congr h calls),
      EnvironmentLedger.overwritten_redacted]

theorem Lambda.Instrumenter.agreesButForKey_of_redacted_eq {i j : Instrumenter}
    (h : i.redacted = j.redacted) (hi : i.SkippedKeyless) {commands : List Command}
    (hcommands : ∀ command ∈ commands, ∀ f ∈ command.supplied, f.carriesKey = false) :
    i.AgreesButForKey j commands := by
  have hrun := redacted_performAll_congr h hcommands
  constructor
  case replies => exact replies_congr h hcommands
  case run => exact hrun
  case functions => exact forall₂_functions hrun (hi.performAll hcommands)
  case forwarded =>
    intro groups
    have hforward (i : Instrumenter) : i.redacted.forwardLogGroups groups =
        i.forwardLogGroups groups := rfl
    rw [← hforward, hrun, hforward]

/-- Settings that name different keys in plain text wire tasks and functions alike: the same errors
and findings, and the same results but for the text of the key where it has its place. -/
theorem plain_key_is_confined :
    (∀ (id : String) (task : TaskSettings) (s s' d d' : Fargate.Settings)
        (options : ValidationOptions), s.redacted = s'.redacted → d.redacted = d'.redacted →
      (Fargate.WiredTask.ofSettings id task s d options).map (·.redacted) =
        (Fargate.WiredTask.ofSettings id task s' d' options).map (·.redacted) ∧
      ∀ v w, Fargate.WiredTask.ofSettings id task s d options = .ok v →
        Fargate.WiredTask.ofSettings id task s' d' options = .ok w → v.AgreesButForKey w) ∧
    ∀ (s s' d d' : Lambda.Settings) (options : ValidationOptions), s.redacted = s'.redacted →
      d.redacted = d'.redacted →
      (Lambda.Instrumenter.ofSettings s d options).map (·.redacted) =
        (Lambda.Instrumenter.ofSettings s' d' options).map (·.redacted) ∧
      ∀ i j, Lambda.Instrumenter.ofSettings s d options = .ok i →
        Lambda.Instrumenter.ofSettings s' d' options = .ok j →
        ∀ commands : List Lambda.Command,
          (∀ command ∈ commands, ∀ f ∈ command.supplied, f.carriesKey = false) →
            i.AgreesButForKey j commands := by
  constructor
  · intro id task s s' d d' options hs hd
    have hresults : (Fargate.WiredTask.ofSettings id task s d options).map (·.redacted) =
        (Fargate.WiredTask.ofSettings id task s' d' options).map (·.redacted) := by
      rw [← Fargate.WiredTask.redacted_ofSettings, hs, hd, Fargate.WiredTask.redacted_ofSettings]
    refine ⟨hresults, ?_⟩
    intro v w hv hw
    rw [hv, hw] at hresults
    exact Fargate.WiredTask.agreesButForKey_of_redacted_eq (Except.ok.inj hresults)
  · intro s s' d d' options hs hd
    have hresults : (Lambda.Instrumenter.ofSettings s d options).map (·.redacted) =
        (Lambda.Instrumenter.ofSettings s' d' options).map (·.redacted) := by
      rw [← Lambda.Instrumenter.redacted_ofSettings, hs, hd,
        Lambda.Instrumenter.redacted_ofSettings]
    refine ⟨hresults, ?_⟩
    intro i j hi hj commands hcommands
    have hnew : i.functions = [] := by
      obtain ⟨resolved, -, rfl⟩ := Lambda.Instrumenter.exists_resolved_of_ofSettings hi
      rfl
    rw [hi, hj] at hresults
    refine Lambda.Instrumenter.agreesButForKey_of_redacted_eq (Except.ok.inj hresults) ?_ hcommands
    intro f hf
    rw [hnew] at hf
    cases hf

/-- Two keys, for a task that routes its logs and for functions of which one is skipped. -/
theorem plain_key_is_confined_of_two_keys :
    ∃ v w i j,
      Fargate.WiredTask.ofSettings "app" {}
        { apiKeys := { plain := some "k1" }
          logCollection := some { enabled := some true, loggingType := some .fluentBit } } {} {} =
          .ok v ∧
      Fargate.WiredTask.ofSettings "app" {}
        { apiKeys := { plain := some "k2" }
          logCollection := some { enabled := some true, loggingType := some .fluentBit } } {} {} =
          .ok w ∧
      v.AgreesButForKey w ∧
      Lambda.Instrumenter.ofSettings
        { apiKeys := { plain := some "k1" }
          layers := { python := { version := some 100 }, extension := { version := some 60 } } }
        {} {} = .ok i ∧
      Lambda.Instrumenter.ofSettings
        { apiKeys := { plain := some "k2" }
          layers := { python := { version := some 100 }, extension := { version := some 60 } } }
        {} {} = .ok j ∧
      i.AgreesButForKey j
        [.request (.add
          [.ofAccount "orders" "123456789012" "us-east-1" "python3.12" "app.run",
           .ofAccount "thumbs" "123456789012" "us-east-1" "nodejs20.x" "index.run"])] := by
  obtain ⟨v, hv⟩ : ∃ v, Fargate.WiredTask.ofSettings "app" {}
      { apiKeys := { plain := some "k1" }
        logCollection := some { enabled := some true, loggingType := some .fluentBit } } {} {} =
        .ok v := ⟨_, rfl⟩
  obtain ⟨w, hw⟩ : ∃ w, Fargate.WiredTask.ofSettings "app" {}
      { apiKeys := { plain := some "k2" }
        logCollection := some { enabled := some true, loggingType := some .fluentBit } } {} {} =
        .ok w := ⟨_, rfl⟩
  obtain ⟨i, hi⟩ : ∃ i, Lambda.Instrumenter.ofSettings
      { apiKeys := { plain := some "k1" }
        layers := { python := { version := some 100 }, extension := { version := some 60 } } }
      {} {} = .ok i := ⟨_, rfl⟩
  obtain ⟨j, hj⟩ : ∃ j, Lambda.Instrumenter.ofSettings
      { apiKeys := { plain := some "k2" }
        layers := { python := { version := some 100 }, extension := { version := some 60 } } }
      {} {} = .ok j := ⟨_, rfl⟩
  refine ⟨v, w, i, j, hv, hw, ?_, hi, hj, ?_⟩
  · exact (plain_key_is_confined.1 "app" {} _ _ {} {} {} (by rfl) rfl).2 v w hv hw
  · exact (plain_key_is_confined.2 _ _ {} {} {} (by rfl) rfl).2 i j hi hj _ (by decide)

end TelemetryWiring
