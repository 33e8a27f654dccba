import TelemetryWiring.Proofs.Lambda.History

/-!
Functions that instrumentation skips because their library layer is not chosen. They are owned all
the same, so every later request meets them too. The grant of the key comes before the layer is
looked for; beside it a skipped function stays as it was supplied, as long as no override finds a
tag list on it.
-/
namespace TelemetryWiring

/-- Whether a finding says that a function was skipped. -/
def Diagnostic.isMissingLayer : Diagnostic → Bool
  | .missingLayerVersion .. => true
  | _ => false

namespace Lambda

/-- The secrets that instrumentation lets every function read. -/
def Config.keySecrets (c : Config) : List String :=
  if c.grantSecretRead then (c.apiKey.bind (·.secretArn?)).toList else []

theorem grantKey_eq_addOnce (f : LambdaFunction) (c : Config) :
    f.grantKey c = { f with secretReadGrants := c.keySecrets.foldl addOnce f.secretReadGrants } := by
  unfold LambdaFunction.grantKey Config.keySecrets
  by_cases hgrant : c.grantSecretRead = true
  · rw [if_pos hgrant]
    cases c.apiKey.bind (·.secretArn?) with
    | none => rfl
    | some arn =>
      dsimp only
      rw [if_pos hgrant]
      exact f.grantSecretRead_eq arn
  · rw [if_neg hgrant]
    cases c.apiKey.bind (·.secretArn?) with
    | none => rfl
    | some arn =>
      dsimp only
      rw [if_neg hgrant]
      rfl

namespace Instrumenter

variable {i : Instrumenter} {f : LambdaFunction}

/-- A finding that a function was skipped is made exactly for the functions that are. -/
theorem exists_isMissingLayer_iff :
    (∃ d ∈ (i.instrument f).diagnostics, d.isMissingLayer = true) ↔ i.config.skips f = true := by
  constructor
  · rintro ⟨d, hd, hmissing⟩
    by_contra hskips
    have hfalse : i.config.skips f = false := Bool.not_eq_true _ ▸ hskips
    have hgranted := sameIdentity_grantKey f i.config
    rw [instrument_of_not_skips hfalse] at hd
    rcases List.mem_append.mp hd with hd | hd
    · unfold library at hd
      split at hd
      · rename_i hlayers
        cases f.libraryCase i.config.layers i.config.layerAccount with
        | missing hpin _ => exact hskips (Config.skips_iff.mpr ⟨hlayers, hpin⟩)
        | unsupported _ outcome =>
          rw [outcome _ hgranted] at hd
          rw [List.mem_singleton.mp hd] at hmissing
          cases hmissing
        | unneeded _ outcome =>
          rw [outcome _ hgranted] at hd
          cases hd
        | chosen layer _ outcome =>
          rw [outcome _ hgranted] at hd
          cases hd
      · cases hd
    · have hoverwrite := isOverwrite_of_mem_wire hd
      have hother : d.isMissingLayer = false := by
        cases d <;> first | rfl | cases hoverwrite
      exact Bool.false_ne_true (hother.symm.trans hmissing)
  · intro hskips
    rw [instrument_of_skips hskips]
    exact ⟨f.missingNote, by simp, rfl⟩

theorem skips_eq_false_iff :
    i.config.skips f = false ↔ ∀ d ∈ (i.instrument f).diagnostics, d.isMissingLayer = false := by
  rw [← Bool.not_eq_true, ← exists_isMissingLayer_iff]
  simp

/-- A function that differs from the one supplied by the grant of the key alone, its tag list apart.
The tag list too is the one supplied unless there was one and an override since had something to
give. -/
structure KeptAside (c : Config) (s : Supply) (g : LambdaFunction) : Prop where
  grants : g.secretReadGrants = c.keySecrets.foldl addOnce s.function.secretReadGrants
  fields : g = { s.function with
    secretReadGrants := g.secretReadGrants
    environment := g.environment }
  others : ∀ key, key ≠ tagsVariable →
    g.environment.get? key = s.function.environment.get? key
  untouched : (s.function.environment.contains tagsVariable = false ∨
    ∀ given ∈ s.overrides, given.tags = []) → g.environment = s.function.environment

theorem keptAside_owned {s : Supply} (h : s.receiver.config.skips s.function = true) :
    KeptAside s.receiver.config s s.owned := by
  have howned : s.owned = LambdaFunction.retagAll
      { s.function with secretReadGrants :=
          s.receiver.config.keySecrets.foldl addOnce s.function.secretReadGrants } s.overrides := by
    change LambdaFunction.retagAll (s.receiver.instrument s.function).value s.overrides = _
    rw [instrument_of_skips h, grantKey_eq_addOnce]
  rw [howned]
  constructor
  case grants => rw [LambdaFunction.retagAll_eq]
  case fields => rw [LambdaFunction.retagAll_eq]
  case others =>
    intro key hkey
    exact LambdaFunction.get?_retagAll_of_ne _ _ hkey
  case untouched =>
    intro huntouched
    refine (congrArg LambdaFunction.environment (LambdaFunction.retagAll_of_untouched ?_)).trans rfl
    exact huntouched

/-- After any requests to a new instrumenter, every owned function was supplied, and if the last
addition of its name found its layer missing, it was kept aside. -/
theorem run_keptAside {settings defaults : Settings} {options : ValidationOptions}
    (hnew : ofSettings settings defaults options = .ok i) (requests : List Request)
    {name : String} {g : LambdaFunction} (howned : (i.run requests).function? name = some g) :
    ∃ s, i.history requests name = some s ∧ s.function.name = name ∧
      ((∃ d ∈ (s.receiver.instrument s.function).diagnostics, d.isMissingLayer = true) →
        KeptAside i.config s g) := by
  have htracks := tracks_run hnew requests
  rw [htracks.owned] at howned
  obtain ⟨s, hs, rfl⟩ := Option.map_eq_some_iff.mp howned
  refine ⟨s, hs, htracks.name name s hs, ?_⟩
  intro hmissing
  rw [← htracks.receiver name s hs]
  exact keptAside_owned (exists_isMissingLayer_iff.mp hmissing)

theorem run_keptAside_of_override :
    ∃ i, ofSettings { apiKeys := { secretArn := some "arn:aws:secretsmanager:key" } } {} {} = .ok i ∧
      ∃ g, (i.run [.setGit { commitSha := some "1111" },
          .add [.ofAccount "fn" "123456789012" "us-east-1" "python3.12" "app.run"],
          .overrideGit "2222" none]).function? "fn" = some g ∧
        ∃ s, i.history [.setGit { commitSha := some "1111" },
            .add [.ofAccount "fn" "123456789012" "us-east-1" "python3.12" "app.run"],
            .overrideGit "2222" none] "fn" = some s ∧
          (∃ d ∈ (s.receiver.instrument s.function).diagnostics, d.isMissingLayer = true) ∧
          KeptAside i.config s g := by
  obtain ⟨i, hi⟩ : ∃ i,
      ofSettings { apiKeys := { secretArn := some "arn:aws:secretsmanager:key" } } {} {} = .ok i :=
    ⟨_, rfl⟩
  obtain ⟨g, hg⟩ : ∃ g, (i.run [.setGit { commitSha := some "1111" },
      .add [.ofAccount "fn" "123456789012" "us-east-1" "python3.12" "app.run"],
      .overrideGit "2222" none]).function? "fn" = some g := by
    cases hi
    exact ⟨_, rfl⟩
  obtain ⟨s, hs, -, hkept⟩ := run_keptAside hi _ hg
  have hmissing : ∃ d ∈ (s.receiver.instrument s.function).diagnostics,
      d.isMissingLayer = true := by
    cases hi
    cases hs
    decide
  exact ⟨i, hi, g, hg, s, hs, hmissing, hkept hmissing⟩

/-- The grant of the key reaches a function that is skipped, and a later override its tag list. -/
theorem run_changes_skipped_function :
    ∃ i g s,
      ofSettings { apiKeys := { secretArn := some "arn:aws:secretsmanager:key" } } {} {} = .ok i ∧
      (i.run [.add [{ LambdaFunction.ofAccount "fn" "123456789012" "us-east-1" "python3.12"
            "app.run" with environment := .ofList [("DD_TAGS", "team:a")] }],
          .overrideGit "2222" none]).function? "fn" = some g ∧
      i.history [.add [{ LambdaFunction.ofAccount "fn" "123456789012" "us-east-1" "python3.12"
            "app.run" with environment := .ofList [("DD_TAGS", "team:a")] }],
          .overrideGit "2222" none] "fn" = some s ∧
      (∃ d ∈ (s.receiver.instrument s.function).diagnostics, d.isMissingLayer = true) ∧
      g.secretReadGrants ≠ s.function.secretReadGrants ∧
      g.environment ≠ s.function.environment :=
  ⟨_, _, _, rfl, rfl, rfl, by decide, by decide, by decide +kernel⟩

end Instrumenter
end Lambda
end TelemetryWiring
