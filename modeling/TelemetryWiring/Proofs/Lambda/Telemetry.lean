import TelemetryWiring.Proofs.Lambda.History
import TelemetryWiring.Proofs.Lambda.Resolution
import TelemetryWiring.Proofs.Lambda.Skipped

/-!
Where the telemetry of an instrumented function goes. The resolver decides whether a key is needed,
the transport which variables say so, and an addition whether its functions can read the key; for a
function that brings no key of its own the three agree.
-/
namespace TelemetryWiring.Lambda

/-- The variables that can hand a function its key. -/
def keyVariables : List String := ["DD_API_KEY", "DD_API_KEY_SECRET_ARN", "DD_KMS_API_KEY"]

theorem keyVariables_subset : keyVariables ⊆ transportKeys := by decide

theorem switchText_eq_false_iff {on : Bool} : switchText on = "false" ↔ on = false := by
  cases on <;> decide

namespace Transport

variable {t : Transport} {f : LambdaFunction}

theorem keyVariable_mem (source : ApiKeySource) : (keyVariable source).1 ∈ keyVariables := by
  cases source <;> simp [keyVariable, keyVariables]

theorem secretArn?_isSome_of_keyVariable {source : ApiKeySource} (h : t.apiKey = some source)
    (hsecret : (keyVariable source).1 = "DD_API_KEY_SECRET_ARN") : t.secretArn?.isSome = true := by
  rw [secretArn?, h]
  cases source with
  | secret | secretArn => rfl
  | plain | kmsEncrypted => simp [keyVariable] at hsecret

theorem check_eq_ok_iff :
    t.check f = .ok () ↔ ¬(RuntimeFamily.ofRuntime f.runtime = .node ∧ t.secretArn?.isSome = true ∧
      t.flushMetricsToLogs = false ∧ t.usesExtension = false) := by
  unfold check
  split <;> simp_all

theorem lastValue_of_mem {e : String × String} (h : e ∈ t.assignments) :
    lastValue e.1 t.assignments = some e.2 := by
  have hnodup : (t.assignments.map (·.1)).Nodup := (keys_transport t).nodup (by decide)
  exact lastValue_of_isConsistent (isConsistent_of_nodup hnodup) h

theorem lastValue_flush (t : Transport) :
    lastValue "DD_FLUSH_TO_LOG" t.assignments = some (switchText t.flushMetricsToLogs) :=
  lastValue_of_mem (List.mem_cons_self ..)

theorem lastValue_site (h : t.flushMetricsToLogs = false) :
    lastValue "DD_SITE" t.assignments = some t.site := by
  have hmem : ("DD_SITE", t.site) ∈ t.assignments := by simp [assignments, h]
  exact lastValue_of_mem hmem

/-- The key variables are written from the key alone. -/
theorem lastValue_key (t : Transport) {key : String} (hkey : key ∈ keyVariables) :
    lastValue key t.assignments = lastValue key (t.apiKey.map keyVariable).toList := by
  have hother : lastValue key (("DD_FLUSH_TO_LOG", switchText t.flushMetricsToLogs) ::
      if t.flushMetricsToLogs then [] else [("DD_SITE", t.site)]) = none := by
    have hdisjoint : keyVariables.Disjoint ["DD_FLUSH_TO_LOG", "DD_SITE"] :=
      List.disjoint_of_nodup_append (by decide)
    rw [lastValue_eq_none_iff]
    intro hmem
    refine hdisjoint hkey ?_
    cases hflush : t.flushMetricsToLogs <;> simp_all
  rw [assignments, ← List.cons_append, lastValue_append, hother, Option.or_none]

theorem apiKey_ofConfig (c : Config) : (ofConfig c).apiKey = c.apiKey := rfl

theorem flush_ofConfig_eq_false_iff {c : Config} :
    (ofConfig c).flushMetricsToLogs = false ↔
      c.usesExtension = true ∨ c.flushMetricsToLogs = false := by
  change (c.flushMetricsToLogs && !c.usesExtension) = false ↔ _
  cases c.flushMetricsToLogs <;> cases c.usesExtension <;> decide

end Transport

/-- A function whose telemetry goes where the configuration says. -/
structure DirectsTelemetry (c : Config) (f : LambdaFunction) : Prop where
  flush : f.environment.get? "DD_FLUSH_TO_LOG" = some "false" ↔
    c.usesExtension = true ∨ c.flushMetricsToLogs = false
  site : f.environment.get? "DD_FLUSH_TO_LOG" = some "false" →
    f.environment.get? "DD_SITE" = some c.site
  plainKey : ∀ key, f.environment.get? "DD_API_KEY" = some key ↔ c.apiKey = some (.plain key)
  encryptedKey : ∀ ciphertext, f.environment.get? "DD_KMS_API_KEY" = some ciphertext ↔
    c.apiKey = some (.kmsEncrypted ciphertext)
  keySecret : ∀ arn, f.environment.get? "DD_API_KEY_SECRET_ARN" = some arn ↔
    c.apiKey = some (.secretArn arn) ∨ ∃ ref, c.apiKey = some (.secret ref) ∧ ref.secretArn = arn
  /-- What leaves the function directly carries exactly one key. -/
  existsUnique_key : f.environment.get? "DD_FLUSH_TO_LOG" = some "false" →
    ∃! key, key ∈ keyVariables ∧ f.environment.contains key = true
  key_unique : ∀ a ∈ keyVariables, ∀ b ∈ keyVariables, f.environment.contains a = true →
    f.environment.contains b = true → a = b
  /-- Functions of the Node family cannot read a key from a secret. -/
  node : RuntimeFamily.ofRuntime f.runtime = .node → c.usesExtension = false →
    ¬(f.environment.get? "DD_FLUSH_TO_LOG" = some "false" ∧
      f.environment.contains "DD_API_KEY_SECRET_ARN" = true)

namespace Instrumenter

variable {i : Instrumenter} {f : LambdaFunction}

/-- Nothing else that is written directs the telemetry. -/
theorem lastValue_writes (i : Instrumenter) (f : LambdaFunction) {key : String}
    (hkey : key ∈ transportKeys) :
    lastValue key (i.writes f) = lastValue key i.transport.assignments := by
  have hconfig : lastValue key (i.config.featureVariables ++ i.config.serviceVariables) = none := by
    have hdisjoint : (switchKeys ++ protectionKeys ++ serviceKeys).Disjoint transportKeys :=
      List.disjoint_of_nodup_append (by decide +kernel)
    rw [lastValue_eq_none_iff]
    exact fun hmem => hdisjoint ((keys_configVariables i.config).subset hmem) hkey
  have hredirection : lastValue key (i.redirection f).2 = none := by
    apply lastValue_eq_none
    rintro e he rfl
    rcases mem_redirection he with rfl | rfl
    · exact absurd hkey (by decide)
    · exact absurd hkey (by decide : "DD_LAMBDA_HANDLER" ∉ transportKeys)
  rw [writes, assignments, lastValue_append, lastValue_append, hconfig, hredirection,
    Option.or_none, Option.or_none]

theorem get?_instrument (hskips : i.config.skips f = false) {key : String}
    (hkey : key ∈ transportKeys) :
    (i.instrument f).value.environment.get? key =
      (lastValue key i.transport.assignments).or (f.environment.get? key) := by
  have hne : key ≠ tagsVariable := by
    rintro rfl
    exact absurd hkey (by decide)
  rw [get?_instrument_of_ne hskips hne, lastValue_writes _ _ hkey]

theorem get?_flush_instrument (hskips : i.config.skips f = false) :
    (i.instrument f).value.environment.get? "DD_FLUSH_TO_LOG" = some "false" ↔
      i.transport.flushMetricsToLogs = false := by
  rw [get?_instrument hskips (by decide), Transport.lastValue_flush, Option.some_or,
    Option.some_inj, switchText_eq_false_iff]

/-- A function that brings no key has the one of the transport, in the variable for its kind. -/
theorem get?_key_instrument (hskips : i.config.skips f = false)
    (hfree : ∀ key ∈ keyVariables, f.environment.contains key = false) {key : String}
    (hkey : key ∈ keyVariables) :
    (i.instrument f).value.environment.get? key =
      lastValue key (i.transport.apiKey.map Transport.keyVariable).toList := by
  have hnone : f.environment.get? key = none := by simpa [Dict.contains] using hfree key hkey
  rw [get?_instrument hskips (keyVariables_subset hkey), Transport.lastValue_key _ hkey, hnone,
    Option.or_none]

theorem contains_key_instrument (hskips : i.config.skips f = false)
    (hfree : ∀ key ∈ keyVariables, f.environment.contains key = false) {key : String}
    (hkey : key ∈ keyVariables) :
    (i.instrument f).value.environment.contains key = true ↔
      ∃ source, i.transport.apiKey = some source ∧ (Transport.keyVariable source).1 = key := by
  rw [Dict.contains, get?_key_instrument hskips hfree hkey]
  cases i.transport.apiKey <;> simp [lastValue]

theorem eq_of_contains_key_instrument (hskips : i.config.skips f = false)
    (hfree : ∀ key ∈ keyVariables, f.environment.contains key = false) {a b : String}
    (ha : a ∈ keyVariables) (hb : b ∈ keyVariables)
    (hpresentA : (i.instrument f).value.environment.contains a = true)
    (hpresentB : (i.instrument f).value.environment.contains b = true) : a = b := by
  obtain ⟨source, hsource, rfl⟩ := (contains_key_instrument hskips hfree ha).mp hpresentA
  obtain ⟨source', hsource', rfl⟩ := (contains_key_instrument hskips hfree hb).mp hpresentB
  cases hsource.symm.trans hsource'
  rfl

theorem directsTelemetry_instrument {options : ValidationOptions}
    (haccepted : i.config.IsAccepted options) (htransport : i.transport = .ofConfig i.config)
    (hcheck : i.transport.check f = .ok ()) (hskips : i.config.skips f = false)
    (hfree : ∀ key ∈ keyVariables, f.environment.contains key = false) :
    DirectsTelemetry i.config (i.instrument f).value := by
  have hflush := get?_flush_instrument hskips
  have hkey {key : String} (hmem : key ∈ keyVariables) := get?_key_instrument hskips hfree hmem
  have hcontains {key : String} (hmem : key ∈ keyVariables) :=
    contains_key_instrument hskips hfree hmem
  have hunique {a b : String} (ha : a ∈ keyVariables) (hb : b ∈ keyVariables) :=
    eq_of_contains_key_instrument hskips hfree ha hb
  rw [htransport] at hflush hkey hcontains hcheck
  constructor
  case flush => exact hflush.trans Transport.flush_ofConfig_eq_false_iff
  case site =>
    intro hfalse
    rw [get?_instrument hskips (by decide), htransport, Transport.lastValue_site (hflush.mp hfalse)]
    rfl
  case plainKey | encryptedKey | keySecret =>
    intro value
    rw [hkey (by decide), Transport.apiKey_ofConfig]
    rcases i.config.apiKey with _ | _ | _ | _ | _ <;> simp [lastValue, Transport.keyVariable]
  case existsUnique_key =>
    intro hfalse
    have hdirect := Transport.flush_ofConfig_eq_false_iff.mp (hflush.mp hfalse)
    obtain ⟨source, hsource⟩ : ∃ source, i.config.apiKey = some source := by
      cases hnone : i.config.apiKey with
      | some source => exact ⟨source, rfl⟩
      | none =>
        obtain ⟨hextension, hlogs⟩ := haccepted.keyless hnone
        simp [hextension, hlogs] at hdirect
    have hmem := Transport.keyVariable_mem source
    have hpresent := (hcontains hmem).mpr ⟨source, hsource, rfl⟩
    refine ⟨(Transport.keyVariable source).1, ⟨hmem, hpresent⟩, ?_⟩
    rintro key ⟨hmem', hpresent'⟩
    exact hunique hmem' hmem hpresent' hpresent
  case key_unique =>
    intro a ha b hb hpresentA hpresentB
    exact hunique ha hb hpresentA hpresentB
  case node =>
    rintro hnode hextension ⟨hfalse, hpresent⟩
    rw [(i.sameIdentity_instrument f).runtime] at hnode
    obtain ⟨source, hsource, hsecret⟩ := (hcontains (by decide)).mp hpresent
    have hreads := Transport.secretArn?_isSome_of_keyVariable hsource hsecret
    exact Transport.check_eq_ok_iff.mp hcheck ⟨hnode, hreads, hflush.mp hfalse, hextension⟩

theorem of_ofSettings_eq_ok {settings defaults : Settings} {options : ValidationOptions}
    (h : ofSettings settings defaults options = .ok i) :
    i.config.IsAccepted options ∧ i.transport = .ofConfig i.config := by
  obtain ⟨resolved, hresolved, h⟩ := bind_eq_ok_iff.mp h
  cases h
  exact ⟨Settings.isAccepted_of_finalize hresolved, rfl⟩

/-- Whatever an instrumenter was asked before, a function that an addition accepts and does not
skip, and that brings no key of its own, directs its telemetry as the settings say, and is what is
owned under its name unless the addition gives that name to a later function. -/
theorem directsTelemetry_of_add {settings defaults : Settings} {options : ValidationOptions}
    (h : ofSettings settings defaults options = .ok i) (requests : List Request)
    {functions : List LambdaFunction} {i' : Instrumenter} {found : List Diagnostic}
    (hadd : (i.run requests).add functions = .ok found i') (hf : f ∈ functions)
    (hwired : ∀ d ∈ ((i.run requests).instrument f).diagnostics, d.isMissingLayer = false)
    (hfree : ∀ key ∈ keyVariables, f.environment.contains key = false) :
    DirectsTelemetry i.config ((i.run requests).instrument f).value ∧
      (lastNamed f.name functions = some f →
        i'.function? f.name = some ((i.run requests).instrument f).value) := by
  obtain ⟨haccepted, htransport⟩ := of_ofSettings_eq_ok h
  have hconfig : (i.run requests).config = i.config := (tracks_run h requests).config
  rw [← hconfig] at haccepted ⊢
  have hskips : (i.run requests).config.skips f = false := by
    rw [← Bool.not_eq_true, ← exists_isMissingLayer_iff]
    rintro ⟨d, hd, hmissing⟩
    rw [hwired d hd] at hmissing
    cases hmissing
  constructor
  · refine directsTelemetry_instrument haccepted ?_ ((add_eq_ok_iff.mp hadd).1 f hf) hskips hfree
    rw [run_transport, htransport, hconfig]
  · intro hlast
    rw [function?_of_add hadd, hlast]
    rfl

/-- A function that sends its telemetry itself and reads the key from a secret. -/
theorem directsTelemetry_of_add_of_secret :
    ∃ i, ofSettings
        { flushMetricsToLogs := some false
          apiKeys := { secretArn := some "arn:aws:secretsmanager:key" }
          layers := { python := { version := some 100 } } }
        { site := some "datadoghq.eu" } {} = .ok i ∧
      ∃ i' found, (i.run [.setGit { commitSha := some "1111" }]).add
          [.ofAccount "fn" "123456789012" "us-east-1" "python3.12" "app.run"] = .ok found i' ∧
        ∃ g, i'.function? "fn" = some g ∧ DirectsTelemetry i.config g := by
  refine ⟨_, (fun hnew => ⟨hnew, ?_⟩) rfl⟩
  refine ⟨_, _, (fun hadd => ⟨hadd, ?_⟩) rfl⟩
  obtain ⟨hdirects, howned⟩ := directsTelemetry_of_add hnew _ hadd (List.mem_singleton_self _)
    (by decide) (by decide)
  exact ⟨_, howned rfl, hdirects⟩

end Instrumenter
end TelemetryWiring.Lambda
