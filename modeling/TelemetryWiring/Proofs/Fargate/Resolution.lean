import TelemetryWiring.Fargate.Config
import TelemetryWiring.Proofs.ApiKey
import TelemetryWiring.Proofs.Checks
import TelemetryWiring.Proofs.Fargate.Layers

/-!
Configurations of the wiring of tasks that resolution yields. They meet conditions of their own,
whatever settings they came from, and settings that spell out a configuration under these conditions
resolve to it, also over defaults that the configuration came from.
-/
namespace TelemetryWiring.Fargate

/-- What resolution guarantees of a configuration. -/
structure Config.IsAccepted (c : Config) (options : ValidationOptions) : Prop where
  /-- There is a key, and no ciphertext, which nothing in a task would decrypt. -/
  apiKey : ∃ source, c.apiKey = some source ∧ source.ciphertext? = none
  site : options.bypassValidation = false → checkSite c.site options = .ok ()
  dependency : options.bypassValidation = false → c.agentDependency = true →
    ∃ check, c.agentHealthCheck = some check ∧ check.command ≠ []
  logging : options.bypassValidation = false → c.logCollection.enabled = true →
    c.logCollection.loggingType.isSome = true
  workloadSecurity : options.bypassValidation = false → c.workloadSecurity.enabled = true →
    c.agentDependency = true
  agentSizing : c.sizing.check agentName = .ok ()
  preparationSizing : c.workloadSecurity.sizing.check workloadSecurityName = .ok ()
  routerSizing : c.logCollection.router.sizing.check logRouterName = .ok ()
  /-- A router that parses JSON has the configuration file for it. -/
  configFile : c.logCollection.router.firelens.toSettings.toOptions =
    c.logCollection.router.firelens

theorem LogCollectionSettings.check_eq_ok_iff {s : LogCollectionSettings} :
    s.check = .ok () ↔ (s.enabled.getD false = true → s.loggingType.isSome = true) := by
  unfold check
  cases s.enabled.getD false <;> cases s.loggingType <;> simp

theorem FirelensSettings.toOptions_toSettings_toOptions (s : FirelensSettings) :
    s.toOptions.toSettings.toOptions = s.toOptions := by
  unfold toOptions FirelensOptions.toSettings
  cases s.parseJson.getD false <;> rfl

/-- A record that covers the one that may be missing below it. -/
theorem covers_option {S : Type} {Leaf : Leaves S} {upper : S} {lower : Option S}
    (h : ∀ record, lower = some record → Covers Leaf upper record) :
    Covers (OptionLeaf Leaf) (some upper) lower := by
  intro α read hleaf hopen
  cases hleaf with
  | present => cases hopen
  | within hleaf =>
    cases lower with
    | none => rfl
    | some record => exact h record rfl _ _ hleaf hopen

theorem LogDriverSettings.covers_toConfig (s : LogDriverSettings) :
    Covers Leaf s.toConfig.toSettings s := by
  intro α read hleaf hopen
  cases hleaf with
  | hostEndpoint => cases hopen
  | _ => exact hopen

theorem FirelensSettings.covers_toOptions (s : FirelensSettings) :
    Covers Leaf s.toOptions.toSettings s := by
  -- Where JSON is parsed, the file for it is named, whatever file the settings name.
  intro α read hleaf hopen
  cases hleaf with
  | configFileType | configFileValue =>
    cases hjson : s.parseJson.getD false with
    | true => simp [FirelensOptions.toSettings, toOptions, hjson] at hopen
    | false => simpa [FirelensOptions.toSettings, toOptions, hjson] using hopen
  | _ => cases hopen

theorem LogRouterSettings.covers_toConfig {s : LogRouterSettings} {driver : LogDriverSettings}
    (hdriver : s.logDriver = some driver) : Covers Leaf (s.toConfig driver).toSettings s := by
  intro α read hleaf hopen
  cases hleaf with
  | logDriver hleaf =>
    refine covers_option (fun record hrecord => ?_) _ _ hleaf hopen
    cases hdriver.symm.trans hrecord
    exact driver.covers_toConfig
  | firelens hleaf =>
    refine covers_option (fun record hrecord _ _ hleaf hopen => ?_) _ _ hleaf hopen
    have hoptions : s.firelens.getD {} = record := by rw [hrecord, Option.getD_some]
    rw [toConfig, hoptions] at hopen
    exact FirelensSettings.covers_toOptions record _ _ hleaf hopen
  | sizing hleaf => exact hopen
  | _ => cases hopen

namespace Settings

/-- Settings that define every feature, each with the value given. -/
structure Defines (s : Settings) (f : Features) : Prop where
  registry : s.registry = some f.registry
  imageVersion : s.imageVersion = some f.imageVersion
  apm : s.apm = some f.apm
  dogstatsd : s.dogstatsd = some f.dogstatsd
  workloadSecurity : s.workloadSecurity = some f.workloadSecurity
  logCollection : s.logCollection = some f.logCollection
  router : f.logCollection.router = some f.router
  logDriver : f.router.logDriver = some f.logDriver

variable {s defaults : Settings} {options : ValidationOptions} {r : Noted Config} {c : Config}
  {f : Features}

theorem defined_eq_ok_iff {α : Type} {name : String} {o : Option α} {a : α} :
    defined name o = .ok a ↔ o = some a := by
  cases o <;> simp [defined]

theorem features_eq_ok_iff : s.features = .ok f ↔ s.Defines f := by
  unfold features
  simp only [bind_eq_ok_iff, defined_eq_ok_iff]
  constructor
  · rintro ⟨registry, hregistry, version, hversion, apm, hapm, dogstatsd, hdogstatsd, security,
      hsecurity, logs, hlogs, router, hrouter, driver, hdriver, h⟩
    cases h
    exact ⟨hregistry, hversion, hapm, hdogstatsd, hsecurity, hlogs, hrouter, hdriver⟩
  · intro h
    exact ⟨_, h.registry, _, h.imageVersion, _, h.apm, _, h.dogstatsd, _, h.workloadSecurity, _,
      h.logCollection, _, h.router, _, h.logDriver, rfl⟩

theorem unlessBypassed_eq_ok_iff {check : Except WiringError Unit} :
    unlessBypassed options check = .ok () ↔
      (options.bypassValidation = false → check = .ok ()) := by
  unfold unlessBypassed
  cases options.bypassValidation <;> simp

theorem checkDependency_eq_ok_iff :
    s.checkDependency = .ok () ↔ (s.agentDependency.getD false = true →
      ∃ check, s.agentHealthCheck = some check ∧ check.command ≠ []) := by
  unfold checkDependency
  cases s.agentDependency.getD false <;> cases s.agentHealthCheck <;> simp

theorem checkWorkloadSecurity_eq_ok_iff {w : WorkloadSecuritySettings} :
    s.checkWorkloadSecurity w = .ok () ↔
      (w.enabled.getD false = true → s.agentDependency.getD false = true) := by
  unfold checkWorkloadSecurity
  cases w.enabled.getD false <;> cases s.agentDependency.getD false <;> simp

/-- The key is all that the key settings say, and no setting names a ciphertext. -/
theorem of_selectApiKey_eq_ok {key : Option ApiKeySource}
    (h : selectApiKey s.keyCandidates (some .agentContainer) = .ok key) :
    s.apiKeys = .ofSource key ∧ ∃ source, key = some source ∧ source.ciphertext? = none := by
  unfold keyCandidates at h
  generalize s.apiKeys = keys at h ⊢
  rcases keys with ⟨_ | plain, _ | arn, _ | ref⟩
  case some.none.none | none.some.none | none.none.some =>
    cases h
    exact ⟨rfl, _, rfl, rfl⟩
  all_goals cases h

/-- Settings resolve exactly if they define every feature, name one key and describe a configuration
that is accepted. -/
theorem finalize_eq_ok_iff :
    s.finalize options = .ok r ↔
      ∃ key f, selectApiKey s.keyCandidates (some .agentContainer) = .ok key ∧ s.Defines f ∧
        (s.toConfig key f).IsAccepted options ∧ r = ⟨s.toConfig key f, []⟩ := by
  unfold finalize
  simp only [bind_eq_ok_iff, features_eq_ok_iff]
  constructor
  · rintro ⟨key, hkey, _, hsite, f, hf, _, hdependency, _, hlogs, _, hsecurity, _, hagent, _,
      hpreparation, _, hrouting, h⟩
    cases h
    refine ⟨key, f, hkey, hf, ?_, rfl⟩
    exact {
      apiKey := (of_selectApiKey_eq_ok hkey).2
      site := unlessBypassed_eq_ok_iff.mp hsite
      dependency := fun hon =>
        checkDependency_eq_ok_iff.mp (unlessBypassed_eq_ok_iff.mp hdependency hon)
      logging := fun hon =>
        LogCollectionSettings.check_eq_ok_iff.mp (unlessBypassed_eq_ok_iff.mp hlogs hon)
      workloadSecurity := fun hon =>
        checkWorkloadSecurity_eq_ok_iff.mp (unlessBypassed_eq_ok_iff.mp hsecurity hon)
      agentSizing := hagent
      preparationSizing := hpreparation
      routerSizing := hrouting
      configFile := FirelensSettings.toOptions_toSettings_toOptions _ }
  · rintro ⟨key, f, hkey, hf, h, rfl⟩
    have hsite := unlessBypassed_eq_ok_iff.mpr h.site
    have hdependency : unlessBypassed options s.checkDependency = .ok () :=
      unlessBypassed_eq_ok_iff.mpr fun hon => checkDependency_eq_ok_iff.mpr (h.dependency hon)
    have hlogs : unlessBypassed options f.logCollection.check = .ok () :=
      unlessBypassed_eq_ok_iff.mpr fun hon =>
        LogCollectionSettings.check_eq_ok_iff.mpr (h.logging hon)
    have hsecurity : unlessBypassed options (s.checkWorkloadSecurity f.workloadSecurity) = .ok () :=
      unlessBypassed_eq_ok_iff.mpr fun hon =>
        checkWorkloadSecurity_eq_ok_iff.mpr (h.workloadSecurity hon)
    exact ⟨key, hkey, (), hsite, f, hf, (), hdependency, (), hlogs, (), hsecurity, (),
      h.agentSizing, (), h.preparationSizing, (), h.routerSizing, rfl⟩

theorem isAccepted_of_finalize (h : s.finalize options = .ok r) : r.value.IsAccepted options := by
  obtain ⟨key, f, -, -, haccepted, rfl⟩ := finalize_eq_ok_iff.mp h
  exact haccepted

theorem selectApiKey_ofConfig (h : c.IsAccepted options) :
    selectApiKey (ofConfig c).keyCandidates (some .agentContainer) = .ok c.apiKey := by
  obtain ⟨source, hkey, hplain⟩ := h.apiKey
  refine selectApiKey_eq_ok_iff.mpr ⟨?_, fun hnone => ?_⟩
  · unfold keyCandidates ofConfig
    rw [hkey]
    cases source with
    | kmsEncrypted ciphertext => cases hplain
    | _ => rfl
  · rw [hnone] at hkey
    cases hkey

theorem finalize_ofConfig (h : c.IsAccepted options) :
    (ofConfig c).finalize options = .ok ⟨c, []⟩ := by
  let f : Features :=
    { registry := c.registry
      imageVersion := c.imageVersion
      apm := (ofConfig c).apm.getD {}
      dogstatsd := (ofConfig c).dogstatsd.getD {}
      workloadSecurity := (ofConfig c).workloadSecurity.getD {}
      logCollection := (ofConfig c).logCollection.getD {}
      router := c.logCollection.router.toSettings
      logDriver := c.logCollection.router.logDriver.toSettings }
  have hconfig : (ofConfig c).toConfig c.apiKey f = c := by
    -- all that is computed on the way is the router's configuration file
    change
      { c with
        logCollection :=
          { c.logCollection with
            router :=
              { c.logCollection.router with
                firelens := c.logCollection.router.firelens.toSettings.toOptions } } } =
        c
    rw [h.configFile]
  refine finalize_eq_ok_iff.mpr ⟨c.apiKey, f, selectApiKey_ofConfig h,
    ⟨rfl, rfl, rfl, rfl, rfl, rfl, rfl, rfl⟩, ?_, ?_⟩
  · rw [hconfig]
    exact h
  · rw [hconfig]

/-- A configuration spelled out sets whatever the settings set that it came from. -/
theorem covers_of_finalize (h : s.finalize options = .ok r) : Covers Leaf (ofConfig r.value) s := by
  obtain ⟨key, f, hkey, hf, -, rfl⟩ := finalize_eq_ok_iff.mp h
  intro α read hleaf hopen
  -- a leaf is set above because it has a default, or it is the one below
  cases hleaf with
  | apiKeys hleaf =>
    have hkeys := (of_selectApiKey_eq_ok hkey).1
    exact (congrArg _ hkeys).trans hopen
  | environment hleaf =>
    refine covers_option (fun record hrecord _ _ _ hopen => ?_) _ _ hleaf hopen
    rw [toConfig, hrecord] at hopen
    exact hopen
  | apm hleaf =>
    refine covers_option (fun record _ _ _ hleaf hopen => ?_) _ _ hleaf hopen
    cases hleaf <;> cases hopen
  | dogstatsd hleaf =>
    refine covers_option (fun record _ _ _ hleaf hopen => ?_) _ _ hleaf hopen
    cases hleaf <;> cases hopen
  | workloadSecurity hleaf =>
    refine covers_option (fun record hrecord _ _ hleaf hopen => ?_) _ _ hleaf hopen
    cases hf.workloadSecurity.symm.trans hrecord
    cases hleaf with
    | enabled => cases hopen
    | sizing hleaf => exact hopen
  | logCollection hleaf =>
    refine covers_option (fun record hrecord _ _ hleaf hopen => ?_) _ _ hleaf hopen
    cases hf.logCollection.symm.trans hrecord
    cases hleaf with
    | enabled => cases hopen
    | loggingType => exact hopen
    | router hleaf =>
      refine covers_option (fun router hrouter => ?_) _ _ hleaf hopen
      cases hf.router.symm.trans hrouter
      exact LogRouterSettings.covers_toConfig hf.logDriver
  | explorer hleaf =>
    refine covers_option (fun record hrecord _ _ hleaf hopen => ?_) _ _ hleaf hopen
    cases hleaf with
    | enabled => cases hopen
    | url =>
      rw [toConfig, hrecord] at hopen
      exact hopen
  | registry | imageVersion | agentEssential | agentDependency | site => cases hopen
  | _ => exact hopen

/-- A configuration that was resolved, spelled out again, resolves to itself, over defaults of its
own or over none. -/
theorem resolve_ofConfig_of_resolve (h : s.resolve defaults options = .ok r) :
    (ofConfig r.value).resolve {} options = .ok ⟨r.value, []⟩ ∧
    (ofConfig r.value).resolve defaults options = .ok ⟨r.value, []⟩ := by
  have hlower : Covers Leaf (ofConfig r.value) (libraryDefaults.merge defaults) :=
    isLayering.covers_lower (covers_of_finalize h)
  have hlibrary : Covers Leaf (ofConfig r.value) libraryDefaults := isLayering.covers_lower hlower
  have hfinal := finalize_ofConfig (isAccepted_of_finalize h)
  constructor
  · rw [resolve, isLayering.merge_empty, isLayering.merge_of_covers hlibrary]
    exact hfinal
  · rw [resolve, isLayering.merge_of_covers hlower]
    exact hfinal

end Settings

end TelemetryWiring.Fargate
