import TelemetryWiring.Proofs.Fargate.Container
import TelemetryWiring.Proofs.Fargate.Resolution
import TelemetryWiring.Proofs.Validation

/-!
Which settings of the wiring of Fargate tasks resolve. The library's defaults define every feature,
and no layer over them can take one away, so the complaints about what is undefined never show.
-/
namespace TelemetryWiring.Fargate
namespace Settings

/-- What settings come to over a caller's defaults and the library's. -/
def layered (s defaults : Settings) : Settings := (libraryDefaults.merge defaults).merge s

/-- What validation asks of merged settings, unless it is bypassed. -/
structure IsConsistent (s : Settings) (options : ValidationOptions) : Prop where
  site : ∃ site, s.site = some site ∧ options.AdmitsSite site
  dependency : s.agentDependency = some true →
    ∃ check, s.agentHealthCheck = some check ∧ check.command ≠ []
  logging : ∀ logs, s.logCollection = some logs → logs.enabled = some true →
    logs.loggingType.isSome = true
  workloadSecurity : ∀ security, s.workloadSecurity = some security →
    security.enabled = some true → s.agentDependency = some true

/-- Merged settings from which a task can be wired. A key and room for the containers are needed
whatever is bypassed. -/
structure IsWirable (s : Settings) (options : ValidationOptions) : Prop where
  one_key : s.apiKeys.sources.length = 1
  agentSizing : s.sizing.IsSufficient
  preparationSizing : ∀ security, s.workloadSecurity = some security → security.sizing.IsSufficient
  routerSizing : ∀ logs router, s.logCollection = some logs → logs.router = some router →
    router.sizing.IsSufficient
  consistent : options.bypassValidation = false → s.IsConsistent options

variable {s : Settings} {options : ValidationOptions} {f : Features} {key : Option ApiKeySource}

theorem exists_selectApiKey_iff :
    (∃ key, selectApiKey s.keyCandidates (some .agentContainer) = .ok key) ↔
      s.apiKeys.sources.length = 1 := by
  have hlength : (setSources s.keyCandidates).length = s.apiKeys.sources.length := by
    simp only [keyCandidates, ApiKeySettings.sources, setSources_cons, setSources_nil,
      List.length_append, List.length_nil]
    omega
  rw [exists_selectApiKey_eq_ok_iff, hlength]
  simp only [ne_eq, reduceCtorEq, not_false_eq_true, forall_const]
  omega

/-- What has every setting that the library's defaults have defines every feature. -/
theorem exists_defines (h : Covers Leaf s libraryDefaults) : ∃ f, s.Defines f := by
  obtain ⟨registry, hregistry⟩ := h.exists_read .registry rfl
  obtain ⟨version, hversion⟩ := h.exists_read .imageVersion rfl
  obtain ⟨_, hapm⟩ := h.exists_read (.apm .present) rfl
  obtain ⟨_, hdogstatsd⟩ := h.exists_read (.dogstatsd .present) rfl
  obtain ⟨_, hsecurity⟩ := h.exists_read (.workloadSecurity .present) rfl
  obtain ⟨_, hdriver⟩ :=
    h.exists_read (.logCollection (.within (.router (.within (.logDriver .present))))) rfl
  obtain ⟨apm, hapm, -⟩ := Option.map_eq_some_iff.mp hapm
  obtain ⟨dogstatsd, hdogstatsd, -⟩ := Option.map_eq_some_iff.mp hdogstatsd
  obtain ⟨security, hsecurity, -⟩ := Option.map_eq_some_iff.mp hsecurity
  obtain ⟨logs, hlogs, hdriver⟩ := Option.bind_eq_some_iff.mp hdriver
  obtain ⟨router, hrouter, hdriver⟩ := Option.bind_eq_some_iff.mp hdriver
  obtain ⟨driver, hdriver, -⟩ := Option.map_eq_some_iff.mp hdriver
  exact ⟨⟨registry, version, apm, dogstatsd, security, logs, router, driver⟩,
    hregistry, hversion, hapm, hdogstatsd, hsecurity, hlogs, hrouter, hdriver⟩

theorem covers_layered (s defaults : Settings) : Covers Leaf (s.layered defaults) libraryDefaults :=
  isLayering.covers_lowest libraryDefaults defaults s

/-- With a key and the features at hand, what is left to accept is what makes settings wirable. -/
theorem isAccepted_toConfig_iff (h : Covers Leaf s libraryDefaults)
    (hkey : selectApiKey s.keyCandidates (some .agentContainer) = .ok key) (hf : s.Defines f) :
    (s.toConfig key f).IsAccepted options ↔ s.IsWirable options := by
  have hsite : checkSite (s.site.getD defaultSite) options = .ok () ↔
      ∃ site, s.site = some site ∧ options.AdmitsSite site :=
    checkSite_getD_eq_ok_iff (h.exists_read .site rfl) defaultSite
  have hswitch (switch : Option Bool) : switch.getD false = true ↔ switch = some true := by
    cases switch <;> simp
  constructor
  · intro haccepted
    constructor
    case one_key => exact exists_selectApiKey_iff.mp ⟨key, hkey⟩
    case agentSizing => exact Sizing.check_eq_ok_iff.mp haccepted.agentSizing
    case preparationSizing =>
      intro security hsecurity
      cases hf.workloadSecurity.symm.trans hsecurity
      exact Sizing.check_eq_ok_iff.mp haccepted.preparationSizing
    case routerSizing =>
      intro logs router hlogs hrouter
      cases hf.logCollection.symm.trans hlogs
      cases hf.router.symm.trans hrouter
      exact Sizing.check_eq_ok_iff.mp haccepted.routerSizing
    case consistent =>
      intro hon
      constructor
      case site => exact hsite.mp (haccepted.site hon)
      case dependency => exact fun hset => haccepted.dependency hon ((hswitch _).mpr hset)
      case logging =>
        intro logs hlogs henabled
        cases hf.logCollection.symm.trans hlogs
        exact haccepted.logging hon ((hswitch _).mpr henabled)
      case workloadSecurity =>
        intro security hsecurity henabled
        cases hf.workloadSecurity.symm.trans hsecurity
        exact (hswitch _).mp (haccepted.workloadSecurity hon ((hswitch _).mpr henabled))
  · intro hwirable
    constructor
    case apiKey => exact (of_selectApiKey_eq_ok hkey).2
    case site => exact fun hon => hsite.mpr (hwirable.consistent hon).site
    case dependency =>
      exact fun hon hset => (hwirable.consistent hon).dependency ((hswitch _).mp hset)
    case logging =>
      intro hon henabled
      exact (hwirable.consistent hon).logging _ hf.logCollection ((hswitch _).mp henabled)
    case workloadSecurity =>
      intro hon henabled
      exact (hswitch _).mpr <|
        (hwirable.consistent hon).workloadSecurity _ hf.workloadSecurity ((hswitch _).mp henabled)
    case agentSizing => exact Sizing.check_eq_ok_iff.mpr hwirable.agentSizing
    case preparationSizing =>
      exact Sizing.check_eq_ok_iff.mpr (hwirable.preparationSizing _ hf.workloadSecurity)
    case routerSizing =>
      exact Sizing.check_eq_ok_iff.mpr (hwirable.routerSizing _ _ hf.logCollection hf.router)
    case configFile => exact FirelensSettings.toOptions_toSettings_toOptions _

/-- Settings that leave no default open resolve exactly if a task can be wired from them. -/
theorem exists_finalize_iff (h : Covers Leaf s libraryDefaults) :
    (∃ r, s.finalize options = .ok r) ↔ s.IsWirable options := by
  constructor
  · rintro ⟨r, hr⟩
    obtain ⟨key, f, hkey, hf, haccepted, -⟩ := finalize_eq_ok_iff.mp hr
    exact (isAccepted_toConfig_iff h hkey hf).mp haccepted
  · intro hwirable
    obtain ⟨key, hkey⟩ := exists_selectApiKey_iff.mpr hwirable.one_key
    obtain ⟨f, hf⟩ := exists_defines h
    have haccepted := (isAccepted_toConfig_iff h hkey hf).mpr hwirable
    exact ⟨_, finalize_eq_ok_iff.mpr ⟨key, f, hkey, hf, haccepted, rfl⟩⟩

/-- A computation that does not fail for want of a setting. -/
def NeedsNoSetting {α : Type} (x : Except WiringError α) : Prop :=
  ∀ name, x ≠ .error (.config (.undefinedSetting name))

theorem NeedsNoSetting.bind {α β : Type} {x : Except WiringError α} {f : α → Except WiringError β}
    (hx : NeedsNoSetting x) (hf : ∀ a, NeedsNoSetting (f a)) : NeedsNoSetting (x >>= f) := by
  intro name h
  cases x with
  | error e =>
    cases h
    exact hx name rfl
  | ok a => exact hf a name h

theorem NeedsNoSetting.unlessBypassed {check : Except WiringError Unit} (h : NeedsNoSetting check)
    (options : ValidationOptions) : NeedsNoSetting (unlessBypassed options check) := by
  unfold Settings.unlessBypassed
  split
  · exact nofun
  · exact h

/-- No check fails for want of a setting, and the features that are asked for are there. -/
theorem finalize_needsNoSetting (h : Covers Leaf s libraryDefaults) (options : ValidationOptions) :
    NeedsNoSetting (s.finalize options) := by
  obtain ⟨f, hf⟩ := exists_defines h
  have hkey : NeedsNoSetting (selectApiKey s.keyCandidates (some .agentContainer)) := by
    unfold selectApiKey
    split <;> exact nofun
  have hsite : NeedsNoSetting (checkSite (s.site.getD defaultSite) options) := by
    unfold checkSite
    split <;> exact nofun
  have hdependency : NeedsNoSetting s.checkDependency := by
    unfold checkDependency
    repeat' split
    all_goals exact nofun
  have hlogs (logs : LogCollectionSettings) : NeedsNoSetting logs.check := by
    unfold LogCollectionSettings.check
    split <;> exact nofun
  have hsecurity (security : WorkloadSecuritySettings) :
      NeedsNoSetting (s.checkWorkloadSecurity security) := by
    unfold checkWorkloadSecurity
    split <;> exact nofun
  have hsizing (sizing : Sizing) (container : String) :
      NeedsNoSetting (sizing.check container) := by
    unfold Sizing.check
    split <;> exact nofun
  unfold finalize
  rw [features_eq_ok_iff.mpr hf]
  refine hkey.bind fun key => (hsite.unlessBypassed options).bind fun _ => ?_
  refine (hdependency.unlessBypassed options).bind fun _ => ?_
  refine ((hlogs f.logCollection).unlessBypassed options).bind fun _ => ?_
  refine ((hsecurity f.workloadSecurity).unlessBypassed options).bind fun _ => ?_
  refine (hsizing _ agentName).bind fun _ => (hsizing _ workloadSecurityName).bind fun _ => ?_
  exact (hsizing _ logRouterName).bind fun _ => nofun

/-- Settings over a caller's defaults resolve exactly if a task can be wired from what they come to.
They never fail for want of a setting that the library's defaults define, and the key is never a
ciphertext. -/
theorem exists_resolve_iff_isWirable (s defaults : Settings) (options : ValidationOptions) :
    ((∃ r, s.resolve defaults options = .ok r) ↔ (s.layered defaults).IsWirable options) ∧
      (∀ name, s.resolve defaults options ≠ .error (.config (.undefinedSetting name))) ∧
      ∀ r, s.resolve defaults options = .ok r →
        ∀ ciphertext, r.value.apiKey ≠ some (.kmsEncrypted ciphertext) := by
  have hcovers := covers_layered s defaults
  refine ⟨exists_finalize_iff hcovers, finalize_needsNoSetting hcovers options, ?_⟩
  intro r hr ciphertext hciphertext
  obtain ⟨source, hsource, hplain⟩ := (isAccepted_of_finalize hr).apiKey
  cases hciphertext.symm.trans hsource
  cases hplain

/-- Settings in two layers with every feature on, and settings that only bypassed validation lets
through: a site that nobody knows, and applications under observation that do not wait. -/
theorem exists_resolve_iff_isWirable_with_and_without_validation :
    let full : Settings :=
      { site := some "$\x7bToken[SITE]\x7d"
        sizing := { cpu := some 1, memoryMiB := some 6 }
        agentDependency := some true
        workloadSecurity := some { enabled := some true, sizing := { cpu := some 10 } }
        logCollection := some
          { enabled := some true
            loggingType := some .fluentBit
            router := some { sizing := { memoryMiB := some 64 } } } }
    let bare : Settings :=
      { site := some "nowhere", workloadSecurity := some { enabled := some true } }
    let defaults : Settings := { apiKeys := { plain := some "key" } }
    let bypassed : ValidationOptions := { bypassValidation := true }
    ((full.layered defaults).IsWirable {} ∧ ∃ r, full.resolve defaults {} = .ok r ∧
      ∀ ciphertext, r.value.apiKey ≠ some (.kmsEncrypted ciphertext)) ∧
    ((bare.layered defaults).IsWirable bypassed ∧ ∃ r, bare.resolve defaults bypassed = .ok r ∧
      ∀ ciphertext, r.value.apiKey ≠ some (.kmsEncrypted ciphertext)) := by
  intro full bare defaults bypassed
  have hfull : ∃ r, full.resolve defaults {} = .ok r := by
    unfold full defaults
    exact ⟨_, rfl⟩
  have hbare : ∃ r, bare.resolve defaults bypassed = .ok r := by
    unfold bare defaults bypassed
    exact ⟨_, rfl⟩
  obtain ⟨hwirable, -, hkey⟩ := exists_resolve_iff_isWirable full defaults {}
  obtain ⟨hwirable', -, hkey'⟩ := exists_resolve_iff_isWirable bare defaults bypassed
  exact ⟨⟨hwirable.mp hfull, hfull.imp fun r hr => ⟨hr, hkey r hr⟩⟩,
    ⟨hwirable'.mp hbare, hbare.imp fun r hr => ⟨hr, hkey' r hr⟩⟩⟩

end Settings
end TelemetryWiring.Fargate
