import TelemetryWiring.Lambda.Config
import TelemetryWiring.Proofs.ApiKey
import TelemetryWiring.Proofs.Checks
import TelemetryWiring.Proofs.Lambda.Layers

/-!
Configurations that resolution yields. They meet conditions of their own, whatever settings they
came from, and settings that spell out a configuration under these conditions resolve to it.
-/
namespace TelemetryWiring.Lambda

/-- What resolution guarantees of a configuration. -/
structure Config.IsAccepted (c : Config) (options : ValidationOptions) : Prop where
  site : checkSite c.site options = .ok ()
  extension_flushes : c.usesExtension = true → c.flushMetricsToLogs = false
  /-- Only what sends no telemetry itself can do without a key. -/
  keyless : c.apiKey = none → c.usesExtension = false ∧ c.flushMetricsToLogs = true
  protection : (Settings.ofConfig c).checkProtection c.protectionMode = .ok ()
  mlApp : (Settings.ofConfig c).checkMlApp = .ok ()
  forwarder : ∀ arn, c.forwarderArn = some arn → checkForwarderArn arn = .ok ()
  permissions : c.forwarderArn = none → c.createForwarderPermissions = false

namespace Settings

variable {s defaults : Settings} {options : ValidationOptions} {r : Noted Config} {c : Config}

theorem keyDemand_eq_none_iff :
    s.keyDemand = none ↔ s.usesExtension = false ∧ s.flushes = true := by
  unfold keyDemand
  cases s.usesExtension <;> cases s.flushes <;> simp

theorem checkForwarder_eq_ok_iff :
    s.checkForwarder = .ok () ↔
      (∀ arn, s.forwarderArn = some arn → checkForwarderArn arn = .ok ()) ∧
      (s.forwarderArn = none → s.createForwarderPermissions.getD false = false) := by
  unfold checkForwarder
  cases s.forwarderArn with
  | some arn => simp
  | none => rcases s.createForwarderPermissions with _ | _ | _ <;> simp

/-- Settings resolve exactly if they pass every check. -/
theorem finalize_eq_ok_iff_checks :
    s.finalize options = .ok r ↔
      ∃ key mode, checkSite (s.site.getD defaultSite) options = .ok () ∧
        selectApiKey s.keyCandidates s.keyDemand = .ok key ∧ s.resolveProtection = .ok mode ∧
        s.checkProtection mode.value = .ok () ∧ s.checkMlApp = .ok () ∧
        s.checkForwarder = .ok () ∧ r = ⟨s.toConfig key mode.value, mode.diagnostics⟩ := by
  unfold finalize
  simp only [bind_eq_ok_iff]
  constructor
  · rintro ⟨_, hsite, key, hkey, mode, hmode, _, hprotection, _, happ, _, hforwarder, h⟩
    cases h
    exact ⟨key, mode, hsite, hkey, hmode, hprotection, happ, hforwarder, rfl⟩
  · rintro ⟨key, mode, hsite, hkey, hmode, hprotection, happ, hforwarder, rfl⟩
    exact ⟨(), hsite, key, hkey, mode, hmode, (), hprotection, (), happ, (), hforwarder, rfl⟩

/-- Settings resolve exactly if they name a key as demanded and a mode, and describe a configuration
that is accepted. -/
theorem finalize_eq_ok_iff :
    s.finalize options = .ok r ↔
      ∃ key mode, selectApiKey s.keyCandidates s.keyDemand = .ok key ∧
        s.resolveProtection = .ok mode ∧ (s.toConfig key mode.value).IsAccepted options ∧
        r = ⟨s.toConfig key mode.value, mode.diagnostics⟩ := by
  rw [finalize_eq_ok_iff_checks]
  constructor
  · rintro ⟨key, mode, hsite, hkey, hmode, hprotection, happ, hforwarder, rfl⟩
    obtain ⟨harn, hpermissions⟩ := checkForwarder_eq_ok_iff.mp hforwarder
    refine ⟨key, mode, hkey, hmode, ?_, rfl⟩
    exact {
      site := hsite
      extension_flushes := fun hextension => by
        change (s.flushMetricsToLogs.getD true && !s.usesExtension) = false
        change s.usesExtension = true at hextension
        rw [hextension, Bool.not_true, Bool.and_false]
      keyless := fun hnone => keyDemand_eq_none_iff.mp ((selectApiKey_eq_ok_iff.mp hkey).2 hnone)
      protection := hprotection
      mlApp := happ
      forwarder := harn
      permissions := hpermissions }
  · rintro ⟨key, mode, hkey, hmode, h, rfl⟩
    have hforwarder : s.checkForwarder = .ok () :=
      checkForwarder_eq_ok_iff.mpr ⟨h.forwarder, h.permissions⟩
    exact ⟨key, mode, h.site, hkey, hmode, h.protection, h.mlApp, hforwarder, rfl⟩

theorem isAccepted_of_finalize (h : s.finalize options = .ok r) : r.value.IsAccepted options := by
  obtain ⟨key, mode, -, -, haccepted, rfl⟩ := finalize_eq_ok_iff.mp h
  exact haccepted

/-- Forwarder, identity and tags are those of the settings, or else of the caller's defaults. -/
theorem forwarding_of_resolve (h : s.resolve defaults options = .ok r) :
    r.value.forwarderArn = s.forwarderArn.or defaults.forwarderArn ∧
      r.value.identity = defaults.identity.merge s.identity ∧
      r.value.tags = s.tags.or defaults.tags := by
  obtain ⟨key, mode, -, -, -, -, -, -, rfl⟩ := finalize_eq_ok_iff_checks.mp h
  refine ⟨?_, ?_, ?_⟩
  · change s.forwarderArn.or (defaults.forwarderArn.or none) = _
    rw [Option.or_none]
  · change (ServiceIdentity.merge {} defaults.identity).merge s.identity = _
    rw [ServiceIdentity.isLayering.empty_merge]
  · change s.tags.or (defaults.tags.or none) = _
    rw [Option.or_none]

theorem setSources_ofConfig (c : Config) :
    setSources (ofConfig c).keyCandidates = c.apiKey.toList := by
  unfold keyCandidates ofConfig
  rcases c.apiKey with _ | _ | _ | _ | _ <;> rfl

/-- Only the extension could keep metrics out of the logs, and where it is chosen they are. -/
theorem flushes_ofConfig (h : c.IsAccepted options) :
    (ofConfig c).flushes = c.flushMetricsToLogs := by
  change (c.flushMetricsToLogs && !c.usesExtension) = c.flushMetricsToLogs
  cases hextension : c.usesExtension with
  | false => rw [Bool.not_false, Bool.and_true]
  | true => rw [h.extension_flushes hextension, Bool.false_and]

theorem finalize_ofConfig (h : c.IsAccepted options) :
    (ofConfig c).finalize options = .ok ⟨c, []⟩ := by
  have hkey : selectApiKey (ofConfig c).keyCandidates (ofConfig c).keyDemand = .ok c.apiKey := by
    refine selectApiKey_eq_ok_iff.mpr ⟨setSources_ofConfig c, fun hnone => ?_⟩
    rw [keyDemand_eq_none_iff, flushes_ofConfig h]
    exact h.keyless hnone
  have hconfig : (ofConfig c).toConfig c.apiKey c.protectionMode = c := by
    unfold toConfig
    rw [flushes_ofConfig h]
    rfl
  refine finalize_eq_ok_iff.mpr ⟨c.apiKey, ⟨c.protectionMode, []⟩, hkey, rfl, ?_, ?_⟩
  · rw [hconfig]
    exact h
  · rw [hconfig]

/-- Settings that spell out a configuration leave no default of the library to show. -/
theorem covers_libraryDefaults (c : Config) : Covers Leaf (ofConfig c) libraryDefaults := by
  intro α read hleaf hopen
  cases hleaf with
  | layers h => exact LayerPins.isLayering.read_empty h
  | apiKeys h => exact ApiKeySettings.isLayering.read_empty h
  | identity h => exact ServiceIdentity.isLayering.read_empty h
  | tracer h => exact TracerSettings.isLayering.read_empty h
  | _ => first | rfl | cases hopen

/-- A configuration that was resolved, spelled out again, resolves to itself. -/
theorem resolve_ofConfig_of_resolve (h : s.resolve defaults options = .ok r) :
    (ofConfig r.value).resolve {} options = .ok ⟨r.value, []⟩ := by
  rw [resolve, isLayering.merge_empty, isLayering.merge_of_covers (covers_libraryDefaults r.value)]
  exact finalize_ofConfig (isAccepted_of_finalize h)

end Settings
end TelemetryWiring.Lambda
