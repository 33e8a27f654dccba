import TelemetryWiring.Lambda.Transport
import TelemetryWiring.Proofs.Lambda.Resolution
import TelemetryWiring.Proofs.Validation

/-!
Which settings of the Lambda instrumentation resolve, and to what. The conditions are put on what
the layers come to, where the library's defaults have closed every setting that has one, so none of
the values that a configuration falls back to is ever needed.
-/
namespace TelemetryWiring.Lambda

/-- Application names have 1 to 193 characters: letters and digits of ASCII and five others. -/
def IsApplicationName (name : String) : Prop :=
  1 ≤ name.length ∧ name.length ≤ 193 ∧
    ∀ c ∈ name.toList, c.isAlphanum = true ∨ c ∈ ['_', '-', ':', '.', '/']

namespace Settings

/-- What settings come to over a caller's defaults and the library's. -/
def layered (s defaults : Settings) : Settings := (libraryDefaults.merge defaults).merge s

/-- The sources of a key that the settings name. -/
def keySources (s : Settings) : List ApiKeySource :=
  s.apiKeys.sources ++ (s.encryptedApiKey.map .kmsEncrypted).toList

/-- The extension is chosen, by a version or by an ARN. -/
def ChoosesExtension (s : Settings) : Prop :=
  s.layers.extension.version.isSome = true ∨ s.layers.extension.arn.isSome = true

/-- Metrics go to the logs, with no extension to send them. -/
def LogsMetrics (s : Settings) : Prop :=
  s.flushMetricsToLogs = some true ∧ ¬s.ChoosesExtension

/-- Protection is on, by its mode or by the older switch. -/
def Protects (s : Settings) : Prop :=
  s.protection = some true ∨ ∃ mode, s.protectionMode = some mode ∧ mode ≠ .off

/-- Merged settings that make sense together. -/
structure IsValid (s : Settings) (options : ValidationOptions) : Prop where
  site : ∃ site, s.site = some site ∧ options.AdmitsSite site
  keys_le_one : s.keySources.length ≤ 1
  /-- What does not leave through the logs needs a key. -/
  one_key : s.ChoosesExtension ∨ ¬s.LogsMetrics → s.keySources.length = 1
  protection_once : ¬(s.protection.isSome = true ∧ s.protectionMode.isSome = true)
  protection : s.Protects → s.tracing = some true ∧ s.ChoosesExtension
  application_named : s.llmObs = some true →
    ∃ name, s.tracer.llmObsMlApp = some name ∧ name ≠ ""
  /-- An empty name counts as none. -/
  application_name : ∀ name, s.tracer.llmObsMlApp = some name → name ≠ "" → IsApplicationName name
  forwarder : ∀ arn, s.forwarderArn = some arn → IsForwarderArn arn
  permissions : s.forwarderArn = none → s.createForwarderPermissions ≠ some true

variable {s : Settings} {options : ValidationOptions} {r : Noted Config}

theorem setSources_keyCandidates (s : Settings) : setSources s.keyCandidates = s.keySources := by
  simp [keyCandidates, keySources, ApiKeySettings.sources, setSources_cons, setSources_nil]

theorem usesExtension_iff : s.usesExtension = true ↔ s.ChoosesExtension := by
  rw [usesExtension, LayerPin.isSet, Bool.or_eq_true, ChoosesExtension]

/-- The library's default for metrics is never what is fallen back to. -/
theorem flushes_iff (h : Covers Leaf s libraryDefaults) : s.flushes = true ↔ s.LogsMetrics := by
  obtain ⟨flush, hflush⟩ := h.exists_read .flushMetricsToLogs rfl
  rw [flushes, LogsMetrics, ← usesExtension_iff, hflush]
  simp

theorem keyDemand_ne_none_iff (h : Covers Leaf s libraryDefaults) :
    s.keyDemand ≠ none ↔ s.ChoosesExtension ∨ ¬s.LogsMetrics := by
  rw [← flushes_iff h, ← usesExtension_iff, ne_eq, keyDemand_eq_none_iff]
  cases s.usesExtension <;> simp

theorem checkProtection_eq_ok_iff {mode : ProtectionMode} :
    s.checkProtection mode = .ok () ↔
      (mode ≠ .off → s.tracing.getD true = true ∧ s.usesExtension = true) := by
  unfold checkProtection
  by_cases hoff : mode = .off
  · simp [hoff]
  · cases s.tracing.getD true <;> cases s.usesExtension <;> simp [hoff]

/-- Of the two settings of the protection one is read, and what it turns on is checked. -/
theorem exists_protection_iff (h : Covers Leaf s libraryDefaults) :
    (∃ mode, s.resolveProtection = .ok mode ∧ s.checkProtection mode.value = .ok ()) ↔
      ¬(s.protection.isSome = true ∧ s.protectionMode.isSome = true) ∧
        (s.Protects → s.tracing = some true ∧ s.ChoosesExtension) := by
  obtain ⟨tracing, htracing⟩ := h.exists_read .tracing rfl
  rw [htracing, Option.some_inj, ← usesExtension_iff]
  unfold resolveProtection Protects
  simp only [checkProtection_eq_ok_iff, htracing, Option.getD_some]
  rcases s.protection with _ | _ | _ <;> rcases s.protectionMode with _ | mode <;> simp

theorem isMlAppName_iff {name : String} : isMlAppName name = true ↔ IsApplicationName name := by
  have hchar (c : Char) :
      isMlAppChar c = true ↔ c.isAlphanum = true ∨ c ∈ ['_', '-', ':', '.', '/'] := by
    simp [isMlAppChar, or_assoc]
  simp only [isMlAppName, Bool.and_eq_true, List.all_eq_true, hchar, decide_eq_true_eq,
    String.length_toList]
  constructor
  · rintro ⟨⟨hchars, hpositive⟩, hbound⟩
    exact ⟨hpositive, hbound, hchars⟩
  · rintro ⟨hpositive, hbound, hchars⟩
    exact ⟨⟨hchars, hpositive⟩, hbound⟩

theorem checkMlApp_eq_ok_iff :
    s.checkMlApp = .ok () ↔
      (s.llmObs = some true → ∃ name, s.tracer.llmObsMlApp = some name ∧ name ≠ "") ∧
      ∀ name, s.tracer.llmObsMlApp = some name → name ≠ "" → IsApplicationName name := by
  unfold checkMlApp
  simp only [← isMlAppName_iff]
  cases hname : s.tracer.llmObsMlApp with
  | none => rcases s.llmObs with _ | _ | _ <;> simp
  | some name =>
    by_cases hempty : name = ""
    · rcases s.llmObs with _ | _ | _ <;> simp [hempty]
    · simp [hempty]

theorem checkForwarder_eq_ok_iff_isForwarderArn :
    s.checkForwarder = .ok () ↔
      (∀ arn, s.forwarderArn = some arn → IsForwarderArn arn) ∧
      (s.forwarderArn = none → s.createForwarderPermissions ≠ some true) := by
  simp only [checkForwarder_eq_ok_iff, checkForwarderArn_eq_ok_iff]
  rcases s.createForwarderPermissions with _ | _ | _ <;> simp

theorem covers_layered (s defaults : Settings) : Covers Leaf (s.layered defaults) libraryDefaults :=
  isLayering.covers_lowest libraryDefaults defaults s

/-- Settings that leave no default open resolve exactly if they are valid. -/
theorem exists_finalize_iff (h : Covers Leaf s libraryDefaults) :
    (∃ r, s.finalize options = .ok r) ↔ s.IsValid options := by
  have hsite : checkSite (s.site.getD defaultSite) options = .ok () ↔
      ∃ site, s.site = some site ∧ options.AdmitsSite site :=
    checkSite_getD_eq_ok_iff (h.exists_read .site rfl) defaultSite
  have hkeys : (∃ key, selectApiKey s.keyCandidates s.keyDemand = .ok key) ↔
      s.keySources.length ≤ 1 ∧
        (s.ChoosesExtension ∨ ¬s.LogsMetrics → s.keySources.length = 1) := by
    rw [exists_selectApiKey_eq_ok_iff, setSources_keyCandidates, keyDemand_ne_none_iff h]
  have hprotection := exists_protection_iff h
  constructor
  · rintro ⟨r, hr⟩
    obtain ⟨key, mode, hadmitted, hkey, hmode, hcheck, happ, hforwarder, -⟩ :=
      finalize_eq_ok_iff_checks.mp hr
    obtain ⟨hatMostOne, hone⟩ := hkeys.mp ⟨key, hkey⟩
    obtain ⟨honce, hprotects⟩ := hprotection.mp ⟨mode, hmode, hcheck⟩
    obtain ⟨hnamed, hname⟩ := checkMlApp_eq_ok_iff.mp happ
    obtain ⟨harn, hpermissions⟩ := checkForwarder_eq_ok_iff_isForwarderArn.mp hforwarder
    exact ⟨hsite.mp hadmitted, hatMostOne, hone, honce, hprotects, hnamed, hname, harn,
      hpermissions⟩
  · intro hvalid
    obtain ⟨key, hkey⟩ := hkeys.mpr ⟨hvalid.keys_le_one, hvalid.one_key⟩
    obtain ⟨mode, hmode, hcheck⟩ := hprotection.mpr ⟨hvalid.protection_once, hvalid.protection⟩
    have happ := checkMlApp_eq_ok_iff.mpr ⟨hvalid.application_named, hvalid.application_name⟩
    have hforwarder :=
      checkForwarder_eq_ok_iff_isForwarderArn.mpr ⟨hvalid.forwarder, hvalid.permissions⟩
    exact ⟨_, finalize_eq_ok_iff_checks.mpr
      ⟨key, mode, hsite.mpr hvalid.site, hkey, hmode, hcheck, happ, hforwarder, rfl⟩⟩

end Settings

/-- A configuration that says of site, metrics, key and extension what settings say, and so does the
transport that it describes. -/
structure Config.Follows (c : Config) (s : Settings) : Prop where
  site : s.site = some c.site
  flush : c.flushMetricsToLogs = true ↔ s.LogsMetrics
  apiKey : c.apiKey.toList = s.keySources
  transport : Transport.ofConfig c =
    { flushMetricsToLogs := c.flushMetricsToLogs
      site := c.site
      apiKey := c.apiKey
      extension := s.layers.extension }

namespace Settings

theorem follows_of_finalize {s : Settings} {options : ValidationOptions} {r : Noted Config}
    (h : Covers Leaf s libraryDefaults) (hr : s.finalize options = .ok r) : r.value.Follows s := by
  obtain ⟨key, mode, hkey, -, -, rfl⟩ := finalize_eq_ok_iff.mp hr
  obtain ⟨site, hsite⟩ := h.exists_read .site rfl
  constructor
  case site =>
    change s.site = some (s.site.getD defaultSite)
    rw [hsite, Option.getD_some]
  case flush => exact flushes_iff h
  case apiKey => exact s.setSources_keyCandidates ▸ (selectApiKey_eq_ok_iff.mp hkey).1.symm
  case transport =>
    -- the transport looks at the extension once more, which changes nothing
    have hflush : (s.flushes && !s.layers.extension.isSet) = s.flushes := by
      rw [flushes, usesExtension, Bool.and_assoc, Bool.and_self]
    change Transport.mk (s.flushes && !s.layers.extension.isSet) _ _ _ = _
    rw [hflush]
    rfl

/-- Settings over a caller's defaults resolve exactly if what they come to is valid, and what they
resolve to follows it. -/
theorem exists_resolve_iff_isValid (s defaults : Settings) (options : ValidationOptions) :
    ((∃ r, s.resolve defaults options = .ok r) ↔ (s.layered defaults).IsValid options) ∧
      ∀ r, s.resolve defaults options = .ok r → r.value.Follows (s.layered defaults) :=
  ⟨exists_finalize_iff (covers_layered s defaults),
    fun _ hr => follows_of_finalize (covers_layered s defaults) hr⟩

/-- Settings that meet every kind of condition, in two layers: a site in capitals, an extension that
protects and needs a key, a named application and a forwarder between blanks. -/
theorem exists_resolve_iff_isValid_of_two_layers :
    let s : Settings :=
      { site := some "DATADOGHQ.EU"
        protectionMode := some .extension
        llmObs := some true
        tracer := { llmObsMlApp := some "shop/assistant-1" }
        forwarderArn := some " arn:aws:lambda:eu-west-1:1:function:forwarder "
        createForwarderPermissions := some true }
    let defaults : Settings :=
      { layers := { extension := { version := some 80 } }
        apiKeys := { secretArn := some "arn:aws:secretsmanager:eu-west-1:1:secret:key" } }
    (s.layered defaults).IsValid {} ∧
      ∃ r, s.resolve defaults {} = .ok r ∧ r.value.Follows (s.layered defaults) := by
  intro s defaults
  have hresolve : ∃ r, s.resolve defaults {} = .ok r := by
    unfold s defaults
    exact ⟨_, rfl⟩
  obtain ⟨hvalid, hfollows⟩ := exists_resolve_iff_isValid s defaults {}
  exact ⟨hvalid.mp hresolve, hresolve.imp fun r hr => ⟨hr, hfollows r hr⟩⟩

end Settings
end TelemetryWiring.Lambda
