import TelemetryWiring.Forwarder
import TelemetryWiring.Proofs.Checks

/-!
Values that stand for something outside the program, and when they pass the checks that the
pipelines share: sites that telemetry is sent to, and forwarders that log groups are subscribed to.
Options that switch more checks off only admit more.
-/
namespace TelemetryWiring

/-- A site may be used if it is a placeholder or, up to the case of its letters, a known site, or if
sites are not looked at. -/
def ValidationOptions.AdmitsSite (options : ValidationOptions) (site : String) : Prop :=
  options.bypassSiteValidation = true ∨ isToken site = true ∨ Text.lowerCase site ∈ knownSites

theorem checkSite_eq_ok_iff {site : String} {options : ValidationOptions} :
    checkSite site options = .ok () ↔ options.AdmitsSite site := by
  have hvalid : isValidSite site = true ↔
      isToken site = true ∨ Text.lowerCase site ∈ knownSites := by
    rw [isValidSite, Bool.or_eq_true, List.contains_iff_mem]
  unfold checkSite ValidationOptions.AdmitsSite
  rw [← hvalid, ← Bool.or_eq_true]
  split <;> simp_all

/-- Options in which every switch is on that is on in others. -/
structure ValidationOptions.IsRelaxedBy (options laxer : ValidationOptions) : Prop where
  site : options.bypassSiteValidation = true → laxer.bypassSiteValidation = true
  validation : options.bypassValidation = true → laxer.bypassValidation = true

theorem ValidationOptions.IsRelaxedBy.validates {options laxer : ValidationOptions}
    (h : options.IsRelaxedBy laxer) (hlaxer : laxer.bypassValidation = false) :
    options.bypassValidation = false := by
  rw [← Bool.not_eq_true] at hlaxer ⊢
  exact mt h.validation hlaxer

theorem relaxes_checkSite {options laxer : ValidationOptions} (h : options.IsRelaxedBy laxer)
    (site : String) : Relaxes (checkSite site laxer) (checkSite site options) := by
  intro _ hsite
  have hadmitted : options.AdmitsSite site := checkSite_eq_ok_iff.mp hsite
  exact checkSite_eq_ok_iff.mpr (hadmitted.imp_left h.site)

/-- Where some site is set, none is fallen back to. -/
theorem checkSite_getD_eq_ok_iff {chosen : Option String} {options : ValidationOptions}
    (h : ∃ site, chosen = some site) (fallback : String) :
    checkSite (chosen.getD fallback) options = .ok () ↔
      ∃ site, chosen = some site ∧ options.AdmitsSite site := by
  obtain ⟨site, rfl⟩ := h
  rw [Option.getD_some, checkSite_eq_ok_iff]
  simp

/-- What is left of a forwarder's ARN without the blanks around it is an ARN or a placeholder. -/
def IsForwarderArn (arn : String) : Prop :=
  Text.trim arn ≠ "" ∧
    (Text.startsWith (Text.trim arn) "arn:" = true ∨ isToken (Text.trim arn) = true)

theorem checkForwarderArn_eq_ok_iff {arn : String} :
    checkForwarderArn arn = .ok () ↔ IsForwarderArn arn := by
  unfold checkForwarderArn IsForwarderArn
  dsimp only
  by_cases hempty : Text.trim arn = ""
  · simp [hempty]
  · rw [if_neg hempty, ← Bool.or_eq_true]
    split <;> simp_all

end TelemetryWiring
