import TelemetryWiring.Dict
import TelemetryWiring.Error
import TelemetryWiring.Text.Affix

/-!
Switches that relax validation, values that are only known at deployment, and the check of a site.
-/
namespace TelemetryWiring

/-- Switches that relax the validation of settings. -/
structure ValidationOptions where
  bypassSiteValidation : Bool := false
  bypassValidation : Bool := false
  deriving DecidableEq, Repr

/-- A switch of the process environment is on unless it is missing, empty or the word false, in
letters of either case. No character beyond A to Z has a lower-case form that is a letter of that
word. -/
def isSwitchedOn (environment : Dict String) (key : String) : Bool :=
  match environment.get? key with
  | some value => value != "" && Text.lowerCase value != "false"
  | none => false

def ValidationOptions.ofEnvironment (environment : Dict String) : ValidationOptions where
  bypassSiteValidation := isSwitchedOn environment "DD_CDK_BYPASS_SITE_VALIDATION"
  bypassValidation := isSwitchedOn environment "DD_CDK_BYPASS_VALIDATION"

/-- Whether a value is a placeholder that deployment fills in. -/
def isToken (value : String) : Bool :=
  Text.startsWith value "$\x7bToken[" && Text.endsWith value "]\x7d"

def defaultSite : String := "datadoghq.com"

/-- Whether a site is a placeholder or, up to the case of its letters, a known one. -/
def isValidSite (site : String) : Bool :=
  isToken site || knownSites.contains (Text.lowerCase site)

/-- Refuses an unknown site unless the check is switched off. -/
def checkSite (site : String) (options : ValidationOptions) : Except WiringError Unit :=
  if options.bypassSiteValidation || isValidSite site then .ok ()
  else .error (.config .invalidSite)

example : isToken "$\x7bToken[TOKEN.1]\x7d" = true := by decide

end TelemetryWiring
