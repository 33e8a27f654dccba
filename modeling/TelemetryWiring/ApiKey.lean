import TelemetryWiring.Error

/-!
Where the API key comes from. At most one source may be set, and exactly one when something sends
telemetry itself.
-/
namespace TelemetryWiring

/-- A secret in a store, or one field of it. -/
structure SecretRef where
  secretArn : String
  field : Option String := none
  deriving DecidableEq, Repr

/-- The single place an API key comes from. -/
inductive ApiKeySource where
  /-- The key itself. -/
  | plain (key : String)
  /-- A secret injected when a container starts. -/
  | secret (ref : SecretRef)
  /-- A secret that the workload reads by its ARN. -/
  | secretArn (arn : String)
  /-- An encrypted key that the workload decrypts. -/
  | kmsEncrypted (ciphertext : String)
  deriving DecidableEq, Repr

/-- The secret that the workload must be allowed to read. -/
def ApiKeySource.secretArn? : ApiKeySource → Option String
  | .secret ref => some ref.secretArn
  | .secretArn arn => some arn
  | .plain _ | .kmsEncrypted _ => none

/-- The encrypted key, if that is the source. -/
def ApiKeySource.ciphertext? : ApiKeySource → Option String
  | .kmsEncrypted ciphertext => some ciphertext
  | .plain _ | .secret _ | .secretArn _ => none

/-- The settings that can each name a source, whatever is wired. -/
structure ApiKeySettings where
  plain : Option String := none
  secretArn : Option String := none
  secret : Option SecretRef := none
  deriving DecidableEq, Repr

namespace ApiKeySettings

def merge (a b : ApiKeySettings) : ApiKeySettings where
  plain := b.plain.or a.plain
  secretArn := b.secretArn.or a.secretArn
  secret := b.secret.or a.secret

/-- The settings that name just the given source; no setting here names an encrypted key. -/
def ofSource : Option ApiKeySource → ApiKeySettings
  | some (.plain key) => { plain := some key }
  | some (.secretArn arn) => { secretArn := some arn }
  | some (.secret ref) => { secret := some ref }
  | some (.kmsEncrypted _) | none => {}

end ApiKeySettings

/-- The one source that is set among named candidates. None at all is refused on demand only. -/
def selectApiKey (candidates : List (String × Option ApiKeySource)) (demand : Option KeyDemand) :
    Except WiringError (Option ApiKeySource) :=
  match candidates.filterMap fun (name, source) => source.map fun s => (name, s) with
  | [] =>
    match demand with
    | some demand => .error (.config (.missingApiKey demand (candidates.map (·.1))))
    | none => .ok none
  | [(_, source)] => .ok (some source)
  | several => .error (.config (.conflictingApiKeys (several.map (·.1))))

end TelemetryWiring
