import TelemetryWiring.Error
import TelemetryWiring.Text.Blank

/-!
The three values under which telemetry from all parts of a service is found together.
-/
namespace TelemetryWiring

/-- Environment, name and version of a service, each of which may be left open. -/
structure ServiceIdentity where
  env : Option String := none
  service : Option String := none
  version : Option String := none
  deriving DecidableEq, Repr

namespace ServiceIdentity

/-- The values of the second identity, and of the first where the second leaves them open. -/
def merge (a b : ServiceIdentity) : ServiceIdentity where
  env := b.env.or a.env
  service := b.service.or a.service
  version := b.version.or a.version

/-- The values that are set, under keys of the caller's choice. -/
def under (identity : ServiceIdentity) (env service version : String) : List (String × String) :=
  [(env, identity.env), (service, identity.service), (version, identity.version)].filterMap
    fun (key, value) => value.map fun v => (key, v)

theorem keys_under (identity : ServiceIdentity) (env service version : String) :
    ((identity.under env service version).map (·.1)).Sublist [env, service, version] := by
  rcases identity with ⟨_ | _, _ | _, _ | _⟩ <;> simp [under]

/-- The keys under which the identity stands among the tags of a resource. -/
def tags (identity : ServiceIdentity) : List (String × String) :=
  identity.under "env" "service" "version"

/-- Refuses the first value that is set but blank. -/
def check (identity : ServiceIdentity) : Except WiringError Unit :=
  match identity.tags.find? fun (_, value) => Text.trim value == "" with
  | some (key, _) => .error (.emptyTag key)
  | none => .ok ()

end ServiceIdentity
end TelemetryWiring
