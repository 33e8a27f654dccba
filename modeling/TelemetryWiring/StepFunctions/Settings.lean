import TelemetryWiring.Forwarder
import TelemetryWiring.Diagnostic
import TelemetryWiring.Identity

/-!
Settings of the instrumentation of state machines, which are also its configuration once they are
checked: none of them has a default.
-/
namespace TelemetryWiring.StepFunctions

structure Settings where
  identity : ServiceIdentity := {}
  forwarderArn : Option String := none
  /-- Pairs `key:value` separated by commas. -/
  tags : Option String := none
  deriving DecidableEq, Repr

/-- Settings that passed the checks. -/
structure Config where
  identity : ServiceIdentity := {}
  forwarderArn : Option String := none
  tags : Option String := none
  deriving DecidableEq, Repr

namespace Settings

/-- The settings of the second layer over those of the first. -/
def merge (a b : Settings) : Settings where
  identity := a.identity.merge b.identity
  forwarderArn := b.forwarderArn.or a.forwarderArn
  tags := b.tags.or a.tags

def libraryDefaults : Settings := {}

/-- Checks merged settings. No switch relaxes these checks. -/
def finalize (s : Settings) (_ : ValidationOptions) : Except WiringError (Noted Config) := do
  s.identity.check
  match s.forwarderArn with
  | some arn => checkForwarderArn arn
  | none => .ok ()
  return ⟨{ identity := s.identity, forwarderArn := s.forwarderArn, tags := s.tags }, []⟩

/-- The configuration of settings over a caller's defaults. -/
def resolve (s defaults : Settings) (options : ValidationOptions) :
    Except WiringError (Noted Config) :=
  ((libraryDefaults.merge defaults).merge s).finalize options

/-- Settings that spell out a configuration. -/
def ofConfig (c : Config) : Settings where
  identity := c.identity
  forwarderArn := c.forwarderArn
  tags := c.tags

end Settings
end TelemetryWiring.StepFunctions
