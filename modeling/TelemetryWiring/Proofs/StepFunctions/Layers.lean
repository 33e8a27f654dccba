import TelemetryWiring.Proofs.Layers
import TelemetryWiring.StepFunctions.Settings

/-!
The leaves of the settings of the instrumentation of state machines.
-/
namespace TelemetryWiring.StepFunctions.Settings

attribute [ext] Settings

inductive Leaf : Leaves Settings
  | identity {α : Type} {read : ServiceIdentity → Option α} :
      ServiceIdentity.Leaf α read → Leaf α (read ·.identity)
  | forwarderArn : Leaf String (·.forwarderArn)
  | tags : Leaf String (·.tags)

theorem isLayering : IsLayering Leaf merge {} where
  read_merge h a b := by
    cases h with
    | identity h => exact ServiceIdentity.isLayering.read_merge h a.identity b.identity
    | _ => rfl
  read_empty h := by
    cases h with
    | identity h => exact ServiceIdentity.isLayering.read_empty h
    | _ => rfl
  ext h :=
    Settings.ext (ServiceIdentity.isLayering.ext fun _ _ hleaf => h _ _ (.identity hleaf))
      (h _ _ .forwarderArn) (h _ _ .tags)

end TelemetryWiring.StepFunctions.Settings
