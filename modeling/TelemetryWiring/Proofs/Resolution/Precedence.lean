import TelemetryWiring.Fargate.Config
import TelemetryWiring.Lambda.Config
import TelemetryWiring.Proofs.Fargate.Layers
import TelemetryWiring.Proofs.Lambda.Layers
import TelemetryWiring.Proofs.StepFunctions.Layers

/-!
What a caller's settings and defaults come to is one record: the library's defaults, the caller's
defaults and the settings form a chain of layers, and chains can be bracketed at will.
-/
namespace TelemetryWiring

/-- Settings of every kind follow the laws of layers, and resolving them over defaults is resolving
the two layers merged, be it refused or not. -/
theorem layerLaws_and_resolve_merge (options : ValidationOptions) :
    (LayerLaws Lambda.Settings.Leaf Lambda.Settings.merge {} ∧
      ∀ s defaults : Lambda.Settings,
        s.resolve defaults options = (defaults.merge s).resolve {} options) ∧
    (LayerLaws Fargate.Settings.Leaf Fargate.Settings.merge {} ∧
      ∀ s defaults : Fargate.Settings,
        s.resolve defaults options = (defaults.merge s).resolve {} options) ∧
    (LayerLaws StepFunctions.Settings.Leaf StepFunctions.Settings.merge {} ∧
      ∀ s defaults : StepFunctions.Settings,
        s.resolve defaults options = (defaults.merge s).resolve {} options) := by
  refine ⟨⟨Lambda.Settings.isLayering.laws, fun s defaults => ?_⟩,
    ⟨Fargate.Settings.isLayering.laws, fun s defaults => ?_⟩,
    ⟨StepFunctions.Settings.isLayering.laws, fun s defaults => ?_⟩⟩
  · have hlaws := Lambda.Settings.isLayering
    rw [Lambda.Settings.resolve, hlaws.merge_assoc, Lambda.Settings.resolve, hlaws.merge_empty]
  · have hlaws := Fargate.Settings.isLayering
    rw [Fargate.Settings.resolve, hlaws.merge_assoc, Fargate.Settings.resolve, hlaws.merge_empty]
  · have hlaws := StepFunctions.Settings.isLayering
    rw [StepFunctions.Settings.resolve, hlaws.merge_assoc, StepFunctions.Settings.resolve,
      hlaws.merge_empty]

end TelemetryWiring
