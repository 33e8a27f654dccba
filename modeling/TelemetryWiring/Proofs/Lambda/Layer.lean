import TelemetryWiring.Lambda.Layer
import TelemetryWiring.Proofs.Lambda.Function

/-!
Attaching layers. Which layer a function receives depends on its identity alone, so two functions
of one identity receive the same, whatever else was done to them in between.
-/
namespace TelemetryWiring

namespace LambdaFunction

/-- Functions that agree in everything that wiring never changes. -/
structure SameIdentity (g f : LambdaFunction) : Prop where
  name : g.name = f.name
  arn : g.arn = f.arn
  region : g.region = f.region
  runtime : g.runtime = f.runtime
  architecture : g.architecture = f.architecture

theorem SameIdentity.refl (f : LambdaFunction) : f.SameIdentity f := ⟨rfl, rfl, rfl, rfl, rfl⟩

theorem SameIdentity.trans {f g h : LambdaFunction} (hfg : f.SameIdentity g)
    (hgh : g.SameIdentity h) : f.SameIdentity h :=
  ⟨hfg.name.trans hgh.name, hfg.arn.trans hgh.arn, hfg.region.trans hgh.region,
    hfg.runtime.trans hgh.runtime, hfg.architecture.trans hgh.architecture⟩

end LambdaFunction

theorem LayerPins.exists_library? (pins : LayerPins) {family : RuntimeFamily}
    (h : family ∉ [.custom, .unsupported]) : ∃ pin, pins.library? family = some pin := by
  cases family with
  | custom => simp at h
  | unsupported => simp at h
  | _ => exact ⟨_, rfl⟩

/-- A family with a library has a name for the layer of each of its runtimes. -/
theorem exists_libraryLayerName {pins : LayerPins} {runtime : String} {pin : LayerPin}
    (h : pins.library? (.ofRuntime runtime) = some pin) :
    ∃ name, libraryLayerName? runtime = some name := by
  unfold libraryLayerName?
  cases hfamily : RuntimeFamily.ofRuntime runtime <;> rw [hfamily] at h
  case custom => cases h
  case unsupported => cases h
  all_goals exact ⟨_, rfl⟩

theorem exists_libraryLayerArn {pins : LayerPins} {runtime : String} {pin : LayerPin}
    (h : pins.library? (.ofRuntime runtime) = some pin) (region : String) (arm : Bool)
    (account : Option String) (version : UInt32) :
    ∃ arn, libraryLayerArn? region version runtime arm account = some arn := by
  obtain ⟨name, hname⟩ := exists_libraryLayerName h
  rw [libraryLayerArn?, hname]
  exact ⟨_, rfl⟩

theorem LayerPin.resolve?_eq_none {pin : LayerPin} (h : pin.isSet = false)
    (build : UInt32 → Option String) : pin.resolve? build = none := by
  rcases pin with ⟨_ | version, _ | arn⟩ <;> simp_all [LayerPin.isSet, LayerPin.resolve?]

theorem LayerPin.exists_resolve? {pin : LayerPin} (h : pin.isSet = true)
    {build : UInt32 → Option String} (hbuild : ∀ version, ∃ arn, build version = some arn) :
    ∃ arn, pin.resolve? build = some arn := by
  rcases pin with ⟨version, _ | arn⟩
  · cases version with
    | none => cases h
    | some version => exact hbuild version
  · exact ⟨arn, rfl⟩

namespace LambdaFunction

/-- What attaching a library layer does to every function of one identity. -/
inductive LibraryCase (f : LambdaFunction) (pins : LayerPins) (account : Option String) : Prop
  | unsupported (family : RuntimeFamily.ofRuntime f.runtime = .unsupported)
      (outcome : ∀ g : LambdaFunction, g.SameIdentity f →
        g.attachLibrary pins account = .skipped (.unsupportedRuntime f.name f.runtime))
  | unneeded (pin : pins.library? (.ofRuntime f.runtime) = none)
      (outcome : ∀ g : LambdaFunction, g.SameIdentity f →
        g.attachLibrary pins account = .applied g)
  | chosen (layer : LayerReference)
      (pin : ∃ pin, pins.library? (.ofRuntime f.runtime) = some pin ∧ pin.isSet = true)
      (outcome : ∀ g : LambdaFunction, g.SameIdentity f →
        g.attachLibrary pins account = .applied (g.addLayer layer))
  | missing (pin : ∃ pin, pins.library? (.ofRuntime f.runtime) = some pin ∧ pin.isSet = false)
      (outcome : ∀ g : LambdaFunction, g.SameIdentity f →
        g.attachLibrary pins account =
          .missing (.missingLayerVersion f.name (RuntimeFamily.ofRuntime f.runtime).title
            ((RuntimeFamily.ofRuntime f.runtime).settingStem ++ "LayerVersion")))

theorem libraryCase (f : LambdaFunction) (pins : LayerPins) (account : Option String) :
    f.LibraryCase pins account := by
  by_cases hfamily : RuntimeFamily.ofRuntime f.runtime = .unsupported
  · refine .unsupported hfamily fun g hg => ?_
    unfold attachLibrary
    rw [hg.runtime, hg.name, if_pos hfamily]
  cases hpin : pins.library? (.ofRuntime f.runtime) with
  | none =>
    refine .unneeded hpin fun g hg => ?_
    unfold attachLibrary
    rw [hg.runtime, if_neg hfamily, hpin]
  | some pin =>
    cases hset : pin.isSet with
    | false =>
      refine .missing ⟨pin, hpin, hset⟩ fun g hg => ?_
      unfold attachLibrary
      rw [hg.runtime, hg.name, if_neg hfamily, hpin]
      simp only [LayerPin.resolve?_eq_none hset]
    | true =>
      obtain ⟨arn, harn⟩ := LayerPin.exists_resolve? hset
        (exists_libraryLayerArn hpin f.region f.isArm account)
      refine .chosen ⟨libraryLayerId f.arn f.runtime, arn⟩ ⟨pin, hpin, hset⟩ fun g hg => ?_
      have harm : g.isArm = f.isArm := by rw [isArm, isArm, hg.architecture]
      unfold attachLibrary
      rw [hg.runtime, hg.region, hg.arn, harm, if_neg hfamily, hpin]
      simp only [harn]

/-- Every function of one identity receives the same extension layer, or none does. -/
theorem attachExtension_cases (f : LambdaFunction) (pin : LayerPin) (account : Option String) :
    (∀ g : LambdaFunction, g.SameIdentity f → g.attachExtension pin account = g) ∨
      ∃ layer, ∀ g : LambdaFunction, g.SameIdentity f →
        g.attachExtension pin account = g.addLayer layer := by
  by_cases hfamily : (RuntimeFamily.ofRuntime f.runtime).isSupported = true
  · cases harn : pin.resolve? fun version =>
        some (extensionLayerArn f.region version f.isArm account) with
    | none =>
      refine .inl fun g hg => ?_
      have harm : g.isArm = f.isArm := by rw [isArm, isArm, hg.architecture]
      unfold attachExtension
      rw [hg.runtime, hg.region, harm, if_pos hfamily, harn]
    | some arn =>
      refine .inr ⟨⟨extensionLayerId f.arn, arn⟩, fun g hg => ?_⟩
      have harm : g.isArm = f.isArm := by rw [isArm, isArm, hg.architecture]
      unfold attachExtension
      rw [hg.runtime, hg.region, hg.arn, harm, if_pos hfamily, harn]
  · refine .inl fun g hg => ?_
    unfold attachExtension
    rw [hg.runtime, if_neg hfamily]

/-- Attaching a layer changes nothing but the layers. -/
theorem attachExtension_eq (f : LambdaFunction) (pin : LayerPin) (account : Option String) :
    f.attachExtension pin account =
      { f with layers := (f.attachExtension pin account).layers } := by
  rcases f.attachExtension_cases pin account with h | ⟨layer, h⟩
  · rw [h f (.refl f)]
  · rw [h f (.refl f)]
    exact f.addLayer_eq layer

end LambdaFunction
end TelemetryWiring
