import TelemetryWiring.Proofs.Lambda.Skipped

/-!
Which layers an instrumented function has: those that it brought, then the library of its runtime,
then the extension, either of the two only if it is chosen and no layer of its ARN is there yet. A
function is skipped exactly if there is a library for it that is wanted and not chosen.
-/
namespace TelemetryWiring

/-- Whether a pin chooses the layer of an ARN: the ARN is its own, or it has none and the ARN is
built from its version. -/
def LayerPin.Chooses (pin : LayerPin) (build : UInt32 → Option String) (arn : String) : Prop :=
  pin.arn = some arn ∨
    pin.arn = none ∧ ∃ version, pin.version = some version ∧ build version = some arn

theorem LayerPin.resolve?_eq_some_iff {pin : LayerPin} {build : UInt32 → Option String}
    {arn : String} : pin.resolve? build = some arn ↔ pin.Chooses build arn := by
  rw [resolve?, Chooses, Option.or_eq_some_iff, Option.bind_eq_some_iff]

theorem LayerPin.isSet_eq_false_iff {pin : LayerPin} :
    pin.isSet = false ↔ pin.arn = none ∧ pin.version = none := by
  rw [isSet, Bool.or_eq_false_iff, Option.isSome_eq_false_iff, Option.isSome_eq_false_iff,
    Option.isNone_iff_eq_none, Option.isNone_iff_eq_none, and_comm]

namespace LambdaFunction

/-- Attaching a layer, if there is one, appends it or nothing. -/
theorem exists_layers_addLayer (f : LambdaFunction) (layer : Option LayerReference) :
    ∃ new : Option LayerReference, (layer.elim f f.addLayer).layers = f.layers ++ new.toList ∧
      ∀ l ∈ new, l ∈ layer ∧ ¬f.HasLayer l.arn := by
  cases layer with
  | none => exact ⟨none, by simp, by simp⟩
  | some layer =>
    by_cases h : f.HasLayer layer.arn
    · refine ⟨none, ?_, by simp⟩
      rw [Option.elim_some, addLayer_of_hasLayer h]
      exact (List.append_nil _).symm
    · refine ⟨some layer, ?_, by simpa using h⟩
      rw [Option.elim_some, addLayer_of_not_hasLayer h]
      rfl

theorem layers_addLayer_congr {f g : LambdaFunction} (layer : Option LayerReference)
    (h : g.layers = f.layers) :
    (layer.elim g g.addLayer).layers = (layer.elim f f.addLayer).layers := by
  cases layer with
  | none => exact h
  | some layer =>
    rw [Option.elim_some, Option.elim_some, addLayer, addLayer, h]
    split
    · exact h
    · rfl

theorem hasLayer_congr {f g : LambdaFunction} (h : g.layers = f.layers) {arn : String} :
    g.HasLayer arn ↔ f.HasLayer arn := by
  rw [HasLayer, HasLayer, h]

theorem hasLayer_elim_addLayer {f : LambdaFunction} {layer : Option LayerReference}
    {arn : String} :
    (layer.elim f f.addLayer).HasLayer arn ↔ f.HasLayer arn ∨ ∃ l ∈ layer, l.arn = arn := by
  cases layer with
  | none => simp
  | some layer => simp [hasLayer_addLayer]

end LambdaFunction

/-- A new ARN behind different ones leaves them different. -/
theorem nodup_arns_append {layers : List LayerReference} (h : (layers.map (·.arn)).Nodup)
    {new : Option LayerReference} (hnew : ∀ l ∈ new, ∀ other ∈ layers, other.arn ≠ l.arn) :
    ((layers ++ new.toList).map (·.arn)).Nodup := by
  cases new with
  | none => simpa using h
  | some l =>
    have hfresh : ∀ other ∈ layers, other.arn ≠ l.arn := hnew l rfl
    simpa [List.nodup_append, h] using hfresh

namespace Lambda

/-- The ARN of the extension layer for a function, whatever its runtime. -/
def Config.extensionArn? (c : Config) (f : LambdaFunction) : Option String :=
  c.layers.extension.resolve? fun version =>
    some (extensionLayerArn f.region version f.isArm c.layerAccount)

/-- The ARNs that a configuration has for the library layer of a function. -/
def Config.IsLibraryArn (c : Config) (f : LambdaFunction) (arn : String) : Prop :=
  c.addLayers = true ∧ ∃ pin, c.layers.library? (.ofRuntime f.runtime) = some pin ∧
    pin.Chooses (fun version => libraryLayerArn? f.region version f.runtime f.isArm c.layerAccount)
      arn

/-- The ARNs that a configuration has for the extension layer of a function. -/
def Config.IsExtensionArn (c : Config) (f : LambdaFunction) (arn : String) : Prop :=
  (RuntimeFamily.ofRuntime f.runtime).isSupported = true ∧
    c.layers.extension.Chooses
      (fun version => some (extensionLayerArn f.region version f.isArm c.layerAccount)) arn

/-- What the layers of a function that is not skipped are like once it is instrumented. -/
structure AttachesLayers (c : Config) (f g : LambdaFunction) : Prop where
  /-- At most two layers are new, the library before the extension, and each has a new ARN. -/
  layers : ∃ library extension : Option LayerReference,
    g.layers = f.layers ++ library.toList ++ extension.toList ∧
    (∀ l ∈ library, c.IsLibraryArn f l.arn ∧ ¬f.HasLayer l.arn) ∧
    (∀ l ∈ extension, c.IsExtensionArn f l.arn ∧ ¬f.HasLayer l.arn ∧
      ∀ other ∈ library, other.arn ≠ l.arn)
  library : c.addLayers = true → (c.layers.library? (.ofRuntime f.runtime)).isSome = true →
    ∃ arn, c.IsLibraryArn f arn ∧ g.HasLayer arn
  extension : c.usesExtension = true → (RuntimeFamily.ofRuntime f.runtime).isSupported = true →
    ∃ arn, c.IsExtensionArn f arn ∧ g.HasLayer arn
  unsupported : RuntimeFamily.ofRuntime f.runtime = .unsupported → g.layers = f.layers
  custom : RuntimeFamily.ofRuntime f.runtime = .custom →
    ∀ l ∈ g.layers, l ∈ f.layers ∨ c.IsExtensionArn f l.arn
  nodup : (f.layers.map (·.arn)).Nodup → (g.layers.map (·.arn)).Nodup

variable {c : Config} {f g : LambdaFunction}

theorem Config.extensionArn?_congr (c : Config) (h : g.SameIdentity f) :
    c.extensionArn? g = c.extensionArn? f := by
  rw [extensionArn?, extensionArn?, LambdaFunction.isArm, LambdaFunction.isArm, h.region,
    h.architecture]

theorem Config.exists_extensionArn (h : c.usesExtension = true) (f : LambdaFunction) :
    ∃ arn, c.extensionArn? f = some arn :=
  LayerPin.exists_resolve? h fun _ => ⟨_, rfl⟩

theorem Config.IsLibraryArn.isSupported {arn : String} (h : c.IsLibraryArn f arn) :
    (RuntimeFamily.ofRuntime f.runtime).isSupported = true := by
  obtain ⟨-, pin, hpin, -⟩ := h
  cases hfamily : RuntimeFamily.ofRuntime f.runtime with
  | unsupported =>
    rw [hfamily] at hpin
    cases hpin
  | _ => rfl

/-- A function that is not skipped has a library layer if one is wanted and its runtime has one. -/
theorem Config.exists_isLibraryArn (hskips : c.skips f = false) (hlayers : c.addLayers = true)
    (hlibrary : (c.layers.library? (.ofRuntime f.runtime)).isSome = true) :
    ∃ arn, c.IsLibraryArn f arn := by
  obtain ⟨pin, hpin⟩ := Option.isSome_iff_exists.mp hlibrary
  have hset : pin.isSet = true := by simpa [skips, hlayers, hpin] using hskips
  obtain ⟨arn, harn⟩ := LayerPin.exists_resolve? hset
    (exists_libraryLayerArn hpin f.region f.isArm c.layerAccount)
  exact ⟨arn, hlayers, pin, hpin, LayerPin.resolve?_eq_some_iff.mp harn⟩

theorem Config.exists_isExtensionArn (h : c.usesExtension = true)
    (hsupported : (RuntimeFamily.ofRuntime f.runtime).isSupported = true) :
    ∃ arn, c.IsExtensionArn f arn := by
  obtain ⟨arn, harn⟩ := exists_extensionArn h f
  exact ⟨arn, hsupported, LayerPin.resolve?_eq_some_iff.mp harn⟩

/-- The ARN of the library layer that a configuration has for a function. -/
def Config.libraryArn? (c : Config) (f : LambdaFunction) : Option String :=
  if c.addLayers then
    (c.layers.library? (.ofRuntime f.runtime)).bind (·.resolve? fun version =>
      libraryLayerArn? f.region version f.runtime f.isArm c.layerAccount)
  else none

/-- The library layer that a configuration has for a function. -/
def Config.libraryLayer? (c : Config) (f : LambdaFunction) : Option LayerReference :=
  (c.libraryArn? f).map fun arn => ⟨libraryLayerId f.arn f.runtime, arn⟩

/-- The extension layer that a configuration has for a function. -/
def Config.extensionLayer? (c : Config) (f : LambdaFunction) : Option LayerReference :=
  if (RuntimeFamily.ofRuntime f.runtime).isSupported then
    (c.extensionArn? f).map fun arn => ⟨extensionLayerId f.arn, arn⟩
  else none

theorem Config.libraryArn?_eq_some_iff {arn : String} :
    c.libraryArn? f = some arn ↔ c.IsLibraryArn f arn := by
  unfold libraryArn? IsLibraryArn
  simp only [← LayerPin.resolve?_eq_some_iff, ← Option.bind_eq_some_iff]
  split <;> simp_all

theorem Config.exists_mem_libraryLayer?_iff {arn : String} :
    (∃ l ∈ c.libraryLayer? f, l.arn = arn) ↔ c.IsLibraryArn f arn := by
  rw [← libraryArn?_eq_some_iff, libraryLayer?]
  simp

theorem Config.exists_mem_extensionLayer?_iff {arn : String} :
    (∃ l ∈ c.extensionLayer? f, l.arn = arn) ↔ c.IsExtensionArn f arn := by
  unfold extensionLayer? IsExtensionArn extensionArn?
  rw [← LayerPin.resolve?_eq_some_iff]
  split <;> simp_all

theorem Config.libraryLayer?_congr (c : Config) (h : g.SameIdentity f) :
    c.libraryLayer? g = c.libraryLayer? f := by
  rw [libraryLayer?, libraryLayer?, libraryArn?, libraryArn?, LambdaFunction.isArm,
    LambdaFunction.isArm, h.runtime, h.region, h.arn, h.architecture]

theorem Config.extensionLayer?_congr (c : Config) (h : g.SameIdentity f) :
    c.extensionLayer? g = c.extensionLayer? f := by
  rw [extensionLayer?, extensionLayer?, c.extensionArn?_congr h, h.runtime, h.arn]

namespace Instrumenter

variable {i i' : Instrumenter}

/-- The layers of an instrumented function are those of the wiring. -/
theorem layers_instrument (hskips : i.config.skips f = false) :
    (i.instrument f).value.layers =
      (i.extended (i.library (f.grantKey i.config)).value).layers := by
  rw [instrument_of_not_skips hskips]
  exact layers_wire ..

/-- The library layer is attached if there is one for the function. -/
theorem library_value (i : Instrumenter) (f : LambdaFunction) :
    (i.library f).value = (i.config.libraryLayer? f).elim f f.addLayer := by
  unfold library Config.libraryLayer? Config.libraryArn? LambdaFunction.attachLibrary
  by_cases hlayers : i.config.addLayers = true
  · rw [if_pos hlayers, if_pos hlayers]
    by_cases hfamily : RuntimeFamily.ofRuntime f.runtime = .unsupported
    · rw [if_pos hfamily, hfamily]
      rfl
    · rw [if_neg hfamily]
      cases i.config.layers.library? (.ofRuntime f.runtime) with
      | none => rfl
      | some pin =>
        dsimp only [Option.bind_some]
        cases pin.resolve? fun version =>
          libraryLayerArn? f.region version f.runtime f.isArm i.config.layerAccount <;> rfl
  · rw [if_neg hlayers, if_neg hlayers]
    rfl

/-- The extension layer is attached if there is one for the function. -/
theorem extended_eq_elim (i : Instrumenter) (f : LambdaFunction) :
    i.extended f = (i.config.extensionLayer? f).elim f f.addLayer := by
  unfold extended Config.extensionLayer? Config.extensionArn? LambdaFunction.attachExtension
  by_cases hextension : i.config.usesExtension = true
  · rw [if_pos hextension]
    split
    · cases i.config.layers.extension.resolve? fun version =>
        some (extensionLayerArn f.region version f.isArm i.config.layerAccount) <;> rfl
    · rfl
  · have hunset : i.config.layers.extension.isSet = false := Bool.not_eq_true _ ▸ hextension
    rw [if_neg hextension, LayerPin.resolve?_eq_none hunset, Option.map_none, ite_self]
    rfl

/-- Neither the grant nor the rest of the wiring touches the layers. -/
theorem layers_instrument_eq (hskips : i.config.skips f = false) :
    (i.instrument f).value.layers =
      let layered := (i.config.libraryLayer? f).elim f f.addLayer
      ((i.config.extensionLayer? f).elim layered layered.addLayer).layers := by
  have hgranted := sameIdentity_grantKey f i.config
  have hlayered := (i.sameIdentity_library (f.grantKey i.config)).trans hgranted
  have hbrought : (f.grantKey i.config).layers = f.layers := by rw [LambdaFunction.grantKey_eq]
  rw [layers_instrument hskips, extended_eq_elim, i.config.extensionLayer?_congr hlayered,
    library_value, i.config.libraryLayer?_congr hgranted]
  exact LambdaFunction.layers_addLayer_congr _ (LambdaFunction.layers_addLayer_congr _ hbrought)

theorem hasLayer_instrument_iff (hskips : i.config.skips f = false) {arn : String} :
    (i.instrument f).value.HasLayer arn ↔
      (f.HasLayer arn ∨ i.config.IsLibraryArn f arn) ∨ i.config.IsExtensionArn f arn := by
  rw [LambdaFunction.hasLayer_congr (layers_instrument_eq hskips),
    LambdaFunction.hasLayer_elim_addLayer, LambdaFunction.hasLayer_elim_addLayer,
    Config.exists_mem_libraryLayer?_iff, Config.exists_mem_extensionLayer?_iff]

/-- The library and the extension come behind the layers that a function brought, in this order. -/
theorem exists_layers_instrument (hskips : i.config.skips f = false) :
    ∃ library extension : Option LayerReference,
      (i.instrument f).value.layers = f.layers ++ library.toList ++ extension.toList ∧
      (∀ l ∈ library, i.config.IsLibraryArn f l.arn ∧ ¬f.HasLayer l.arn) ∧
      (∀ l ∈ extension, i.config.IsExtensionArn f l.arn ∧ ¬f.HasLayer l.arn ∧
        ∀ other ∈ library, other.arn ≠ l.arn) := by
  obtain ⟨library, hlibrary, hnewLibrary⟩ :=
    f.exists_layers_addLayer (i.config.libraryLayer? f)
  obtain ⟨extension, hextension, hnewExtension⟩ :=
    ((i.config.libraryLayer? f).elim f f.addLayer).exists_layers_addLayer
      (i.config.extensionLayer? f)
  refine ⟨library, extension, ?_, ?_, ?_⟩
  · rw [layers_instrument_eq hskips]
    dsimp only
    rw [hextension, hlibrary]
  · intro l hl
    obtain ⟨hmem, hnew⟩ := hnewLibrary l hl
    exact ⟨Config.exists_mem_libraryLayer?_iff.mp ⟨l, hmem, rfl⟩, hnew⟩
  · intro l hl
    obtain ⟨hmem, hnew⟩ := hnewExtension l hl
    -- the extension is compared with the layers that were brought and with the new library alike
    rw [LambdaFunction.HasLayer, hlibrary] at hnew
    refine ⟨Config.exists_mem_extensionLayer?_iff.mp ⟨l, hmem, rfl⟩, ?_, ?_⟩
    · rintro ⟨other, hother, harn⟩
      exact hnew ⟨other, List.mem_append_left _ hother, harn⟩
    · intro other hother harn
      exact hnew ⟨other, List.mem_append_right _ (Option.mem_toList.mpr hother), harn⟩

/-- A function that is not skipped has all the layers that are chosen for it. -/
theorem attachesLayers_instrument (hskips : i.config.skips f = false) :
    AttachesLayers i.config f (i.instrument f).value := by
  obtain ⟨library, extension, hlayers, hlibrary, hextension⟩ := exists_layers_instrument hskips
  constructor
  case layers => exact ⟨library, extension, hlayers, hlibrary, hextension⟩
  case library =>
    intro hlayers hlibrary
    obtain ⟨arn, harn⟩ := Config.exists_isLibraryArn hskips hlayers hlibrary
    exact ⟨arn, harn, (hasLayer_instrument_iff hskips).mpr (.inl (.inr harn))⟩
  case extension =>
    intro hchoice hsupported
    obtain ⟨arn, harn⟩ := Config.exists_isExtensionArn hchoice hsupported
    exact ⟨arn, harn, (hasLayer_instrument_iff hskips).mpr (.inr harn)⟩
  case unsupported =>
    intro hfamily
    have hnever : ¬(RuntimeFamily.ofRuntime f.runtime).isSupported = true := by
      rw [hfamily]
      decide
    have hnoLibrary : library = none := by
      rw [Option.eq_none_iff_forall_not_mem]
      exact fun l hl => hnever (hlibrary l hl).1.isSupported
    have hnoExtension : extension = none := by
      rw [Option.eq_none_iff_forall_not_mem]
      exact fun l hl => hnever (hextension l hl).1.1
    rw [hlayers, hnoLibrary, hnoExtension]
    simp
  case custom =>
    intro hfamily l hl
    rw [hlayers, List.mem_append, List.mem_append, Option.mem_toList, Option.mem_toList] at hl
    rcases hl with (hl | hl) | hl
    · exact .inl hl
    · obtain ⟨⟨-, pin, hpin, -⟩, -⟩ := hlibrary l hl
      rw [hfamily] at hpin
      cases hpin
    · exact .inr (hextension l hl).1
  case nodup =>
    intro hbrought
    rw [hlayers]
    apply nodup_arns_append
    · exact nodup_arns_append hbrought fun l hl other hother harn =>
        (hlibrary l hl).2 ⟨other, hother, harn⟩
    · intro l hl other hother harn
      obtain ⟨-, hnew, hapart⟩ := hextension l hl
      rcases List.mem_append.mp hother with hother | hother
      · exact hnew ⟨other, hother, harn⟩
      · exact hapart other (Option.mem_toList.mp hother) harn

/-- A function is skipped exactly if layers are wanted and its runtime has a library for which the
configuration has neither an ARN nor a version. -/
theorem exists_isMissingLayer_iff_unpinned :
    (∃ d ∈ (i.instrument f).diagnostics, d.isMissingLayer = true) ↔
      i.config.addLayers = true ∧ ∃ pin,
        i.config.layers.library? (.ofRuntime f.runtime) = some pin ∧
          pin.arn = none ∧ pin.version = none := by
  rw [exists_isMissingLayer_iff, Config.skips_iff]
  simp only [LayerPin.isSet_eq_false_iff]

/-- Whatever functions an addition accepts, it skips those alone that have no pin for a library that
is wanted, and every other one comes out with the layers that are chosen for it. What comes out is
owned under the function's name unless the addition gives that name to a later function. -/
theorem attachesLayers_of_add {functions : List LambdaFunction} {found : List Diagnostic}
    (hadd : i.add functions = .ok found i') (hf : f ∈ functions) :
    (∀ d ∈ (i.instrument f).diagnostics, d ∈ found) ∧
    ((∃ d ∈ (i.instrument f).diagnostics, d.isMissingLayer = true) ↔
      i.config.addLayers = true ∧ ∃ pin,
        i.config.layers.library? (.ofRuntime f.runtime) = some pin ∧
          pin.arn = none ∧ pin.version = none) ∧
    ((∀ d ∈ (i.instrument f).diagnostics, d.isMissingLayer = false) →
      AttachesLayers i.config f (i.instrument f).value) ∧
    (lastNamed f.name functions = some f →
      i'.function? f.name = some (i.instrument f).value) := by
  refine ⟨?_, exists_isMissingLayer_iff_unpinned, ?_, ?_⟩
  · intro d hd
    rw [(add_eq_ok_iff.mp hadd).2.1]
    exact List.mem_flatMap.mpr ⟨f, hf, hd⟩
  · exact fun hwired => attachesLayers_instrument (skips_eq_false_iff.mpr hwired)
  · intro hlast
    rw [function?_of_add hadd, hlast]
    rfl

/-- A function for the other architecture in a region of its own partition, which brings the
extension along. -/
theorem attachesLayers_of_add_of_brought_extension :
    let extension := "arn:aws-us-gov:lambda:us-gov-west-1:1:layer:Datadog-Extension-ARM:65"
    let f := { LambdaFunction.ofAccount "fn" "1" "us-gov-west-1" "python3.12" "app.run" with
      architecture := .arm
      layers := [⟨"own", extension⟩] }
    ∃ i, ofSettings
        { apiKeys := { plain := some "1234" }
          layerAccount := some "1"
          layers := { python := { version := some 100 }, extension := { version := some 65 } } }
        {} {} = .ok i ∧
      ∃ i' found, i.add [f] = .ok found i' ∧
        ∃ g, i'.function? "fn" = some g ∧ AttachesLayers i.config f g ∧
          g.layers.map (·.arn) =
            [extension, "arn:aws-us-gov:lambda:us-gov-west-1:1:layer:Datadog-Python312-ARM:100"] := by
  intro extension f
  refine ⟨_, (fun hnew => ⟨hnew, ?_⟩) rfl⟩
  refine ⟨_, _, (fun hadd => ⟨hadd, ?_⟩) rfl⟩
  obtain ⟨-, -, hattaches, howned⟩ := attachesLayers_of_add hadd (List.mem_singleton_self _)
  exact ⟨_, howned rfl, hattaches (by decide), by decide⟩

end Instrumenter
end Lambda
end TelemetryWiring
