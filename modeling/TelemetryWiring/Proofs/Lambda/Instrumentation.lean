import TelemetryWiring.Proofs.Lambda.Rewiring

/-!
Instrumentation of one function: grant, library layer, wiring. A function whose library layer is not
chosen gets no further than the grant, every other one is wired, and doing it again to the result
repeats the findings about its layer and nothing else.
-/
namespace TelemetryWiring

/-- Whether a finding is about a library layer that was not attached. -/
def Diagnostic.isLayerFinding : Diagnostic → Bool
  | .unsupportedRuntime .. | .missingLayerVersion .. => true
  | _ => false

theorem Diagnostic.isLayerFinding_eq_false {d : Diagnostic} (h : d.isOverwrite = true) :
    d.isLayerFinding = false := by
  cases d <;> first | rfl | cases h

/-- What is reported about a function that is skipped. -/
def LambdaFunction.missingNote (f : LambdaFunction) : Diagnostic :=
  .missingLayerVersion f.name (RuntimeFamily.ofRuntime f.runtime).title
    ((RuntimeFamily.ofRuntime f.runtime).settingStem ++ "LayerVersion")

namespace Lambda

/-- Whether instrumentation skips a function: layers are wanted and its runtime has one, but
neither a version nor an ARN is set for it. -/
def Config.skips (c : Config) (f : LambdaFunction) : Bool :=
  c.addLayers && (c.layers.library? (.ofRuntime f.runtime)).any (!·.isSet)

theorem Config.skips_congr (c : Config) {f g : LambdaFunction} (h : g.runtime = f.runtime) :
    c.skips g = c.skips f := by rw [skips, skips, h]

theorem Config.skips_iff {c : Config} {f : LambdaFunction} :
    c.skips f = true ↔ c.addLayers = true ∧
      ∃ pin, c.layers.library? (.ofRuntime f.runtime) = some pin ∧ pin.isSet = false := by
  unfold skips
  cases c.layers.library? (.ofRuntime f.runtime) <;> simp

namespace Instrumenter

/-- The function with its library layer, if one is wanted and chosen, and what there is to say
about it. -/
def library (i : Instrumenter) (f : LambdaFunction) : Noted LambdaFunction :=
  if i.config.addLayers then
    match f.attachLibrary i.config.layers i.config.layerAccount with
    | .applied layered => ⟨layered, []⟩
    | .skipped note | .missing note => ⟨f, [note]⟩
  else ⟨f, []⟩

variable {i : Instrumenter} {f g : LambdaFunction}

/-- Every function of one identity is given the same library layer and the same findings. -/
theorem library_cases (i : Instrumenter) (f : LambdaFunction) :
    ∃ notes : List Diagnostic, (∀ d ∈ notes, d.isLayerFinding = true) ∧
      ((∀ g : LambdaFunction, g.SameIdentity f → i.library g = ⟨g, notes⟩) ∨
        ∃ layer, ∀ g : LambdaFunction, g.SameIdentity f →
          i.library g = ⟨g.addLayer layer, notes⟩) := by
  by_cases hlayers : i.config.addLayers = true
  · cases f.libraryCase i.config.layers i.config.layerAccount with
    | unsupported _ outcome =>
      refine ⟨[.unsupportedRuntime f.name f.runtime], by simp [Diagnostic.isLayerFinding], ?_⟩
      exact .inl fun g hg => by rw [library, if_pos hlayers, outcome g hg]
    | unneeded _ outcome =>
      refine ⟨[], by simp, .inl fun g hg => ?_⟩
      rw [library, if_pos hlayers, outcome g hg]
    | chosen layer _ outcome =>
      refine ⟨[], by simp, .inr ⟨layer, fun g hg => ?_⟩⟩
      rw [library, if_pos hlayers, outcome g hg]
    | missing _ outcome =>
      refine ⟨[f.missingNote], by simp [Diagnostic.isLayerFinding, LambdaFunction.missingNote], ?_⟩
      exact .inl fun g hg => by
        rw [library, if_pos hlayers, outcome g hg]
        rfl
  · exact ⟨[], by simp, .inl fun g _ => by rw [library, if_neg hlayers]⟩

theorem isLayerFinding_of_mem_library {d : Diagnostic} (h : d ∈ (i.library f).diagnostics) :
    d.isLayerFinding = true := by
  obtain ⟨notes, hnotes, hcase | ⟨layer, hcase⟩⟩ := i.library_cases f
  · rw [hcase f (.refl f)] at h
    exact hnotes d h
  · rw [hcase f (.refl f)] at h
    exact hnotes d h

theorem library_value_eq (i : Instrumenter) (f : LambdaFunction) :
    (i.library f).value = { f with layers := (i.library f).value.layers } := by
  obtain ⟨notes, -, hcase | ⟨layer, hcase⟩⟩ := i.library_cases f
  · rw [hcase f (.refl f)]
  · rw [hcase f (.refl f)]
    exact f.addLayer_eq layer

/-- A function that has its library layer already is not given another. -/
theorem library_of_layered (hg : g.SameIdentity f)
    (hlayers : ∀ arn, (i.library f).value.HasLayer arn → g.HasLayer arn) :
    i.library g = ⟨g, (i.library f).diagnostics⟩ := by
  obtain ⟨notes, -, hcase | ⟨layer, hcase⟩⟩ := i.library_cases f
  · rw [hcase g hg, hcase f (.refl f)]
  · rw [hcase f (.refl f)] at hlayers
    have hlayer : g.HasLayer layer.arn :=
      hlayers _ (LambdaFunction.hasLayer_addLayer.mpr (.inr rfl))
    rw [hcase g hg, hcase f (.refl f), LambdaFunction.addLayer_of_hasLayer hlayer]

theorem sameIdentity_grantKey (f : LambdaFunction) (c : Config) : (f.grantKey c).SameIdentity f := by
  rw [LambdaFunction.grantKey_eq]
  exact ⟨rfl, rfl, rfl, rfl, rfl⟩

theorem sameIdentity_library (i : Instrumenter) (f : LambdaFunction) :
    (i.library f).value.SameIdentity f := by
  rw [library_value_eq]
  exact ⟨rfl, rfl, rfl, rfl, rfl⟩

/-- A skipped function is granted its key and left at that. -/
theorem instrument_of_skips (h : i.config.skips f = true) :
    i.instrument f = ⟨f.grantKey i.config, [f.missingNote]⟩ := by
  obtain ⟨hlayers, pin, hpin, hset⟩ := Config.skips_iff.mp h
  have hgranted := sameIdentity_grantKey f i.config
  unfold instrument
  dsimp only
  rw [if_pos hlayers]
  cases f.libraryCase i.config.layers i.config.layerAccount with
  | missing _ outcome =>
    rw [outcome _ hgranted]
    rfl
  | unsupported hfamily _ =>
    rw [hfamily] at hpin
    cases hpin
  | unneeded hnone _ =>
    rw [hnone] at hpin
    cases hpin
  | chosen layer hchosen _ =>
    obtain ⟨other, hother, hothersSet⟩ := hchosen
    rw [hother] at hpin
    cases hpin
    simp [hothersSet] at hset

/-- Every other function is wired once it has its grant and its library layer. -/
theorem instrument_of_not_skips (h : i.config.skips f = false) :
    i.instrument f =
      let layered := i.library (f.grantKey i.config)
      let wired := i.wire layered.value
      ⟨wired.value, layered.diagnostics ++ wired.diagnostics⟩ := by
  have hgranted := sameIdentity_grantKey f i.config
  unfold instrument library
  dsimp only
  by_cases hlayers : i.config.addLayers = true
  · rw [if_pos hlayers, if_pos hlayers]
    cases f.libraryCase i.config.layers i.config.layerAccount with
    | missing hpin _ =>
      obtain ⟨pin, hpin, hset⟩ := hpin
      simp [Config.skips, hlayers, hpin, hset] at h
    | unsupported _ outcome =>
      rw [outcome _ hgranted]
      rfl
    | unneeded _ outcome =>
      rw [outcome _ hgranted]
      rfl
    | chosen layer _ outcome =>
      rw [outcome _ hgranted]
      rfl
  · rw [if_neg hlayers, if_neg hlayers]
    rfl

theorem isOverwrite_of_mem_wire {d : Diagnostic} (h : d ∈ (i.wire f).diagnostics) :
    d.isOverwrite = true := by
  rcases List.mem_append.mp h with h | h
  · split at h
    · exact LambdaFunction.isOverwrite_of_mem_assign h
    · cases h
  · exact LambdaFunction.isOverwrite_of_mem_assign h

theorem sameIdentity_instrument (i : Instrumenter) (f : LambdaFunction) :
    (i.instrument f).value.SameIdentity f := by
  by_cases h : i.config.skips f = true
  · rw [instrument_of_skips h]
    exact sameIdentity_grantKey f i.config
  · rw [instrument_of_not_skips (Bool.not_eq_true _ ▸ h)]
    exact ((i.sameIdentity_wire _).trans (i.sameIdentity_library _)).trans
      (sameIdentity_grantKey f i.config)

theorem grantKey_instrument (i : Instrumenter) (f : LambdaFunction) :
    (i.instrument f).value.grantKey i.config = (i.instrument f).value := by
  by_cases h : i.config.skips f = true
  · apply LambdaFunction.grantKey_of_granted
    rw [instrument_of_skips h]
  · apply LambdaFunction.grantKey_of_granted
    rw [instrument_of_not_skips (Bool.not_eq_true _ ▸ h)]
    dsimp only
    rw [secretReadGrants_wire, library_value_eq]

theorem library_instrument (h : i.config.skips f = false) :
    i.library (i.instrument f).value =
      ⟨(i.instrument f).value, (i.library (f.grantKey i.config)).diagnostics⟩ := by
  rw [instrument_of_not_skips h]
  apply library_of_layered
  · exact (i.sameIdentity_wire _).trans (i.sameIdentity_library _)
  · intro arn harn
    exact hasLayer_wire harn

/-- The layer findings of an instrumentation are those of attaching the library layer. -/
theorem filter_diagnostics_instrument (h : i.config.skips f = false) :
    (i.instrument f).diagnostics.filter (·.isLayerFinding) =
      (i.library (f.grantKey i.config)).diagnostics := by
  have hnotes : (i.library (f.grantKey i.config)).diagnostics.filter (·.isLayerFinding) =
      (i.library (f.grantKey i.config)).diagnostics :=
    List.filter_eq_self.mpr fun d hd => isLayerFinding_of_mem_library hd
  have hquiet (g : LambdaFunction) : (i.wire g).diagnostics.filter (·.isLayerFinding) = [] := by
    apply List.filter_eq_nil_iff.mpr
    intro d hd
    simp [Diagnostic.isLayerFinding_eq_false (isOverwrite_of_mem_wire hd)]
  rw [instrument_of_not_skips h]
  dsimp only
  rw [List.filter_append, hnotes, hquiet, List.append_nil]

/-- Instrumenting what was instrumented changes nothing and repeats the findings about its layer
alone. -/
theorem instrument_instrument (hgit : i.effectiveGit.IsPlain) (f : LambdaFunction) :
    i.instrument (i.instrument f).value =
      ⟨(i.instrument f).value, (i.instrument f).diagnostics.filter (·.isLayerFinding)⟩ := by
  have hsame := i.sameIdentity_instrument f
  by_cases h : i.config.skips f = true
  · have hagain : i.config.skips (i.instrument f).value = true :=
      (i.config.skips_congr hsame.runtime).trans h
    have hnote : (i.instrument f).value.missingNote = f.missingNote := by
      rw [LambdaFunction.missingNote, hsame.name, hsame.runtime, LambdaFunction.missingNote]
    rw [instrument_of_skips hagain, grantKey_instrument, hnote, instrument_of_skips h]
    rfl
  · have hskips : i.config.skips f = false := Bool.not_eq_true _ ▸ h
    have hagain : i.config.skips (i.instrument f).value = false :=
      (i.config.skips_congr hsame.runtime).trans hskips
    have hwire : i.wire (i.instrument f).value = ⟨(i.instrument f).value, []⟩ := by
      rw [instrument_of_not_skips hskips]
      exact (isWired_wire hgit _).wire_eq
    rw [instrument_of_not_skips hagain, grantKey_instrument, library_instrument hskips]
    dsimp only
    rw [hwire, filter_diagnostics_instrument hskips, List.append_nil]

theorem lastValue_tagsVariable_writes (i : Instrumenter) (f : LambdaFunction) :
    lastValue tagsVariable (i.writes f) = none :=
  lastValue_eq_none fun _ he => ne_tagsVariable_of_mem_writes he

/-- Nothing but the tag list writes the variable of the tag list. -/
theorem get?_tagsVariable_furnished (i : Instrumenter) (f : LambdaFunction) :
    (i.furnished f).environment.get? tagsVariable = f.environment.get? tagsVariable := by
  change (f.environment.insertMany (i.writes f)).get? tagsVariable = _
  rw [Dict.get?_insertMany, lastValue_tagsVariable_writes]
  rfl

/-- Neither the grant nor the library layer touches what the writes look at. -/
theorem writes_layered (i : Instrumenter) (f : LambdaFunction) :
    i.writes (i.library (f.grantKey i.config)).value = i.writes f := by
  rw [library_value_eq, LambdaFunction.grantKey_eq]
  rfl

/-- Beside the tag list, an instrumented function has what was written over what it had. -/
theorem get?_instrument_of_ne (hskips : i.config.skips f = false) {key : String}
    (hkey : key ≠ tagsVariable) :
    (i.instrument f).value.environment.get? key =
      (lastValue key (i.writes f)).or (f.environment.get? key) := by
  rw [instrument_of_not_skips hskips]
  dsimp only
  rw [get?_wire _ _ hkey, writes_layered, library_value_eq, LambdaFunction.grantKey_eq]

/-- A function that is not skipped receives the tag list of a furnished function with its
environment. -/
theorem exists_environment_instrument (h : i.config.skips f = false) :
    ∃ g : LambdaFunction, g.environment.get? tagsVariable = f.environment.get? tagsVariable ∧
      (i.instrument f).value = g.writeTags i.config i.writtenGit := by
  refine ⟨i.furnished (i.library (f.grantKey i.config)).value, ?_, ?_⟩
  · rw [get?_tagsVariable_furnished, library_value_eq, LambdaFunction.grantKey_eq]
  · rw [instrument_of_not_skips h]
    exact wire_value ..

theorem carriedTags_instrument (hgit : i.effectiveGit.IsPlain) (h : i.config.skips f = false) :
    (i.instrument f).value.carriedTags = f.tagsWith i.config i.writtenGit := by
  obtain ⟨g, hsame, hvalue⟩ := exists_environment_instrument h
  rw [hvalue, LambdaFunction.carriedTags_writeTags (isPlain_writtenGit hgit),
    LambdaFunction.tagsWith_congr hsame]

theorem contains_tags_instrument (h : i.config.skips f = false) :
    (i.instrument f).value.environment.contains tagsVariable =
      (f.environment.contains tagsVariable ||
        !(f.tagsWith i.config i.writtenGit).isEmpty) := by
  obtain ⟨g, hsame, hvalue⟩ := exists_environment_instrument h
  rw [hvalue, LambdaFunction.contains_writeTags, LambdaFunction.tagsWith_congr hsame, Dict.contains,
    hsame, Dict.contains]

end Instrumenter
end Lambda
end TelemetryWiring
