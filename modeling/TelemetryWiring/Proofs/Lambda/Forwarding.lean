import TelemetryWiring.Proofs.Lambda.Attachment

/-!
How the logs of an instrumented function leave it: through the extension, or through a subscription
of its log group to the forwarder. Whether a subscription is made depends on the configuration
alone, whether the extension is attached also on the runtime, so a function of an unsupported runtime
has neither where the extension is chosen.
-/
namespace TelemetryWiring

/-- Whether the events of a log group are shipped to a destination. -/
def LogGroup.ShipsTo (group : LogGroup) (destination : String) : Prop :=
  ∃ filter ∈ group.subscriptionFilters, filter.destinationArn = destination

theorem LogGroup.shipsTo_subscribe {group : LogGroup} (h : group.subscriptionFilters = [])
    (source forwarder : String) (permissions : Bool) :
    (group.subscribe source forwarder permissions).ShipsTo forwarder := by
  have hnew : group.hasFilter (filterName source forwarder) = false := by
    rw [hasFilter, h]
    rfl
  unfold ShipsTo
  rw [filters_subscribe_of_new hnew]
  exact ⟨_, List.mem_append_right _ (List.mem_singleton_self _), rfl⟩

namespace Lambda

/-- Whether a function has the extension that the configuration chooses. -/
def Config.HasExtension (c : Config) (f : LambdaFunction) : Prop :=
  ∃ arn, c.extensionArn? f = some arn ∧ f.HasLayer arn

/-- Whether the logs of a function leave it. -/
def Config.LogsLeave (c : Config) (forwarder : String) (f : LambdaFunction) : Prop :=
  c.HasExtension f ∨ ∃ group, f.logGroup = some group ∧ group.ShipsTo forwarder

namespace Instrumenter

variable {i i' : Instrumenter} {f : LambdaFunction}
  {functions : List LambdaFunction} {found : List Diagnostic} {forwarder : String}

/-- The log group of an instrumented function is that of the wiring. -/
theorem logGroup_instrument (hskips : i.config.skips f = false) :
    (i.instrument f).value.logGroup = f.forwardedGroup i.config := by
  rw [instrument_of_not_skips hskips]
  dsimp only
  rw [logGroup_wire, library_value_eq, LambdaFunction.grantKey_eq]
  rfl

/-- Where the extension is chosen, an instrumented function has it if its runtime is supported or if
it brought it along. -/
theorem hasExtension_instrument_iff (hskips : i.config.skips f = false)
    (hextension : i.config.usesExtension = true) :
    i.config.HasExtension (i.instrument f).value ↔
      (RuntimeFamily.ofRuntime f.runtime).isSupported = true ∨ i.config.HasExtension f := by
  obtain ⟨arn, harn⟩ := Config.exists_extensionArn hextension f
  have hiff (g : LambdaFunction) (hg : g.SameIdentity f) :
      i.config.HasExtension g ↔ g.HasLayer arn := by
    rw [Config.HasExtension, i.config.extensionArn?_congr hg, harn]
    simp
  have hchosen : i.config.IsExtensionArn f arn ↔
      (RuntimeFamily.ofRuntime f.runtime).isSupported = true :=
    and_iff_left (LayerPin.resolve?_eq_some_iff.mp harn)
  rw [hiff _ (i.sameIdentity_instrument f), hiff f (.refl f), hasLayer_instrument_iff hskips,
    hchosen]
  constructor
  · rintro ((hbrought | hlibrary) | hsupported)
    · exact .inr hbrought
    · exact .inl hlibrary.isSupported
    · exact .inl hsupported
  · rintro (hsupported | hbrought)
    · exact .inr hsupported
    · exact .inl (.inl hbrought)

/-- A function without a log group is given one that ships to the forwarder unless the extension is
chosen. -/
theorem exists_shipsTo_instrument_iff (hskips : i.config.skips f = false)
    (hforwarder : i.config.forwarderArn = some forwarder) (hnew : f.logGroup = none) :
    (∃ group, (i.instrument f).value.logGroup = some group ∧ group.ShipsTo forwarder) ↔
      i.config.usesExtension = false := by
  rw [logGroup_instrument hskips, LambdaFunction.forwardedGroup, hforwarder]
  cases hextension : i.config.usesExtension with
  | true => simp [hnew]
  | false =>
    refine iff_of_true ⟨_, rfl, LogGroup.shipsTo_subscribe ?_ ..⟩ rfl
    rw [LambdaFunction.ownLogGroup, hnew]
    rfl

/-- With a forwarder, the logs of an instrumented function leave it exactly if the extension is not
chosen, or can be attached, or is there already. -/
theorem logsLeave_instrument_iff (hskips : i.config.skips f = false)
    (hforwarder : i.config.forwarderArn = some forwarder) (hnew : f.logGroup = none) :
    i.config.LogsLeave forwarder (i.instrument f).value ↔
      (i.config.usesExtension = true →
        (RuntimeFamily.ofRuntime f.runtime).isSupported = true ∨ i.config.HasExtension f) := by
  rw [Config.LogsLeave, exists_shipsTo_instrument_iff hskips hforwarder hnew]
  cases hextension : i.config.usesExtension with
  | true => simp [hasExtension_instrument_iff hskips hextension]
  | false => simp

/-- Whatever an instrumenter with a forwarder was asked before, the logs of a function that an
addition accepts and does not skip leave it exactly if the extension is not chosen, or the runtime
is supported, or the function brought the extension along. -/
theorem logsLeave_of_add_iff {settings defaults : Settings} {options : ValidationOptions}
    (h : ofSettings settings defaults options = .ok i) (requests : List Request)
    (hadd : (i.run requests).add functions = .ok found i')
    (hwired : ∀ d ∈ ((i.run requests).instrument f).diagnostics, d.isMissingLayer = false)
    (hforwarder : i.config.forwarderArn = some forwarder) (hnew : f.logGroup = none) :
    (i.config.LogsLeave forwarder ((i.run requests).instrument f).value ↔
      (i.config.usesExtension = true →
        (RuntimeFamily.ofRuntime f.runtime).isSupported = true ∨ i.config.HasExtension f)) ∧
    (lastNamed f.name functions = some f →
      i'.function? f.name = some ((i.run requests).instrument f).value) := by
  have hconfig : (i.run requests).config = i.config := (tracks_run h requests).config
  rw [← hconfig] at hforwarder ⊢
  refine ⟨logsLeave_instrument_iff (skips_eq_false_iff.mpr hwired) hforwarder hnew, ?_⟩
  intro hlast
  rw [function?_of_add hadd, hlast]
  rfl

/-- A function of a supported runtime beside one of an unsupported runtime. -/
theorem logsLeave_of_add_iff_of_extension :
    ∃ i, ofSettings
        { apiKeys := { plain := some "1234" }
          forwarderArn := some "arn:aws:lambda:us-east-1:123456789012:function:forwarder"
          layers := { python := { version := some 100 }, extension := { version := some 65 } } }
        {} {} = .ok i ∧
      ∃ i' found, (i.run []).add
          [.ofAccount "old" "123456789012" "us-east-1" "go1.x" "main",
           .ofAccount "fn" "123456789012" "us-east-1" "python3.12" "app.run"] = .ok found i' ∧
        ∃ g, i'.function? "fn" = some g ∧ g.logGroup = none ∧
          i.config.LogsLeave "arn:aws:lambda:us-east-1:123456789012:function:forwarder" g := by
  refine ⟨_, (fun hnew => ⟨hnew, ?_⟩) rfl⟩
  refine ⟨_, _, (fun hadd => ⟨hadd, ?_⟩) rfl⟩
  obtain ⟨hleave, howned⟩ := logsLeave_of_add_iff hnew [] hadd
    (f := .ofAccount "fn" "123456789012" "us-east-1" "python3.12" "app.run") (by decide) rfl rfl
  exact ⟨_, howned rfl, rfl, hleave.mpr fun _ => .inl rfl⟩

/-- With the extension chosen, a function of an unsupported runtime is neither given it nor
subscribed to the forwarder. -/
theorem logs_of_unsupported_runtime_stay :
    ∃ i, ofSettings
        { apiKeys := { plain := some "1234" }
          forwarderArn := some "arn:aws:lambda:us-east-1:123456789012:function:forwarder"
          layers := { extension := { version := some 65 } } } {} {} = .ok i ∧
      ∃ i' found, i.add [.ofAccount "old" "123456789012" "us-east-1" "go1.x" "main"] =
          .ok found i' ∧
        (∀ d ∈ found, d.isMissingLayer = false) ∧
        ∃ g, i'.function? "old" = some g ∧
          ¬i.config.LogsLeave "arn:aws:lambda:us-east-1:123456789012:function:forwarder" g := by
  refine ⟨_, rfl, _, _, rfl, by decide, _, rfl, ?_⟩
  rintro (⟨arn, -, layer, hlayer, -⟩ | ⟨group, hgroup, -⟩)
  · cases hlayer
  · cases hgroup

end Instrumenter
end Lambda
end TelemetryWiring
