import TelemetryWiring.Proofs.Lambda.Forwarding
import TelemetryWiring.Proofs.Lambda.Redaction
import TelemetryWiring.Proofs.Lambda.Validity
import TelemetryWiring.Proofs.StepFunctions.Instrumentation
import TelemetryWiring.Proofs.StepFunctions.Resolution
import TelemetryWiring.Proofs.Subscriptions
import TelemetryWiring.Proofs.Text.Affix

/-!
Where subscriptions ship to, from the settings to the filters. A forwarder is stored as it was
written, and the filters that are created later name it in the same way. Checked is only what is
left of it without the blanks around it, so it can be used as it was written exactly if there are
none.
-/
namespace TelemetryWiring

/-- A forwarder that can be subscribed to as it is written. -/
def IsUsableForwarder (arn : String) : Prop :=
  (Text.startsWith arn "arn:" = true ∨ isToken arn = true) ∧ ¬Text.HasBlankEnd arn

instance (arn : String) : Decidable (IsUsableForwarder arn) :=
  inferInstanceAs (Decidable ((_ ∨ _) ∧ ¬_))

/-- Of the forwarders that pass the check, those without blanks around them can be used. -/
theorem IsForwarderArn.isUsable_iff {arn : String} (h : IsForwarderArn arn) :
    IsUsableForwarder arn ↔ ¬Text.HasBlankEnd arn := by
  constructor
  · exact And.right
  · intro hblank
    have htrim : Text.trim arn = arn := Text.trim_eq_self_iff.mpr hblank
    obtain ⟨-, hform⟩ := h
    rw [htrim] at hform
    exact ⟨hform, hblank⟩

/-- Filters that are kept, with more behind them that ship to one destination. -/
def GainsOnly (destination : String) (before after : List SubscriptionFilter) : Prop :=
  ∃ gained, after = before ++ gained ∧ ∀ filter ∈ gained, filter.destinationArn = destination

theorem GainsOnly.refl (destination : String) (filters : List SubscriptionFilter) :
    GainsOnly destination filters filters := ⟨[], by simp, by simp⟩

theorem gainsOnly_subscribe (group : LogGroup) (source destination : String) (permissions : Bool) :
    GainsOnly destination group.subscriptionFilters
      (group.subscribe source destination permissions).subscriptionFilters := by
  cases hfilter : group.hasFilter (filterName source destination) with
  | true =>
    rw [LogGroup.subscribe_of_hasFilter hfilter]
    exact .refl ..
  | false =>
    rw [LogGroup.filters_subscribe_of_new hfilter]
    refine ⟨_, rfl, ?_⟩
    intro filter hfilter
    rw [List.mem_singleton.mp hfilter]

/-- The filters of a function's log group. -/
def LambdaFunction.filters (f : LambdaFunction) : List SubscriptionFilter :=
  (f.logGroup.map (·.subscriptionFilters)).getD []

/-- The filters of the log group that a machine logs to. -/
def StateMachine.filters (m : StateMachine) : List SubscriptionFilter :=
  (m.logGroup?.map (·.subscriptionFilters)).getD []

namespace Lambda.Instrumenter

variable {i : Instrumenter} {destination : String} {supplied : List LambdaFunction}

theorem gainsOnly_instrument (h : i.config.forwarderArn = some destination) (f : LambdaFunction) :
    GainsOnly destination f.filters (i.instrument f).value.filters := by
  cases hskips : i.config.skips f with
  | true =>
    rw [instrument_of_skips hskips, LambdaFunction.grantKey_eq]
    exact .refl ..
  | false =>
    have hown : f.filters = f.ownLogGroup.subscriptionFilters := by
      unfold LambdaFunction.filters LambdaFunction.ownLogGroup
      cases f.logGroup <;> rfl
    unfold LambdaFunction.filters
    rw [logGroup_instrument hskips, LambdaFunction.forwardedGroup, h]
    dsimp only
    split
    · exact .refl ..
    · change GainsOnly destination f.filters _
      rw [hown]
      exact gainsOnly_subscribe ..

/-- Every owned function is one of those that were supplied under its name, and what its log group
has gained since ships to one destination. -/
def GainedOnly (i : Instrumenter) (destination : String) (supplied : List LambdaFunction) : Prop :=
  ∀ f ∈ i.functions, ∃ g ∈ supplied, g.name = f.name ∧ GainsOnly destination g.filters f.filters

theorem GainedOnly.mono (h : i.GainedOnly destination supplied) (more : List LambdaFunction) :
    i.GainedOnly destination (supplied ++ more) := by
  intro f hf
  obtain ⟨g, hg, hgains⟩ := h f hf
  exact ⟨g, List.mem_append_left _ hg, hgains⟩

/-- A change of variables alone leaves names and log groups as they are. -/
theorem GainedOnly.map (h : i.GainedOnly destination supplied)
    {change : LambdaFunction → LambdaFunction}
    (hchange : ∀ f, ∃ environment, change f = { f with environment := environment })
    {git : GitMetadata} :
    GainedOnly { i with gitOverride := git, functions := i.functions.map change } destination
      supplied := by
  intro f' hf'
  obtain ⟨f, hf, rfl⟩ := List.mem_map.mp hf'
  obtain ⟨environment, hchanged⟩ := hchange f
  rw [hchanged]
  exact h f hf

theorem GainedOnly.add (h : i.GainedOnly destination supplied)
    (hforwarder : i.config.forwarderArn = some destination) (functions : List LambdaFunction) :
    (i.serve (.add functions)).GainedOnly destination (supplied ++ functions) := by
  rw [serve_add]
  split
  · intro f' hf'
    rcases mem_storeAll hf' with hnew | hkept
    · obtain ⟨f, hf, rfl⟩ := List.mem_map.mp hnew
      exact ⟨f, List.mem_append_right _ hf, (i.sameIdentity_instrument f).name.symm,
        gainsOnly_instrument hforwarder f⟩
    · exact h.mono functions f' hkept
  · exact h.mono functions

/-- One more command: functions that it supplies gain filters, all others keep theirs. -/
theorem GainedOnly.perform (h : i.GainedOnly destination supplied)
    (hforwarder : i.config.forwarderArn = some destination) (command : Command) :
    (i.perform command).GainedOnly destination (supplied ++ command.supplied) := by
  have hoverride (sha : String) (url : Option String) :
      (i.overrideGit sha url).GainedOnly destination supplied := by
    rw [overrideGit_eq]
    exact h.map fun f => ⟨_, f.retag_eq _⟩
  cases command with
  | writeGit => exact (h.map fun f => ⟨_, f.writeGitTags_eq _⟩).mono []
  | request request =>
    cases request with
    | add functions => exact h.add hforwarder functions
    | overrideGit sha url => exact (hoverride sha url).mono []
    | setGit git => exact h.mono []
    | applyContext context =>
      change (i.applyContext context).GainedOnly destination (supplied ++ [])
      unfold applyContext
      split
      · exact (hoverride _ _).mono []
      · exact h.mono []

theorem config_perform (i : Instrumenter) (command : Command) :
    (i.perform command).config = i.config := by
  cases command with
  | writeGit => rfl
  | request request =>
    cases request with
    | add functions =>
      change (i.serve (.add functions)).config = i.config
      rw [serve_add_eq]
    | applyContext context =>
      change (i.applyContext context).config = i.config
      unfold applyContext
      split <;> rfl
    | overrideGit sha url => rfl
    | setGit git => rfl

theorem config_performAll (i : Instrumenter) (commands : List Command) :
    (i.performAll commands).config = i.config := by
  induction commands generalizing i with
  | nil => rfl
  | cons command commands ih => exact (ih _).trans (i.config_perform command)

theorem GainedOnly.performAll (h : i.GainedOnly destination supplied)
    (hforwarder : i.config.forwarderArn = some destination) (commands : List Command) :
    (i.performAll commands).GainedOnly destination
      (supplied ++ commands.flatMap (·.supplied)) := by
  induction commands generalizing i supplied with
  | nil => exact h.mono []
  | cons command commands ih =>
    have hnext : (i.perform command).config.forwarderArn = some destination := by
      rw [config_perform, hforwarder]
    rw [List.flatMap_cons, ← List.append_assoc]
    exact ih (h.perform hforwarder command) hnext

/-- Whatever an instrumenter is asked for, the filters that it creates ship to one destination. -/
structure SubscribesOnlyTo (i : Instrumenter) (destination : String) : Prop where
  functions : ∀ commands : List Command,
    (i.performAll commands).GainedOnly destination (i.functions ++ commands.flatMap (·.supplied))
  groups : ∀ (commands : List Command) (groups after : List LogGroup),
    (i.performAll commands).forwardLogGroups groups = .ok () after →
      List.Forall₂ (fun group group' =>
        GainsOnly destination group.subscriptionFilters group'.subscriptionFilters) groups after

theorem subscribesOnlyTo (h : i.config.forwarderArn = some destination) :
    i.SubscribesOnlyTo destination := by
  constructor
  case functions =>
    have hstart : i.GainedOnly destination i.functions := fun f hf => ⟨f, hf, rfl, .refl ..⟩
    exact hstart.performAll h
  case groups =>
    intro commands groups after hafter
    have hforwarder : (i.performAll commands).config.forwarderArn = some destination := by
      rw [config_performAll, h]
    cases (forwardLogGroups_of_forwarder hforwarder groups).symm.trans hafter
    rw [subscribeAll, List.forall₂_map_right_iff, List.forall₂_same]
    exact fun group _ => gainsOnly_subscribe ..

end Lambda.Instrumenter

namespace StepFunctions.Instrumenter

variable {i : Instrumenter} {destination : String}

theorem gainsOnly_instrument {c : Config} (h : c.forwarderArn = some destination)
    (m : StateMachine) : GainsOnly destination m.filters (instrument c m).filters := by
  have hbefore : m.filters = (Instrumenter.destination c m).subscriptionFilters := by
    unfold StateMachine.filters Instrumenter.destination
    cases m.logGroup? <;> rfl
  have hafter : (instrument c m).filters = (forwarded c m).subscriptionFilters := rfl
  rw [hbefore, hafter, forwarded, h]
  exact gainsOnly_subscribe ..

/-- Whatever an instrumenter is asked for, the filters that it creates ship to one destination. -/
def SubscribesOnlyTo (i : Instrumenter) (destination : String) : Prop :=
  ∀ (calls : List (List StateMachine)) (machines : List StateMachine) (i' : Instrumenter)
    (machines' : List StateMachine), (i.run calls).add machines = .ok () (i', machines') →
      List.Forall₂ (fun m m' => GainsOnly destination m.filters m'.filters) machines machines'

theorem subscribesOnlyTo (h : i.config.forwarderArn = some destination) :
    i.SubscribesOnlyTo destination := by
  intro calls machines i' machines' hadd
  have hforwarder : (i.run calls).config.forwarderArn = some destination := by rw [config_run, h]
  exact forall₂_of_add hadd (gainsOnly_instrument hforwarder)

end StepFunctions.Instrumenter

theorem Lambda.Settings.isForwarderArn_of_resolve {s defaults : Settings}
    {options : ValidationOptions} {r : Noted Config} {arn : String}
    (h : s.resolve defaults options = .ok r) (harn : r.value.forwarderArn = some arn) :
    IsForwarderArn arn := by
  obtain ⟨key, mode, -, -, -, -, -, hforwarder, rfl⟩ := finalize_eq_ok_iff_checks.mp h
  exact (checkForwarder_eq_ok_iff_isForwarderArn.mp hforwarder).1 arn harn

theorem StepFunctions.Settings.isForwarderArn_of_resolve {s defaults : Settings}
    {options : ValidationOptions} {r : Noted Config} {arn : String}
    (h : s.resolve defaults options = .ok r) (harn : r.value.forwarderArn = some arn) :
    IsForwarderArn arn := by
  have hmerged : ((libraryDefaults.merge defaults).merge s).forwarderArn = some arn := by
    rw [← (of_finalize_eq_ok h).1]
    exact harn
  unfold resolve finalize at h
  obtain ⟨_, -, h⟩ := bind_eq_ok_iff.mp h
  dsimp only at h
  rw [hmerged] at h
  obtain ⟨_, hcheck, -⟩ := bind_eq_ok_iff.mp h
  exact checkForwarderArn_eq_ok_iff.mp hcheck

/-- A forwarder that resolution accepts is one that the settings or the defaults give. It is stored
as it was written, every filter that is created ships to it as it was written, and it can be used
like that exactly if there are no blanks around it. -/
theorem destination_isUsable_iff (options : ValidationOptions) (arn : String) :
    (∀ (s defaults : Lambda.Settings) (r : Noted Lambda.Config),
      s.resolve defaults options = .ok r → r.value.forwarderArn = some arn →
        s.forwarderArn.or defaults.forwarderArn = some arn ∧
        (IsUsableForwarder arn ↔ ¬Text.HasBlankEnd arn) ∧
        ∀ i : Lambda.Instrumenter, i.config = r.value → i.SubscribesOnlyTo arn) ∧
    (∀ (s defaults : StepFunctions.Settings) (r : Noted StepFunctions.Config),
      s.resolve defaults options = .ok r → r.value.forwarderArn = some arn →
        s.forwarderArn.or defaults.forwarderArn = some arn ∧
        (IsUsableForwarder arn ↔ ¬Text.HasBlankEnd arn) ∧
        ∀ i : StepFunctions.Instrumenter, i.config = r.value → i.SubscribesOnlyTo arn) := by
  constructor
  · intro s defaults r hr harn
    have hform := Lambda.Settings.isForwarderArn_of_resolve hr harn
    refine ⟨?_, hform.isUsable_iff, fun i hi => ?_⟩
    · rw [← (Lambda.Settings.forwarding_of_resolve hr).1, harn]
    · exact Lambda.Instrumenter.subscribesOnlyTo (hi ▸ harn)
  · intro s defaults r hr harn
    have hform := StepFunctions.Settings.isForwarderArn_of_resolve hr harn
    refine ⟨?_, hform.isUsable_iff, fun i hi => ?_⟩
    · rw [← (StepFunctions.Settings.forwarding_of_resolve hr).1, harn]
    · exact StepFunctions.Instrumenter.subscribesOnlyTo (hi ▸ harn)

/-- A placeholder that both pipelines take from the caller's defaults. -/
theorem destination_isUsable_iff_of_placeholder :
    let arn := "$\x7bToken[TOKEN.1]\x7d"
    (∃ r, Lambda.Settings.resolve {} { forwarderArn := some arn } {} = .ok r ∧
      IsUsableForwarder arn ∧
      Lambda.Instrumenter.SubscribesOnlyTo
        { config := r.value, transport := .ofConfig r.value } arn) ∧
    ∃ r, StepFunctions.Settings.resolve {} { forwarderArn := some arn } {} = .ok r ∧
      IsUsableForwarder arn ∧ StepFunctions.Instrumenter.SubscribesOnlyTo { config := r.value } arn
    := by
  dsimp only
  obtain ⟨hlambda, hmachines⟩ := destination_isUsable_iff {} "$\x7bToken[TOKEN.1]\x7d"
  constructor
  · refine ⟨_, (fun hr => ⟨hr, ?_⟩) rfl⟩
    obtain ⟨-, husable, hships⟩ := hlambda _ _ _ hr rfl
    exact ⟨husable.mpr (by decide), hships _ rfl⟩
  · refine ⟨_, (fun hr => ⟨hr, ?_⟩) rfl⟩
    obtain ⟨-, husable, hships⟩ := hmachines _ _ _ hr rfl
    exact ⟨husable.mpr (by decide), hships _ rfl⟩

/-- A blank in front of an ARN is not noticed, and filters ship to the ARN with the blank. -/
theorem blank_before_forwarder_reaches_filter :
    let arn := " arn:aws:lambda:us-east-1:123456789012:function:forwarder"
    ¬IsUsableForwarder arn ∧
      ∃ r, Lambda.Settings.resolve { forwarderArn := some arn } {} {} = .ok r ∧
        r.value.forwarderArn = some arn ∧
        ∃ group, Lambda.Instrumenter.forwardLogGroups
            { config := r.value, transport := .ofConfig r.value } [{ name := "api" }] =
              .ok () [group] ∧ group.ShipsTo arn := by
  dsimp only
  refine ⟨by decide, _, rfl, rfl, _, rfl, ?_⟩
  exact LogGroup.shipsTo_subscribe rfl ..

end TelemetryWiring
