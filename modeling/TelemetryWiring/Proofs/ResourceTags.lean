import TelemetryWiring.Proofs.Lambda.Additions
import TelemetryWiring.Proofs.Lambda.Resolution
import TelemetryWiring.Proofs.Lambda.Skipped
import TelemetryWiring.Proofs.StepFunctions.Instrumentation
import TelemetryWiring.Proofs.StepFunctions.Resolution
import TelemetryWiring.Proofs.Tags.Merge

/-!
Reserved tags on wired resources. The service's identity and the marks of this program are written
beside the tags that a caller configures, and the last write of a key counts. The configured tags
come after the identity in both pipelines; they come before the marks of a state machine, but after
the mark of a function. What is written before them stays exactly if they do not replace it.
-/
namespace TelemetryWiring

namespace Tags

/-- Whether the tags give a key a value of their own in place of another. Empty values are not
written. -/
def Replaces (tags : Tags) (key value : String) : Prop :=
  ∃ other, tags.get? key = some (some other) ∧ other ≠ "" ∧ other ≠ value

instance (tags : Tags) (key value : String) : Decidable (tags.Replaces key value) :=
  decidable_of_iff (∃ other ∈ (tags.get? key).join, other ≠ "" ∧ other ≠ value) <| by
    simp only [Option.mem_def, Option.join_eq_some_iff, Replaces]

/-- What is written before configured tags is there in the end exactly if they do not replace it. -/
theorem get?_insertMany_iff_not_replaces (d : Dict String) (tags : Tags)
    {reserved : List (String × String)} (marks : List (String × String))
    (hreserved : (reserved.map (·.1)).Nodup) {e : String × String} (he : e ∈ reserved)
    (hmarks : e.1 ∉ marks.map (·.1)) :
    (d.insertMany (reserved ++ tags.valued ++ marks)).get? e.1 = some e.2 ↔
      ¬tags.Replaces e.1 e.2 := by
  have hwritten : lastValue e.1 reserved = some e.2 :=
    (lastValue_eq_some_iff_of_nodup hreserved).mpr he
  rw [Dict.get?_insertMany, lastValue_append, lastValue_append, lastValue_eq_none_iff.mpr hmarks,
    hwritten, Option.none_or]
  unfold Replaces
  cases hother : lastValue e.1 tags.valued with
  | none =>
    refine iff_of_true rfl ?_
    rintro ⟨other, hget, hvalue, -⟩
    rw [lastValue_valued_eq_some_iff.mpr ⟨hget, hvalue⟩] at hother
    cases hother
  | some other =>
    obtain ⟨hget, hvalue⟩ := lastValue_valued_eq_some_iff.mp hother
    simp [hget, hvalue]

end Tags

theorem Construct.tag_eq : Construct.tag = ("dd_cdk_construct", "v0.1.0") := by decide

theorem ServiceIdentity.nodup_keys_tags (identity : ServiceIdentity) :
    (identity.tags.map (·.1)).Nodup :=
  List.Nodup.sublist (identity.keys_under ..) (by decide)

theorem ServiceIdentity.not_mem_keys_tags (identity : ServiceIdentity) {key : String}
    (h : key ∉ ["env", "service", "version"]) : key ∉ identity.tags.map (·.1) :=
  fun hmem => h ((identity.keys_under ..).subset hmem)

namespace Lambda

/-- What configured tags leave of the reserved ones on a wired function. They are written where logs
are forwarded, after the identity and after the mark. -/
structure KeepsReserved (forwards : Bool) (identity : ServiceIdentity) (configured : Tags)
    (tags : Dict String) : Prop where
  mark : tags.get? "dd_cdk_construct" = some "v0.1.0" ↔
    ¬(forwards = true ∧ configured.Replaces "dd_cdk_construct" "v0.1.0")
  identity : forwards = true → ∀ e ∈ identity.tags,
    (tags.get? e.1 = some e.2 ↔ ¬configured.Replaces e.1 e.2)

theorem keepsReserved_resourceTags (c : Config) (d : Dict String) :
    KeepsReserved c.forwarderArn.isSome c.identity (.parse (c.tags.getD ""))
      (d.insertMany c.resourceTags) := by
  unfold Config.resourceTags
  cases c.forwarderArn.isSome with
  | false =>
    constructor
    · simp [Dict.get?_insertMany, lastValue, Construct.tag_eq]
    · intro h
      cases h
  | true =>
    have hreserved : ((Construct.tag :: c.identity.tags).map (·.1)).Nodup :=
      List.nodup_cons.mpr
        ⟨c.identity.not_mem_keys_tags (by decide), c.identity.nodup_keys_tags⟩
    have hkept (e : String × String) (he : e ∈ Construct.tag :: c.identity.tags) :
        (d.insertMany (Construct.tag :: (c.identity.tags ++
          (Tags.parse (c.tags.getD "")).valued))).get? e.1 = some e.2 ↔
            ¬(Tags.parse (c.tags.getD "")).Replaces e.1 e.2 := by
      have h := (Tags.parse (c.tags.getD "")).get?_insertMany_iff_not_replaces d []
        hreserved he (by simp)
      rwa [List.append_nil] at h
    constructor
    · simpa [Construct.tag_eq] using hkept Construct.tag List.mem_cons_self
    · intro _ e he
      exact hkept e (List.mem_cons_of_mem _ he)

namespace Instrumenter

variable {i : Instrumenter} {f : LambdaFunction}

/-- The tags of an instrumented function are those of the wiring. -/
theorem tags_instrument (hskips : i.config.skips f = false) :
    (i.instrument f).value.tags = f.tags.insertMany i.config.resourceTags := by
  rw [instrument_of_not_skips hskips]
  dsimp only
  rw [tags_wire, library_value_eq, LambdaFunction.grantKey_eq]

end Instrumenter
end Lambda

namespace StepFunctions

/-- What configured tags leave of the reserved ones on an instrumented machine. They are written
after the identity and before the marks. -/
structure KeepsReserved (identity : ServiceIdentity) (configured : Tags) (tags : Dict String) :
    Prop where
  traced : tags.get? "DD_TRACE_ENABLED" = some "true"
  mark : tags.get? "dd_cdk_construct" = some "v0.1.0"
  identity : ∀ e ∈ identity.tags, (tags.get? e.1 = some e.2 ↔ ¬configured.Replaces e.1 e.2)

theorem keepsReserved_machineTags (c : Config) (d : Dict String) :
    KeepsReserved c.identity (.parse (c.tags.getD "")) (d.insertMany (Instrumenter.machineTags c))
    := by
  unfold Instrumenter.machineTags
  rw [Construct.tag_eq]
  constructor
  case traced => simp [Dict.get?_insertMany, lastValue_append, lastValue]
  case mark => simp [Dict.get?_insertMany, lastValue_append, lastValue]
  case identity =>
    intro e he
    apply Tags.get?_insertMany_iff_not_replaces d _ _ c.identity.nodup_keys_tags he
    -- the identity has none of the keys of the marks
    intro hmark
    refine c.identity.not_mem_keys_tags ?_ (List.mem_map_of_mem he)
    simp only [List.map_cons, List.map_nil, List.mem_cons, List.not_mem_nil, or_false] at hmark
    rcases hmark with hkey | hkey <;>
    · rw [hkey]
      decide

end StepFunctions

/-- What is left of the reserved tags when resources are wired. On functions, configured tags are
written only where logs are forwarded, and may then replace the mark as well as the identity. On
state machines the marks come last. -/
theorem reservedTags_kept_iff (options : ValidationOptions) :
    (∀ (settings defaults : Lambda.Settings) (i : Lambda.Instrumenter),
      Lambda.Instrumenter.ofSettings settings defaults options = .ok i →
      ∀ (requests : List Lambda.Request) (functions : List LambdaFunction)
        (i' : Lambda.Instrumenter) (found : List Diagnostic),
      (i.run requests).add functions = .ok found i' →
      ∀ f : LambdaFunction,
        (∀ d ∈ ((i.run requests).instrument f).diagnostics, d.isMissingLayer = false) →
        Lambda.KeepsReserved (settings.forwarderArn.or defaults.forwarderArn).isSome
          (defaults.identity.merge settings.identity)
          (.parse ((settings.tags.or defaults.tags).getD ""))
          ((i.run requests).instrument f).value.tags ∧
        (Lambda.Instrumenter.lastNamed f.name functions = some f →
          i'.function? f.name = some ((i.run requests).instrument f).value)) ∧
    (∀ (settings defaults : StepFunctions.Settings) (r : Noted StepFunctions.Config),
      settings.resolve defaults options = .ok r →
      ∀ i : StepFunctions.Instrumenter, i.config = r.value →
      ∀ (calls : List (List StateMachine)) (machines : List StateMachine)
        (i' : StepFunctions.Instrumenter) (machines' : List StateMachine),
      (i.run calls).add machines = .ok () (i', machines') →
        List.Forall₂ (fun _ m' => StepFunctions.KeepsReserved
          (defaults.identity.merge settings.identity)
          (.parse ((settings.tags.or defaults.tags).getD "")) m'.tags) machines machines') := by
  constructor
  · intro settings defaults i hi requests functions i' found hadd f hwired
    have hconfig : (i.run requests).config = i.config :=
      (Lambda.Instrumenter.tracks_run hi requests).config
    obtain ⟨r, hr, rfl⟩ := Lambda.Instrumenter.exists_resolved_of_ofSettings hi
    obtain ⟨hforwarder, hidentity, htags⟩ := Lambda.Settings.forwarding_of_resolve hr
    constructor
    · rw [Lambda.Instrumenter.tags_instrument (Lambda.Instrumenter.skips_eq_false_iff.mpr hwired),
        hconfig, ← hforwarder, ← hidentity, ← htags]
      exact Lambda.keepsReserved_resourceTags ..
    · intro hlast
      rw [Lambda.Instrumenter.function?_of_add hadd, hlast]
      rfl
  · intro settings defaults r hr i hi calls machines i' machines' hadd
    obtain ⟨-, hidentity, htags⟩ := StepFunctions.Settings.forwarding_of_resolve hr
    refine StepFunctions.Instrumenter.forall₂_of_add hadd fun m => ?_
    rw [StepFunctions.Instrumenter.config_run, hi, ← hidentity, ← htags]
    exact StepFunctions.keepsReserved_machineTags ..

/-- Configured tags that name the service's environment as it is. -/
theorem reservedTags_kept_iff_of_agreeing_tags :
    (∃ i, Lambda.Instrumenter.ofSettings
        { identity := { env := some "prod" }
          tags := some "team:shop,env:prod"
          forwarderArn := some "arn:aws:lambda:us-east-1:123456789012:function:forwarder"
          layers := { python := { version := some 100 } } } {} {} = .ok i ∧
      ∃ i' found, (i.run []).add
          [.ofAccount "fn" "123456789012" "us-east-1" "python3.12" "app.run"] = .ok found i' ∧
        ∃ g, i'.function? "fn" = some g ∧ g.tags.get? "dd_cdk_construct" = some "v0.1.0" ∧
          g.tags.get? "env" = some "prod") ∧
    ∃ r, StepFunctions.Settings.resolve
        { identity := { env := some "prod" }, tags := some "team:shop,env:prod" } {} {} = .ok r ∧
      ∃ i' m', StepFunctions.Instrumenter.add { config := r.value }
          [.ofAccount "orders" "123456789012" "us-east-1"] = .ok () (i', [m']) ∧
        m'.tags.get? "dd_cdk_construct" = some "v0.1.0" ∧ m'.tags.get? "env" = some "prod" := by
  obtain ⟨hlambda, hmachines⟩ := reservedTags_kept_iff {}
  constructor
  · refine ⟨_, (fun hnew => ⟨hnew, ?_⟩) rfl⟩
    refine ⟨_, _, (fun hadd => ⟨hadd, ?_⟩) rfl⟩
    obtain ⟨hkept, howned⟩ := hlambda _ _ _ hnew [] _ _ _ hadd
      (.ofAccount "fn" "123456789012" "us-east-1" "python3.12" "app.run") (by decide)
    refine ⟨_, howned rfl, hkept.mark.mpr (by decide), ?_⟩
    exact (hkept.identity rfl ("env", "prod") (by decide)).mpr (by decide)
  · refine ⟨_, (fun hr => ⟨hr, ?_⟩) rfl⟩
    refine ⟨_, _, (fun hadd => ⟨hadd, ?_⟩) rfl⟩
    obtain ⟨hkept, -⟩ := List.forall₂_cons.mp (hmachines _ _ _ hr _ rfl [] _ _ _ hadd)
    exact ⟨hkept.mark, (hkept.identity ("env", "prod") (by decide)).mpr (by decide)⟩

/-- Configured tags take the place of the mark and of the identity on a function, and of the
identity on a machine. -/
theorem configured_tags_replace_reserved :
    (∃ i, Lambda.Instrumenter.ofSettings
        { identity := { env := some "prod" }
          tags := some "env:dev,dd_cdk_construct:none"
          forwarderArn := some "arn:aws:lambda:us-east-1:123456789012:function:forwarder"
          layers := { python := { version := some 100 } } } {} {} = .ok i ∧
      ∃ i' found, i.add
          [.ofAccount "fn" "123456789012" "us-east-1" "python3.12" "app.run"] = .ok found i' ∧
        (∀ d ∈ found, d.isMissingLayer = false) ∧
        ∃ g, i'.function? "fn" = some g ∧ g.tags.get? "dd_cdk_construct" = some "none" ∧
          g.tags.get? "env" = some "dev") ∧
    ∃ r, StepFunctions.Settings.resolve
        { identity := { env := some "prod" }, tags := some "env:dev" } {} {} = .ok r ∧
      ∃ i' m', StepFunctions.Instrumenter.add { config := r.value }
          [.ofAccount "orders" "123456789012" "us-east-1"] = .ok () (i', [m']) ∧
        m'.tags.get? "env" = some "dev" := by
  constructor
  · refine ⟨_, rfl, _, _, rfl, by decide, _, rfl, ?_⟩
    decide
  · refine ⟨_, rfl, _, _, rfl, ?_⟩
    decide

end TelemetryWiring
