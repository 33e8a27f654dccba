import TelemetryWiring.Proofs.Forwarder
import TelemetryWiring.Proofs.Lambda.Assignments
import TelemetryWiring.Proofs.Lambda.Layer
import TelemetryWiring.Proofs.Lambda.TagList

/-!
The wiring of one function. Each writer has a condition under which it finds its work done; the
wiring leaves a function that meets all of them, so wiring it again is quiet and changes nothing.
-/
namespace TelemetryWiring

/-- The tags that instrumentation puts on a function's definition. -/
def Lambda.Config.resourceTags (c : Lambda.Config) : List (String × String) :=
  Construct.tag ::
    if c.forwarderArn.isSome then c.identity.tags ++ (Tags.parse (c.tags.getD "")).valued else []

namespace LambdaFunction

variable {f : LambdaFunction} {c : Lambda.Config}

theorem grantKey_eq (f : LambdaFunction) (c : Lambda.Config) :
    f.grantKey c = { f with secretReadGrants := (f.grantKey c).secretReadGrants } := by
  unfold grantKey
  split
  · split
    · rw [grantSecretRead_eq]
    · rfl
  · rfl

theorem grantKey_of_granted {g : LambdaFunction}
    (h : g.secretReadGrants = (f.grantKey c).secretReadGrants) : g.grantKey c = g := by
  unfold grantKey at h ⊢
  cases hkey : c.apiKey.bind (·.secretArn?) with
  | none => rfl
  | some arn =>
    by_cases hgrant : c.grantSecretRead = true
    · simp only [hkey, if_pos hgrant, grantSecretRead_eq] at h ⊢
      have hmem : arn ∈ g.secretReadGrants := by
        rw [h]
        exact mem_addOnce.mpr (.inr rfl)
      rw [addOnce_of_mem hmem]
    · simp only [if_neg hgrant]

theorem tagResource_eq (f : LambdaFunction) (c : Lambda.Config) :
    f.tagResource c = { f with tags := f.tags.insertMany c.resourceTags } := by
  unfold tagResource Lambda.Config.resourceTags
  split <;> rfl

/-- The function's log group once its logs are forwarded. -/
def forwardedGroup (f : LambdaFunction) (c : Lambda.Config) : Option LogGroup :=
  match c.forwarderArn with
  | some forwarder =>
    if c.usesExtension then f.logGroup
    else some (f.ownLogGroup.subscribe f.arn forwarder c.createForwarderPermissions)
  | none => f.logGroup

theorem forwardLogs_eq (f : LambdaFunction) (c : Lambda.Config) :
    f.forwardLogs c = { f with logGroup := f.forwardedGroup c } := by
  unfold forwardLogs forwardedGroup
  cases c.forwarderArn with
  | none => rfl
  | some forwarder =>
    dsimp only
    split <;> rfl

/-- A log group that was subscribed for a function is not subscribed again. -/
theorem forwardLogs_of_forwarded {g : LambdaFunction} (harn : g.arn = f.arn)
    (h : g.logGroup = f.forwardedGroup c) : g.forwardLogs c = g := by
  unfold forwardLogs
  unfold forwardedGroup at h
  cases hforwarder : c.forwarderArn with
  | none => rfl
  | some forwarder =>
    by_cases hextension : c.usesExtension = true
    · simp only [if_pos hextension]
    · simp only [hforwarder, if_neg hextension] at h ⊢
      have hown : g.ownLogGroup =
          f.ownLogGroup.subscribe f.arn forwarder c.createForwarderPermissions := by
        rw [ownLogGroup, h]
        rfl
      have hsubscribed : g.ownLogGroup.hasFilter (filterName g.arn forwarder) = true := by
        rw [hown, harn]
        exact LogGroup.hasFilter_subscribe ..
      rw [LogGroup.subscribe_of_hasFilter hsubscribed, hown, ← h]

theorem mem_redirection {addLayers : Bool} {e : String × String}
    (h : e ∈ (f.redirection addLayers).2) :
    e = Lambda.wrapperVariable ∨ e = ("DD_LAMBDA_HANDLER", f.handler) := by
  unfold redirection at h
  cases hfamily : RuntimeFamily.ofRuntime f.runtime <;>
    simp only [hfamily, RuntimeFamily.tracerHandler?] at h
  case node => cases addLayers <;> simp only [Bool.false_eq_true, if_true, if_false] at h <;> grind
  case python => grind
  all_goals simp_all

/-- A redirected function keeps its handler, and whatever would be written for it was written
before. -/
theorem redirection_of_redirected {g : LambdaFunction} {addLayers : Bool}
    (hruntime : g.runtime = f.runtime) (hhandler : g.handler = (f.redirection addLayers).1) :
    (g.redirection addLayers).1 = g.handler ∧
      ∀ e ∈ (g.redirection addLayers).2, e ∈ (f.redirection addLayers).2 := by
  unfold redirection at hhandler ⊢
  rw [hruntime]
  cases hfamily : RuntimeFamily.ofRuntime f.runtime <;>
    simp only [hfamily, RuntimeFamily.tracerHandler?] at hhandler ⊢
  case node =>
    cases addLayers <;> simp only [Bool.false_eq_true, if_true, if_false] at hhandler ⊢ <;> grind
  case python => grind
  all_goals simp_all

end LambdaFunction

namespace Lambda.Instrumenter

/-- The function with its extension layer. -/
def extended (i : Instrumenter) (f : LambdaFunction) : LambdaFunction :=
  if i.config.usesExtension then
    f.attachExtension i.config.layers.extension i.config.layerAccount
  else f

/-- The handler and the variables of the redirection, if there is one. -/
def redirection (i : Instrumenter) (f : LambdaFunction) : String × List (String × String) :=
  if i.config.redirectHandler then f.redirection i.config.addLayers else (f.handler, [])

/-- The redirected function. -/
def redirected (i : Instrumenter) (f : LambdaFunction) : Noted LambdaFunction :=
  if i.config.redirectHandler then f.redirect i.config.addLayers else ⟨f, []⟩

/-- All variables that are written before the tag list. -/
def writes (i : Instrumenter) (f : LambdaFunction) : List (String × String) :=
  (i.redirection f).2 ++ i.assignments

/-- The metadata that instrumentation writes into the tag list. -/
def writtenGit (i : Instrumenter) : GitMetadata :=
  if i.config.sourceCodeIntegration then i.effectiveGit else {}

/-- The function as it stands before its tag list is written. -/
def furnished (i : Instrumenter) (f : LambdaFunction) : LambdaFunction :=
  { f with
    handler := (i.redirection f).1
    environment := f.environment.insertMany (i.writes f)
    layers := (i.extended f).layers
    tags := f.tags.insertMany i.config.resourceTags
    logGroup := f.forwardedGroup i.config }

theorem isPlain_writtenGit {i : Instrumenter} (h : i.effectiveGit.IsPlain) :
    i.writtenGit.IsPlain := by
  unfold writtenGit
  split
  · exact h
  · intro e he
    cases he

theorem wire_eq (i : Instrumenter) (f : LambdaFunction) :
    i.wire f =
      let redirected := i.redirected (i.extended f)
      let assigned :=
        ((redirected.value.forwardLogs i.config).tagResource i.config).assign i.assignments
      ⟨assigned.value.writeTags i.config i.writtenGit,
        redirected.diagnostics ++ assigned.diagnostics⟩ := rfl

theorem extended_eq (i : Instrumenter) (f : LambdaFunction) :
    i.extended f = { f with layers := (i.extended f).layers } := by
  unfold extended
  split
  · rw [LambdaFunction.attachExtension_eq]
  · rfl

theorem redirected_value (i : Instrumenter) (f : LambdaFunction) :
    (i.redirected f).value =
      { f with
        handler := (i.redirection f).1
        environment := f.environment.insertMany (i.redirection f).2 } := by
  unfold redirected redirection
  split
  · exact LambdaFunction.assign_value ..
  · rfl

/-- Wiring writes the tag list of the furnished function. -/
theorem wire_value (i : Instrumenter) (f : LambdaFunction) :
    (i.wire f).value = (i.furnished f).writeTags i.config i.writtenGit := by
  -- redirection and forwarding do not look at the layers that were attached before them
  have hredirection : i.redirection (i.extended f) = i.redirection f := by
    rw [extended_eq]
    rfl
  have hredirected := i.redirected_value (i.extended f)
  rw [hredirection, extended_eq] at hredirected
  rw [wire_eq]
  dsimp only
  rw [LambdaFunction.assign_value, LambdaFunction.tagResource_eq, LambdaFunction.forwardLogs_eq,
    extended_eq, hredirected, furnished, writes, Dict.insertMany_append]
  rfl

end Lambda.Instrumenter
end TelemetryWiring
