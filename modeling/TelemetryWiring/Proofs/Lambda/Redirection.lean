import Mathlib.Data.List.Induction
import TelemetryWiring.Lambda.Handler
import TelemetryWiring.Proofs.Lambda.Function

/-!
Functions that are redirected again and again, each time with another choice of layers. A redirected
function starts through a tracer and has a handler recorded to go on with. That one is the
function's own unless two of the calls lead to different tracers: the later call then takes the
tracer of the earlier one for the function's own handler (`startsTracerThen_redirectAll_iff`).
-/
namespace TelemetryWiring

/-- Whether a handler is one of those that start a tracer. -/
def IsTracerHandler (handler : String) : Prop :=
  ∃ (family : RuntimeFamily) (addLayers : Bool), family.tracerHandler? addLayers = some handler

/-- Node has one tracer in its layer and one in the packages of a function, Python has one. -/
theorem isTracerHandler_iff {handler : String} :
    IsTracerHandler handler ↔
      handler = "/opt/nodejs/node_modules/datadog-lambda-js/handler.handler" ∨
      handler = "node_modules/datadog-lambda-js/dist/handler.handler" ∨
      handler = "datadog_lambda.handler.handler" := by
  constructor
  · rintro ⟨family, addLayers, h⟩
    cases family <;> cases addLayers <;> simp_all [RuntimeFamily.tracerHandler?]
  · rintro (rfl | rfl | rfl)
    · exact ⟨.node, true, rfl⟩
    · exact ⟨.node, false, rfl⟩
    · exact ⟨.python, true, rfl⟩

instance : DecidablePred IsTracerHandler := fun _ => decidable_of_iff _ isTracerHandler_iff.symm

namespace RuntimeFamily

variable {family : RuntimeFamily}

/-- The families whose functions start through a handler have one for each choice of layers. -/
theorem exists_tracer (h : family = .node ∨ family = .python) :
    ∃ tracer : Bool → String, ∀ addLayers, family.tracerHandler? addLayers = some (tracer addLayers)
    := by
  refine ⟨fun addLayers => (family.tracerHandler? addLayers).getD "", ?_⟩
  intro addLayers
  rcases h with rfl | rfl <;> cases addLayers <;> rfl

/-- Only the tracer of Node lies elsewhere without layers. -/
theorem tracerHandler?_eq_iff (h : family = .node ∨ family = .python) (a b : Bool) :
    family.tracerHandler? a = family.tracerHandler? b ↔ family = .python ∨ a = b := by
  rcases h with rfl | rfl <;> cases a <;> cases b <;> decide

/-- Choices all lead to the tracer of the last one exactly if they agree or there is but one. -/
theorem forall_tracer_eq_iff (h : family = .node ∨ family = .python) {tracer : Bool → String}
    (htracer : ∀ addLayers, family.tracerHandler? addLayers = some (tracer addLayers))
    (choices : List Bool) (last : Bool) :
    (∀ c ∈ choices, tracer c = tracer last) ↔
      family = .python ∨ ∀ a ∈ choices ++ [last], ∀ b ∈ choices ++ [last], a = b := by
  have hsame (a b : Bool) : tracer a = tracer b ↔ family = .python ∨ a = b := by
    rw [← tracerHandler?_eq_iff h, htracer, htracer, Option.some_inj]
  constructor
  · intro hagree
    by_cases hpython : family = .python
    · exact .inl hpython
    · have hlast (c : Bool) (hc : c ∈ choices ++ [last]) : c = last := by
        rcases List.mem_append.mp hc with hc | hc
        · exact ((hsame c last).mp (hagree c hc)).resolve_left hpython
        · exact List.mem_singleton.mp hc
      exact .inr fun a ha b hb => (hlast a ha).trans (hlast b hb).symm
  · intro hagree c hc
    refine (hsame c last).mpr (hagree.imp_right fun hagree => ?_)
    exact hagree c (List.mem_append_left _ hc) last (List.mem_append_right _ (by simp))

end RuntimeFamily

namespace LambdaFunction

variable {f : LambdaFunction}

/-- The function after redirections, each with its own choice of layers. -/
def redirectAll (f : LambdaFunction) (choices : List Bool) : LambdaFunction :=
  choices.foldl (fun f addLayers => (f.redirect addLayers).value) f

@[simp] theorem redirectAll_nil (f : LambdaFunction) : f.redirectAll [] = f := rfl

theorem redirectAll_concat (f : LambdaFunction) (choices : List Bool) (last : Bool) :
    f.redirectAll (choices ++ [last]) = ((f.redirectAll choices).redirect last).value :=
  List.foldl_concat ..

/-- A function that starts through a tracer and has a handler recorded to go on with. -/
structure StartsTracerThen (f : LambdaFunction) (handler : String) : Prop where
  starts : IsTracerHandler f.handler
  recorded : f.environment.get? "DD_LAMBDA_HANDLER" = some handler

/-- A redirection moves the function's handler into the record, unless it is the one that the
redirection would install. -/
theorem redirect_value {addLayers : Bool} {tracer : String}
    (h : (RuntimeFamily.ofRuntime f.runtime).tracerHandler? addLayers = some tracer) :
    (f.redirect addLayers).value =
      if f.handler = tracer then f
      else
        { f with
          handler := tracer
          environment := f.environment.insert "DD_LAMBDA_HANDLER" f.handler } := by
  have hredirection : f.redirection addLayers =
      if f.handler = tracer then (tracer, []) else (tracer, [("DD_LAMBDA_HANDLER", f.handler)]) := by
    unfold redirection
    cases hfamily : RuntimeFamily.ofRuntime f.runtime <;> rw [hfamily] at h <;>
      simp only [RuntimeFamily.tracerHandler?, reduceCtorEq] at h ⊢
    case node => rw [h]
    case python => rw [Option.some.inj h]
  have hredirect : (f.redirect addLayers).value =
      { f with
        handler := (f.redirection addLayers).1
        environment := f.environment.insertMany (f.redirection addLayers).2 } :=
    assign_value { f with handler := (f.redirection addLayers).1 } (f.redirection addLayers).2
  rw [hredirect, hredirection]
  split
  · rename_i hsame
    rw [← hsame]
    rfl
  · rfl

/-- What a run of redirections comes to, by its last call. -/
theorem redirectAll_eq {tracer : Bool → String}
    (htracer : ∀ addLayers,
      (RuntimeFamily.ofRuntime f.runtime).tracerHandler? addLayers = some (tracer addLayers))
    (hown : ∀ addLayers, f.handler ≠ tracer addLayers) (choices : List Bool) (last : Bool) :
    f.redirectAll (choices ++ [last]) =
      { f with
        handler := tracer last
        environment := (f.redirectAll (choices ++ [last])).environment } ∧
    (f.redirectAll (choices ++ [last])).environment.get? "DD_LAMBDA_HANDLER" =
      some (if ∀ c ∈ choices, tracer c = tracer last then f.handler else tracer !last) := by
  -- the induction is on the calls before the last one
  induction choices using List.reverseRecOn generalizing last with
  | nil =>
    rw [redirectAll_concat, redirectAll_nil, redirect_value (htracer last), if_neg (hown last)]
    simp
  | append_singleton choices c ih =>
    obtain ⟨hsofar, hrecord⟩ := ih c
    generalize hg : f.redirectAll (choices ++ [c]) = g at hsofar hrecord
    have hruntime : g.runtime = f.runtime := by rw [hsofar]
    have hhandler : g.handler = tracer c := by rw [hsofar]
    rw [redirectAll_concat, hg, redirect_value (hruntime ▸ htracer last), hhandler]
    by_cases hsame : tracer c = tracer last
    · rw [if_pos hsame, hrecord]
      refine ⟨hsame ▸ hsofar, ?_⟩
      have hagree : (∀ x ∈ choices ++ [c], tracer x = tracer last) ↔
          ∀ x ∈ choices, tracer x = tracer c := by
        rw [List.forall_mem_append, List.forall_mem_singleton, and_iff_left hsame, hsame]
      rw [if_congr hagree rfl rfl]
      split
      · rfl
      · rename_i hdiffers
        push Not at hdiffers
        obtain ⟨x, -, hx⟩ := hdiffers
        -- the tracers differ, so alike ones come of the same choice
        have hother : tracer (!c) ≠ tracer c := by
          have hne : x ≠ c := fun h => hx (congrArg tracer h)
          rwa [Bool.eq_not_of_ne hne] at hx
        have hchoice : c = last := by
          by_contra hne
          exact hother (Bool.eq_not_of_ne (Ne.symm hne) ▸ hsame.symm)
        rw [hchoice]
    · have hchoice : c = !last := Bool.eq_not_of_ne fun h => hsame (congrArg tracer h)
      have hdiffers : ¬ ∀ x ∈ choices ++ [c], tracer x = tracer last :=
        fun hagree => hsame (hagree c (by simp))
      rw [if_neg hsame, if_neg hdiffers, hsofar, hchoice]
      simp

/-- A function that is redirected again and again keeps its own handler in the record exactly if the
calls all lead to one tracer. Else the record holds the handler of a tracer. -/
theorem startsTracerThen_redirectAll_iff
    (hfamily : RuntimeFamily.ofRuntime f.runtime = .node ∨
      RuntimeFamily.ofRuntime f.runtime = .python)
    (hown : ¬ IsTracerHandler f.handler) {choices : List Bool} (hcalled : choices ≠ []) :
    ((f.redirectAll choices).StartsTracerThen f.handler ↔
      RuntimeFamily.ofRuntime f.runtime = .python ∨ ∀ a ∈ choices, ∀ b ∈ choices, a = b) ∧
    ∃ recorded, (f.redirectAll choices).StartsTracerThen recorded ∧
      (recorded = f.handler ∨ IsTracerHandler recorded) := by
  obtain ⟨tracer, htracer⟩ := RuntimeFamily.exists_tracer hfamily
  have hforeign (addLayers : Bool) : f.handler ≠ tracer addLayers :=
    fun h => hown ⟨_, addLayers, h ▸ htracer addLayers⟩
  obtain ⟨before, last, rfl⟩ := (List.eq_nil_or_concat' choices).resolve_left hcalled
  obtain ⟨hvalue, hrecord⟩ := redirectAll_eq htracer hforeign before last
  have hstarts : IsTracerHandler (f.redirectAll (before ++ [last])).handler := by
    rw [hvalue]
    exact ⟨_, last, htracer last⟩
  rw [if_congr (RuntimeFamily.forall_tracer_eq_iff hfamily htracer before last) rfl rfl]
    at hrecord
  constructor
  · constructor
    · intro h
      by_contra hdiffers
      rw [if_neg hdiffers, h.recorded] at hrecord
      exact hforeign _ (Option.some.inj hrecord)
    · intro h
      exact ⟨hstarts, by rw [hrecord, if_pos h]⟩
  · refine ⟨_, ⟨hstarts, hrecord⟩, ?_⟩
    split
    · exact .inl rfl
    · exact .inr ⟨_, _, htracer _⟩

/-- Calls that agree, made on a function that already has another handler recorded. -/
theorem startsTracerThen_redirectAll_iff_of_recorded :
    ∃ f : LambdaFunction, f.environment.get? "DD_LAMBDA_HANDLER" = some "old.handler" ∧
      RuntimeFamily.ofRuntime f.runtime = .node ∧ ¬ IsTracerHandler f.handler ∧
      (f.redirectAll [false, false, false]).StartsTracerThen f.handler := by
  let f := (LambdaFunction.ofAccount "fn" "123456789012" "us-east-1" "nodejs20.x"
    "index.handler").setVariable "DD_LAMBDA_HANDLER" "old.handler"
  have hnode : RuntimeFamily.ofRuntime f.runtime = .node := by decide
  have hown : ¬ IsTracerHandler f.handler := by decide
  have hcalled : [false, false, false] ≠ [] := by decide
  obtain ⟨hiff, -⟩ := startsTracerThen_redirectAll_iff (.inl hnode) hown hcalled
  exact ⟨f, by decide, hnode, hown, hiff.mpr (.inr (by decide))⟩

/-- With layers first and without them next, the record of a function of Node holds the tracer of
the layer in place of the function's own handler. -/
theorem second_tracer_replaces_recorded_handler :
    ∃ f : LambdaFunction, RuntimeFamily.ofRuntime f.runtime = .node ∧
      ¬ IsTracerHandler f.handler ∧
      ¬ (f.redirectAll [true, false]).StartsTracerThen f.handler ∧
      (f.redirectAll [true, false]).StartsTracerThen
        "/opt/nodejs/node_modules/datadog-lambda-js/handler.handler" := by
  refine ⟨.ofAccount "fn" "123456789012" "us-east-1" "nodejs20.x" "index.handler", by decide,
    by decide, ?_, ⟨by decide, by decide⟩⟩
  intro h
  exact absurd h.recorded (by decide)

end LambdaFunction
end TelemetryWiring
