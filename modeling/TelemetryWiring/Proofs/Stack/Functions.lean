import TelemetryWiring.Proofs.Lambda.Additions
import TelemetryWiring.Proofs.Stack.Sections

/-!
The functions that a stack declares and those that its synthesis gives. They are kept by name, so a
declaration of a name that comes again later gives way to the later one, even where the two are
resources of different regions or accounts.
-/
namespace TelemetryWiring

/-- The ARN of a declared function: the one it states, or the one it has in its region and the
account that owns it. -/
def FunctionEntry.declaredArn? (e : FunctionEntry) (stackAccount : Option String) :
    Option String :=
  e.arn.or ((e.account.or stackAccount).map fun account =>
    "arn:aws:lambda:" ++ e.region ++ ":" ++ account ++ ":function:" ++ e.name)

theorem FunctionEntry.toFunction_eq_ok {e : FunctionEntry} {stackAccount : Option String}
    {f : LambdaFunction} (h : e.toFunction stackAccount = .ok f) :
    f.name = e.name ∧ some f.arn = e.declaredArn? stackAccount := by
  obtain ⟨account, howner, hf⟩ := bind_eq_ok_iff.mp h
  injection hf with hf
  subst hf
  refine ⟨rfl, ?_⟩
  unfold declaredArn?
  cases harn : e.arn with
  | some arn => rfl
  | none =>
    cases haccount : e.account.or stackAccount with
    | none =>
      rw [harn, haccount] at howner
      cases howner
    | some declared =>
      rw [harn, haccount] at howner
      cases howner
      rfl

/-- The functions that entries describe have the names and ARNs that the entries declare. -/
theorem FunctionEntry.map_of_mapM_toFunction {entries : List FunctionEntry}
    {stackAccount : Option String} {functions : List LambdaFunction}
    (h : entries.mapM (·.toFunction stackAccount) = .ok functions) :
    functions.map (fun f => (f.name, some f.arn)) =
      entries.map (fun e => (e.name, e.declaredArn? stackAccount)) := by
  have heach := mapM_eq_ok_iff.mp h
  clear h
  induction heach with
  | nil => rfl
  | cons hentry _ ih =>
    obtain ⟨hname, harn⟩ := toFunction_eq_ok hentry
    rw [List.map_cons, List.map_cons, hname, harn, ih]

theorem atStage_eq_ok_iff {α : Type} {stage : SynthesisStage} {x : Except WiringError α} {a : α} :
    atStage stage x = .ok a ↔ x = .ok a := by
  cases x <;> simp [atStage]

namespace Lambda.Instrumenter

theorem functions_ofSettings {settings defaults : Settings} {options : ValidationOptions}
    {i : Instrumenter} (h : ofSettings settings defaults options = .ok i) : i.functions = [] := by
  obtain ⟨resolved, -, hi⟩ := bind_eq_ok_iff.mp h
  cases hi
  rfl

theorem functions_applyContext {i : Instrumenter} (h : i.functions = []) (context : Dict String) :
    (i.applyContext context).functions = [] := by
  unfold applyContext
  split
  · simp [overrideGit, h]
  · exact h

end Lambda.Instrumenter

namespace Stack

open Lambda (Instrumenter)
open Lambda.Instrumenter

/-- The functions that a stack describes, in their order. -/
def declaredFunctions (s : Stack) : List FunctionEntry :=
  match s.lambda with
  | some part => part.functions
  | none => []

variable {s : Stack} {options : ValidationOptions} {git : GitMetadata} {out : Synthesis}

/-- A section of functions instruments the ones it declares and stores them into nothing. -/
theorem functions_of_synthesizeLambda {part : LambdaSection}
    (h : s.synthesizeLambda part options git = .ok out) :
    ∃ instrumented : List LambdaFunction,
      instrumented.map (fun f => (f.name, some f.arn)) =
        part.functions.map (fun e => (e.name, e.declaredArn? s.account)) ∧
      out.lambdaFunctions = storeAll [] instrumented := by
  obtain ⟨resolved, hresolved, h⟩ := bind_eq_ok_iff.mp h
  obtain ⟨functions, hfunctions, h⟩ := bind_eq_ok_iff.mp h
  obtain ⟨⟨after, found⟩, hadd, h⟩ := bind_eq_ok_iff.mp h
  obtain ⟨groups, -, h⟩ := bind_eq_ok_iff.mp h
  injection h with hout
  let i := (resolved.setGit (s.git.getD git)).applyContext s.context
  have hnone : (resolved.setGit (s.git.getD git)).functions = [] := by
    change resolved.functions = []
    exact functions_ofSettings (atStage_eq_ok_iff.mp hresolved)
  have hnothing : i.functions = [] := functions_applyContext hnone s.context
  have hadd := Outcome.toExcept_eq_ok_iff.mp (atStage_eq_ok_iff.mp hadd)
  obtain ⟨-, -, hafter⟩ := add_eq_ok_iff.mp hadd
  refine ⟨functions.map fun f => (i.instrument f).value, ?_, ?_⟩
  · have hsame (f : LambdaFunction) := i.sameIdentity_instrument f
    rw [← FunctionEntry.map_of_mapM_toFunction hfunctions, List.map_map]
    apply List.map_congr_left
    intro f _
    rw [Function.comp_apply, (hsame f).name, (hsame f).arn]
  · rw [← hout, hafter, ← hnothing]

theorem functions_of_synthesize (h : s.synthesize options git = .ok out) :
    ∃ instrumented : List LambdaFunction,
      instrumented.map (fun f => (f.name, some f.arn)) =
        s.declaredFunctions.map (fun e => (e.name, e.declaredArn? s.account)) ∧
      out.lambdaFunctions = storeAll [] instrumented := by
  obtain ⟨parts, hparts, rfl⟩ := synthesize_eq_ok_iff.mp h
  have hlambda := hparts .lambda
  change ∃ instrumented, _ ∧ (parts .lambda).lambdaFunctions = _
  unfold synthesizeKind at hlambda
  unfold declaredFunctions
  cases hpart : s.lambda with
  | none =>
    rw [hpart] at hlambda
    injection hlambda with hempty
    exact ⟨[], rfl, by rw [← hempty]; rfl⟩
  | some part =>
    rw [hpart] at hlambda
    exact functions_of_synthesizeLambda hlambda

/-- What a synthesis gives for the functions that a stack declares. -/
structure KeepsLastOfEachName (s : Stack) (out : Synthesis) : Prop where
  /-- Each declared name once, where it is declared first. -/
  names : out.lambdaFunctions.map (·.name) = (s.declaredFunctions.map (·.name)).eraseDups
  /-- Under each name the function that is declared last. -/
  arn : ∀ name, (out.lambdaFunctions.find? (·.name == name)).map (fun f => some f.arn) =
    lastValue name (s.declaredFunctions.map fun e => (e.name, e.declaredArn? s.account))
  complete_iff : out.lambdaFunctions.map (fun f => some f.arn) =
    s.declaredFunctions.map (·.declaredArn? s.account) ↔ (s.declaredFunctions.map (·.name)).Nodup

theorem keepsLastOfEachName_of_synthesize (h : s.synthesize options git = .ok out) :
    s.KeepsLastOfEachName out := by
  obtain ⟨instrumented, hdeclared, hout⟩ := functions_of_synthesize h
  have hnames : instrumented.map (·.name) = s.declaredFunctions.map (·.name) := by
    simpa [Function.comp_def] using congrArg (List.map Prod.fst) hdeclared
  have harns : instrumented.map (fun f => some f.arn) =
      s.declaredFunctions.map (·.declaredArn? s.account) := by
    simpa [Function.comp_def] using congrArg (List.map Prod.snd) hdeclared
  have houtNames : out.lambdaFunctions.map (·.name) =
      (s.declaredFunctions.map (·.name)).eraseDups := by
    rw [hout, map_name_storeAll, hnames]
    exact foldl_addOnce_nil _
  refine ⟨houtNames, fun name => ?_, fun hcomplete => ?_, fun hdistinct => ?_⟩
  · rw [hout, find?_storeAll, List.find?_nil, Option.or_none, ← hdeclared, lastNamed,
      ← lastValue_map, List.map_map]
    rfl
  · -- a name that is repeated leaves fewer functions than were declared
    apply nodup_of_length_eraseDups
    have hlength := congrArg List.length hcomplete
    rw [← houtNames]
    simpa using hlength
  · rw [hout, storeAll_of_fresh (hnames ▸ hdistinct) (by simp), List.nil_append, harns]

/-- A stack of functions given by their names and regions. -/
def ofRegions (functions : List (String × String)) : Stack where
  account := some "123456789012"
  lambda := some {
    settings := { addLayers := some false }
    functions := functions.map fun (name, region) =>
      { name := name, region := region, runtime := "nodejs20.x", handler := "index.handler" } }

theorem keepsLastOfEachName_of_two_names :
    let s := ofRegions [("worker", "us-east-1"), ("api", "eu-west-1"), ("api", "us-east-1")]
    ∃ out, s.synthesize {} {} = .ok out ∧
      out.lambdaFunctions.map (·.name) = ["worker", "api"] ∧
      (out.lambdaFunctions.find? (·.name == "api")).map (fun f => some f.arn) =
        some (some "arn:aws:lambda:us-east-1:123456789012:function:api") ∧
      out.lambdaFunctions.map (fun f => some f.arn) ≠
        s.declaredFunctions.map (·.declaredArn? s.account) := by
  intro s
  refine ⟨_, (fun h => ⟨h, ?_⟩) rfl⟩
  have hkeeps := keepsLastOfEachName_of_synthesize h
  exact ⟨hkeeps.names.trans (by decide), (hkeeps.arn "api").trans (by decide),
    fun hcomplete => absurd (hkeeps.complete_iff.mp hcomplete) (by decide)⟩

/-- Of two functions of one name in different regions, only the second is synthesized. -/
theorem synthesize_loses_function_of_repeated_name :
    let s := ofRegions [("api", "us-east-1"), ("api", "eu-west-1")]
    s.declaredFunctions.map (·.declaredArn? s.account) =
      [some "arn:aws:lambda:us-east-1:123456789012:function:api",
        some "arn:aws:lambda:eu-west-1:123456789012:function:api"] ∧
    (s.declaredFunctions.map (·.declaredArn? s.account)).Nodup ∧
    ∃ out, s.synthesize {} {} = .ok out ∧ out.diagnostics = [] ∧
      out.lambdaFunctions.map (·.arn) =
        ["arn:aws:lambda:eu-west-1:123456789012:function:api"] := by
  intro s
  exact ⟨by decide, by decide, _, rfl, by decide, by decide⟩

end Stack
end TelemetryWiring
