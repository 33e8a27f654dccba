import TelemetryWiring.Proofs.Lambda.Overwrites
import TelemetryWiring.Proofs.Lambda.Redaction
import TelemetryWiring.Proofs.Stack.Functions

/-!
What findings tell about a key that a function brings along. A plain key that is configured is
written over it, as the last of all variables, and like every value that is replaced the old key is
reported. The report is the one place where it shows: functions that differ in nothing else are
accepted alike, and all other findings are the same.
-/
namespace TelemetryWiring

namespace LambdaFunction

/-- Writes do not look at variables that they do not write. -/
theorem diagnostics_assign_setVariable {writes : List (String × String)} {key : String}
    (h : key ∉ writes.map (·.1)) (f : LambdaFunction) (value : String) :
    ((f.setVariable key value).assign writes).diagnostics = (f.assign writes).diagnostics := by
  induction writes generalizing f with
  | nil => rfl
  | cons e writes ih =>
    rw [List.map_cons, List.mem_cons, not_or] at h
    have hnote : (f.setVariable key value).overwriteNote e.1 e.2 = f.overwriteNote e.1 e.2 := by
      unfold overwriteNote
      rw [get?_setVariable, if_neg h.1]
      rfl
    have hswap : ((f.setVariable key value).setVariable e.1 e.2).environment =
        ((f.setVariable e.1 e.2).setVariable key value).environment := by
      apply Dict.ext_get?
      intro other
      rw [get?_setVariable, get?_setVariable, get?_setVariable, get?_setVariable]
      grind
    change (f.setVariable key value).overwriteNote e.1 e.2 ++
      (((f.setVariable key value).setVariable e.1 e.2).assign writes).diagnostics =
        f.overwriteNote e.1 e.2 ++ ((f.setVariable e.1 e.2).assign writes).diagnostics
    rw [hnote, ← ih h.2 (f.setVariable e.1 e.2)]
    refine congrArg (f.overwriteNote e.1 e.2 ++ ·) ?_
    apply diagnostics_assign_congr
    · rfl
    · exact hswap

/-- A value that is written over another one at last is the last that is reported. -/
theorem diagnostics_assign_concat_over {f : LambdaFunction} {writes : List (String × String)}
    {key carried value : String} (hcarried : f.environment.get? key = some carried)
    (hwrites : key ∉ writes.map (·.1)) (hne : carried ≠ value) :
    (f.assign (writes ++ [(key, value)])).diagnostics =
      (f.assign writes).diagnostics ++ [.variableOverwritten f.name key carried] := by
  have hkept : (f.assign writes).value.environment.get? key = some carried := by
    rw [assign_value]
    dsimp only
    rw [Dict.get?_insertMany, lastValue_eq_none_iff.mpr hwrites, hcarried]
    rfl
  have hname : (f.assign writes).value.name = f.name := by rw [assign_value]
  rw [assign_append]
  refine congrArg ((f.assign writes).diagnostics ++ ·) ?_
  simp [assign, overwriteNote, hkept, hne, hname]

end LambdaFunction

namespace Lambda

/-- What is reported about a key that a function brings along: its value, unless the function is
skipped. -/
def Config.keyNotes (c : Config) (name runtime carried : String) : List Diagnostic :=
  if c.addLayers && (c.layers.library? (.ofRuntime runtime)).any (!·.isSet) then []
  else [.variableOverwritten name "DD_API_KEY" carried]

namespace Instrumenter

variable {i : Instrumenter} {key : String}

theorem diagnostics_library_congr {f g : LambdaFunction} (h : g.SameIdentity f) :
    (i.library g).diagnostics = (i.library f).diagnostics := by
  obtain ⟨notes, -, hcase | ⟨layer, hcase⟩⟩ := i.library_cases f <;>
    rw [hcase g h, hcase f (.refl f)]

/-- All but the last finding about a function are the same whatever key it brings along. -/
theorem exists_diagnostics_instrument (hplain : i.transport.apiKey = some (.plain key))
    (f : LambdaFunction) :
    ∃ ahead, ∀ carried, carried ≠ key →
      (i.instrument (f.setVariable "DD_API_KEY" carried)).diagnostics =
        ahead ++ i.config.keyNotes f.name f.runtime carried := by
  have hskipsSame (carried : String) :
      i.config.skips (f.setVariable "DD_API_KEY" carried) = i.config.skips f := rfl
  have hnotes (carried : String) : i.config.keyNotes f.name f.runtime carried =
      if i.config.skips f then [] else [.variableOverwritten f.name "DD_API_KEY" carried] := rfl
  cases hskips : i.config.skips f with
  | true =>
    refine ⟨[f.missingNote], fun carried _ => ?_⟩
    rw [instrument_of_skips ((hskipsSame carried).trans hskips), hnotes, hskips]
    rfl
  | false =>
    let earlier := (i.redirection f).2 ++ i.keylessAssignments
    have hearlier : "DD_API_KEY" ∉ earlier.map (·.1) := by
      rw [List.map_append, List.mem_append, not_or]
      exact ⟨i.not_mem_keys_redirection f, i.not_mem_keys_keylessAssignments hplain⟩
    refine ⟨(i.library f).diagnostics ++ (f.assign earlier).diagnostics, ?_⟩
    intro carried hcarried
    have hwrites : i.writes (f.setVariable "DD_API_KEY" carried) =
        earlier ++ [("DD_API_KEY", key)] := by
      change (i.redirection f).2 ++ i.assignments = _
      rw [assignments_eq, hplain, ← List.append_assoc]
      rfl
    have hlibrary : (i.library ((f.setVariable "DD_API_KEY" carried).grantKey
        i.config)).diagnostics = (i.library f).diagnostics := by
      apply diagnostics_library_congr
      exact (sameIdentity_grantKey _ _).trans ⟨rfl, rfl, rfl, rfl, rfl⟩
    have hcarries : (f.setVariable "DD_API_KEY" carried).environment.get? "DD_API_KEY" =
        some carried := by rw [LambdaFunction.get?_setVariable, if_pos rfl]
    rw [diagnostics_instrument ((hskipsSame carried).trans hskips), hwrites, hlibrary,
      LambdaFunction.diagnostics_assign_concat_over hcarries hearlier hcarried,
      LambdaFunction.diagnostics_assign_setVariable hearlier, hnotes, hskips, List.append_assoc]
    rfl

/-- Where the key is in plain text, every function can read it. -/
theorem check_of_plain (hplain : i.transport.apiKey = some (.plain key)) (f : LambdaFunction) :
    i.transport.check f = .ok () := by
  have hsecret : i.transport.secretArn? = none := by
    rw [Transport.secretArn?, hplain]
    rfl
  unfold Transport.check
  rw [hsecret]
  simp

theorem forwardLogGroups_congr {i j : Instrumenter} (h : i.config = j.config)
    (groups : List LogGroup) : i.forwardLogGroups groups = j.forwardLogGroups groups := by
  unfold forwardLogGroups
  rw [h]

theorem apiKey_transport_run {settings defaults : Settings} {options : ValidationOptions}
    (hnew : ofSettings settings defaults options = .ok i)
    (hplain : i.config.apiKey = some (.plain key)) (requests : List Request) :
    (i.run requests).transport.apiKey = some (.plain key) := by
  rw [run_transport, ← hplain]
  obtain ⟨resolved, -, rfl⟩ := exists_resolved_of_ofSettings hnew
  rfl

theorem exists_add_of_plain (hplain : i.transport.apiKey = some (.plain key))
    (functions : List LambdaFunction) :
    ∃ i', i.add functions = .ok (functions.flatMap fun f => (i.instrument f).diagnostics) i' ∧
      i'.config = i.config :=
  ⟨_, add_eq_ok_iff.mpr ⟨fun f _ => check_of_plain hplain f, rfl, rfl⟩, rfl⟩

/-- Functions of which one brings a key along are accepted whatever it is, and the findings are the
same but for what is reported about this key. -/
theorem exists_add_of_carried (hplain : i.transport.apiKey = some (.plain key))
    (before : List LambdaFunction) (f : LambdaFunction) (after : List LambdaFunction) :
    ∃ ahead behind, ∀ carried, carried ≠ key → ∃ i',
      i.add (before ++ f.setVariable "DD_API_KEY" carried :: after) =
          .ok (ahead ++ i.config.keyNotes f.name f.runtime carried ++ behind) i' ∧
        i'.config = i.config := by
  obtain ⟨notes, hnotes⟩ := exists_diagnostics_instrument hplain f
  refine ⟨before.flatMap (fun g => (i.instrument g).diagnostics) ++ notes,
    after.flatMap fun g => (i.instrument g).diagnostics, fun carried hcarried => ?_⟩
  obtain ⟨i', hadd, hconfig⟩ := exists_add_of_plain hplain
    (before ++ f.setVariable "DD_API_KEY" carried :: after)
  refine ⟨i', hadd.trans ?_, hconfig⟩
  rw [List.flatMap_append, List.flatMap_cons, hnotes carried hcarried]
  simp only [List.append_assoc]

end Instrumenter
end Lambda

/-- The entry with a variable set in its environment. -/
def FunctionEntry.setVariable (e : FunctionEntry) (key value : String) : FunctionEntry :=
  { e with environment := e.environment.insert key value }

theorem FunctionEntry.toFunction_setVariable (e : FunctionEntry) (key value : String)
    (stackAccount : Option String) :
    (e.setVariable key value).toFunction stackAccount =
      (e.toFunction stackAccount).map (·.setVariable key value) := by
  unfold toFunction
  rw [map_of_bind]
  rfl

theorem FunctionEntry.runtime_of_toFunction {e : FunctionEntry} {stackAccount : Option String}
    {f : LambdaFunction} (h : e.toFunction stackAccount = .ok f) : f.runtime = e.runtime := by
  obtain ⟨account, -, hf⟩ := bind_eq_ok_iff.mp h
  cases hf
  rfl

namespace Stack

open Lambda (Instrumenter)
open Lambda.Instrumenter

/-- The stack with other functions in its section of functions. -/
def withFunctions (s : Stack) (part : LambdaSection) (functions : List FunctionEntry) : Stack :=
  { s with lambda := some { part with functions := functions } }

/-- The findings of the sections after the functions. -/
def laterFindings (s : Stack) (options : ValidationOptions) :
    Except SynthesisError (List String) := do
  let fargate ← synthesizeSection (·.synthesize options) s.fargate
  let _ ← synthesizeSection (s.synthesizeStepFunctions · options) s.stepFunctions
  let _ ← synthesizeSection (fun g => .ok g.synthesize) s.gateway
  return fargate.diagnostics

variable {s : Stack} {part : LambdaSection} {options : ValidationOptions} {git : GitMetadata}

theorem diagnostics_synthesize_withFunctions (functions : List FunctionEntry) :
    ((s.withFunctions part functions).synthesize options git).map (·.diagnostics) =
      (((s.withFunctions part functions).synthesizeLambda { part with functions := functions }
        options git).map (·.diagnostics)) >>= fun found =>
          (s.laterFindings options).map (found ++ ·) := by
  unfold synthesize laterFindings
  simp only [map_of_bind, bind_of_map]
  rfl

/-- Entries of which one has a variable set describe the same functions as without it, but for the
variable on one of them. -/
theorem mapM_toFunction_setVariable (before after : List FunctionEntry) (e : FunctionEntry)
    (stackAccount : Option String) :
    ∃ described :
        Except SynthesisError (List LambdaFunction × LambdaFunction × List LambdaFunction),
      (∀ b f a, described = .ok (b, f, a) → f.name = e.name ∧ f.runtime = e.runtime) ∧
      ∀ key value, (before ++ e.setVariable key value :: after).mapM (·.toFunction stackAccount) =
        described.map fun (b, f, a) => b ++ f.setVariable key value :: a := by
  let describe (entries : List FunctionEntry) := entries.mapM (·.toFunction stackAccount)
  refine ⟨describe before >>= fun b => e.toFunction stackAccount >>= fun f =>
    describe after >>= fun a => .ok (b, f, a), ?_, ?_⟩
  · intro b f a h
    obtain ⟨b, -, h⟩ := bind_eq_ok_iff.mp h
    obtain ⟨f, hf, h⟩ := bind_eq_ok_iff.mp h
    obtain ⟨a, -, h⟩ := bind_eq_ok_iff.mp h
    cases h
    exact ⟨(FunctionEntry.toFunction_eq_ok hf).1, FunctionEntry.runtime_of_toFunction hf⟩
  · intro key value
    rw [List.mapM_append, List.mapM_cons, FunctionEntry.toFunction_setVariable]
    simp only [map_of_bind, bind_of_map, bind_assoc, pure_bind]
    rfl

theorem exists_findings_synthesizeLambda (s : Stack) (git : GitMetadata)
    {i : Lambda.Instrumenter} {key : String}
    (hnew : Lambda.Instrumenter.ofSettings part.settings {} options = .ok i)
    (hplain : i.config.apiKey = some (.plain key)) (before : List FunctionEntry) (e : FunctionEntry)
    (after : List FunctionEntry) :
    ∃ findings : Except SynthesisError (List String × List String), ∀ carried, carried ≠ key →
      (s.synthesizeLambda
          { part with functions := before ++ e.setVariable "DD_API_KEY" carried :: after }
          options git).map (·.diagnostics) =
        findings.map fun (ahead, behind) =>
          ahead ++ (i.config.keyNotes e.name e.runtime carried).map (·.message) ++ behind := by
  let j := i.run [.setGit (s.git.getD git), .applyContext s.context]
  let groups := part.logGroups.map fun name => LogGroup.mk name []
  have hconfig : j.config = i.config := (tracks_run hnew _).config
  have hkey : j.transport.apiKey = some (.plain key) := apiKey_transport_run hnew hplain _
  have hsynthesize (functions : List FunctionEntry) :
      (s.synthesizeLambda { part with functions := functions } options git).map (·.diagnostics) =
        functions.mapM (·.toFunction s.account) >>= fun described =>
          atStage .lambdaFunctions (j.add described).toExcept >>= fun answer =>
            (atStage .logGroups (answer.1.forwardLogGroups groups).toExcept).map fun _ =>
              (j.diagnostics ++ answer.2).map (·.message) := by
    unfold synthesizeLambda
    rw [hnew]
    simp only [map_of_bind]
    rfl
  obtain ⟨described, hsame, hdescribed⟩ := mapM_toFunction_setVariable before after e s.account
  cases described with
  | error problem =>
    refine ⟨.error problem, fun carried _ => ?_⟩
    rw [hsynthesize, hdescribed]
    rfl
  | ok described =>
    obtain ⟨b, f, a⟩ := described
    obtain ⟨hname, hruntime⟩ := hsame b f a rfl
    obtain ⟨ahead, behind, hadd⟩ := exists_add_of_carried hkey b f a
    refine ⟨(atStage .logGroups (j.forwardLogGroups groups).toExcept).map fun _ =>
      ((j.diagnostics ++ ahead).map (·.message), behind.map (·.message)), ?_⟩
    intro carried hcarried
    obtain ⟨i', hadd, hi'⟩ := hadd carried hcarried
    rw [hconfig, hname, hruntime] at hadd
    rw [hsynthesize, hdescribed]
    change atStage .lambdaFunctions (j.add _).toExcept >>= _ = _
    rw [hadd]
    change (atStage .logGroups (i'.forwardLogGroups groups).toExcept).map _ = _
    rw [forwardLogGroups_congr hi']
    cases atStage .logGroups (j.forwardLogGroups groups).toExcept with
    | error problem => rfl
    | ok groups =>
      change Except.ok _ = Except.ok _
      simp

end Stack

/-- Under a plain key, functions are accepted alike whatever key one of them brings along. The
findings are the same up to one report of that key, and so are the lines of a synthesis, which is
refused alike where it is refused. Where the function is skipped there is no such report. -/
theorem findings_of_carried_key (key : String) :
    (∀ (settings defaults : Lambda.Settings) (options : ValidationOptions)
      (i : Lambda.Instrumenter),
      Lambda.Instrumenter.ofSettings settings defaults options = .ok i →
      i.config.apiKey = some (.plain key) →
      ∀ (requests : List Lambda.Request) (before : List LambdaFunction) (f : LambdaFunction)
        (after : List LambdaFunction), ∃ ahead behind, ∀ carried, carried ≠ key →
          ∃ i', (i.run requests).add (before ++ f.setVariable "DD_API_KEY" carried :: after) =
            .ok (ahead ++ i.config.keyNotes f.name f.runtime carried ++ behind) i') ∧
    (∀ (s : Stack) (part : LambdaSection) (options : ValidationOptions) (git : GitMetadata)
      (i : Lambda.Instrumenter),
      Lambda.Instrumenter.ofSettings part.settings {} options = .ok i →
      i.config.apiKey = some (.plain key) →
      ∀ (before : List FunctionEntry) (e : FunctionEntry) (after : List FunctionEntry),
        ∃ findings : Except SynthesisError (List String × List String),
          ∀ carried, carried ≠ key →
            let functions := before ++ e.setVariable "DD_API_KEY" carried :: after
            ((s.withFunctions part functions).synthesize options git).map (·.diagnostics) =
              findings.map fun (ahead, behind) =>
                ahead ++ (i.config.keyNotes e.name e.runtime carried).map (·.message) ++ behind)
    := by
  constructor
  · intro settings defaults options i hnew hplain requests before f after
    have hconfig : (i.run requests).config = i.config :=
      (Lambda.Instrumenter.tracks_run hnew requests).config
    have hkey := Lambda.Instrumenter.apiKey_transport_run hnew hplain requests
    obtain ⟨ahead, behind, hadd⟩ :=
      Lambda.Instrumenter.exists_add_of_carried hkey before f after
    refine ⟨ahead, behind, fun carried hcarried => ?_⟩
    obtain ⟨i', hadd, -⟩ := hadd carried hcarried
    rw [hconfig] at hadd
    exact ⟨i', hadd⟩
  · intro s part options git i hnew hplain before e after
    obtain ⟨found, hfound⟩ :=
      Stack.exists_findings_synthesizeLambda s git hnew hplain before e after
    refine ⟨found >>= fun (ahead, behind) =>
      (s.laterFindings options).map fun later => (ahead, behind ++ later), ?_⟩
    intro carried hcarried functions
    rw [Stack.diagnostics_synthesize_withFunctions]
    change ((s.synthesizeLambda _ options git).map _ >>= _) = _
    rw [hfound carried hcarried, bind_of_map, map_of_bind]
    refine bind_congr fun parts => ?_
    cases s.laterFindings options with
    | error problem => rfl
    | ok later =>
      change Except.ok _ = Except.ok _
      simp

/-- A key that is reported, and one that is not, as its function is skipped. -/
theorem findings_of_carried_key_of_two_runtimes :
    let settings : Lambda.Settings :=
      { apiKeys := { plain := some "new" }, layers := { python := { version := some 100 } } }
    let s : Stack := { account := some "123456789012" }
    let e : FunctionEntry :=
      { name := "thumbs", region := "us-east-1", runtime := "nodejs20.x", handler := "index.run" }
    (∃ i, Lambda.Instrumenter.ofSettings settings {} {} = .ok i ∧
      ∃ i' ahead behind, (i.run []).add
          [(LambdaFunction.ofAccount "fn" "123456789012" "us-east-1" "python3.12"
            "app.run").setVariable "DD_API_KEY" "old"] =
        .ok (ahead ++ [.variableOverwritten "fn" "DD_API_KEY" "old"] ++ behind) i') ∧
    ∃ lines, ((s.withFunctions { settings := settings }
          [e.setVariable "DD_API_KEY" "old"]).synthesize {} {}).map (·.diagnostics) = .ok lines ∧
      ((s.withFunctions { settings := settings }
          [e.setVariable "DD_API_KEY" "older"]).synthesize {} {}).map (·.diagnostics) =
        .ok lines := by
  dsimp only
  obtain ⟨hadd, hsynthesize⟩ := findings_of_carried_key "new"
  constructor
  · refine ⟨_, (fun hnew => ⟨hnew, ?_⟩) rfl⟩
    obtain ⟨ahead, behind, hfound⟩ := hadd _ _ _ _ hnew rfl [] []
      (.ofAccount "fn" "123456789012" "us-east-1" "python3.12" "app.run") []
    obtain ⟨i', hfound⟩ := hfound "old" (by decide)
    exact ⟨i', ahead, behind, hfound⟩
  · obtain ⟨findings, hfindings⟩ := hsynthesize { account := some "123456789012" }
      { settings :=
          { apiKeys := { plain := some "new" }, layers := { python := { version := some 100 } } } }
      {} {} _ rfl rfl []
      { name := "thumbs", region := "us-east-1", runtime := "nodejs20.x", handler := "index.run" }
      []
    have hsame := (hfindings "older" (by decide)).trans (hfindings "old" (by decide)).symm
    refine ⟨_, (fun hlines => ⟨hlines, ?_⟩) rfl⟩
    exact hsame.trans hlines

/-- The findings tell apart two runs that differ in the key that the function brings along. -/
theorem carried_key_shows_in_findings :
    ∃ i, Lambda.Instrumenter.ofSettings
        { apiKeys := { plain := some "new" }, layers := { python := { version := some 100 } } }
        {} {} = .ok i ∧
      i.config.apiKey = some (.plain "new") ∧
      ∃ f, f = LambdaFunction.ofAccount "fn" "123456789012" "us-east-1" "python3.12" "app.run" ∧
        ∃ i₁ found₁ i₂ found₂, i.add [f.setVariable "DD_API_KEY" "old1"] = .ok found₁ i₁ ∧
          i.add [f.setVariable "DD_API_KEY" "old2"] = .ok found₂ i₂ ∧ found₁ ≠ found₂ := by
  refine ⟨_, rfl, rfl, _, rfl, _, _, _, _, rfl, rfl, ?_⟩
  decide +kernel

end TelemetryWiring
