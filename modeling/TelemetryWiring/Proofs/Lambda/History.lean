import TelemetryWiring.Proofs.Lambda.Retag

/-!
Runs of an instrumenter. Beside the run a history is kept: under each name the function that was
last supplied, the instrumenter that met it, and the overrides since. An addition that is refused
adds nothing to it. What is owned is always what the history says.
-/
namespace TelemetryWiring.Lambda

/-- What is asked of an instrumenter over time. -/
inductive Request where
  | add (functions : List LambdaFunction)
  | overrideGit (sha : String) (url : Option String)
  | applyContext (context : Dict String)
  | setGit (git : GitMetadata)

namespace Instrumenter

/-- The instrumenter after a request. -/
def serve (i : Instrumenter) : Request → Instrumenter
  | .add functions => (i.add functions).state
  | .overrideGit sha url => i.overrideGit sha url
  | .applyContext context => i.applyContext context
  | .setGit git => i.setGit git

/-- The instrumenter after requests one after the other. -/
def run (i : Instrumenter) (requests : List Request) : Instrumenter := requests.foldl serve i

/-- An addition, accepted or not, changes nothing but what is owned and what was found. -/
theorem serve_add_eq (i : Instrumenter) (functions : List LambdaFunction) :
    i.serve (.add functions) =
      { i with
        functions := (i.serve (.add functions)).functions
        diagnostics := (i.serve (.add functions)).diagnostics } := by
  unfold serve
  dsimp only
  cases hadd : i.add functions with
  | ok found i' =>
    obtain ⟨-, -, rfl⟩ := add_eq_ok_iff.mp hadd
    rfl
  | error e i' =>
    cases unchanged_of_add_eq_error hadd
    rfl

theorem serve_transport (i : Instrumenter) (request : Request) :
    (i.serve request).transport = i.transport := by
  cases request with
  | add functions => rw [serve_add_eq]
  | applyContext context =>
    simp only [serve, applyContext]
    split <;> rfl
  | overrideGit sha url => rfl
  | setGit git => rfl

theorem run_transport (i : Instrumenter) (requests : List Request) :
    (i.run requests).transport = i.transport := by
  induction requests generalizing i with
  | nil => rfl
  | cons request requests ih => exact (ih _).trans (i.serve_transport request)

/-- The last function that was supplied under a name. -/
structure Supply where
  function : LambdaFunction
  /-- The instrumenter that it was added to. -/
  receiver : Instrumenter
  /-- What the overrides since then gave. -/
  overrides : List GitMetadata := []

/-- What is supplied, once it is instrumented and the overrides since are written onto it. -/
def Supply.owned (s : Supply) : LambdaFunction :=
  (s.receiver.instrument s.function).value.retagAll s.overrides

def Supply.override (s : Supply) (given : GitMetadata) : Supply :=
  { s with overrides := s.overrides ++ [given] }

/-- What was last supplied under each name. -/
abbrev History := String → Option Supply

/-- The history after functions were accepted by an instrumenter. -/
def History.supply (history : History) (functions : List LambdaFunction) (i : Instrumenter) :
    History := fun name =>
  ((lastNamed name functions).map fun f => { function := f, receiver := i }).or (history name)

/-- The history after an override. -/
def History.override (history : History) (given : GitMetadata) : History := fun name =>
  (history name).map (·.override given)

/-- The history after a request. -/
def record (i : Instrumenter) (history : History) : Request → History
  | .add functions =>
    match i.add functions with
    | .ok .. => history.supply functions i
    | .error .. => history
  | .overrideGit sha url => history.override (.ofOverride sha url)
  | .applyContext context =>
    match context.get? shaContextKey with
    | some sha => history.override (.ofOverride sha none)
    | none => history
  | .setGit _ => history

/-- The history of requests, after an earlier one. -/
def historyFrom (i : Instrumenter) (history : History) : List Request → History
  | [] => history
  | request :: rest => historyFrom (i.serve request) (i.record history request) rest

/-- The history of requests to a new instrumenter. -/
def history (i : Instrumenter) (requests : List Request) : History :=
  i.historyFrom (fun _ => none) requests

/-- A history that tells what an instrumenter owns. -/
structure Tracks (c : Config) (i : Instrumenter) (history : History) : Prop where
  config : i.config = c
  owned : ∀ name, i.function? name = (history name).map (·.owned)
  receiver : ∀ name s, history name = some s → s.receiver.config = c
  name : ∀ name s, history name = some s → s.function.name = name

variable {c : Config} {i : Instrumenter} {history : History}

theorem Tracks.supply (h : Tracks c i history) {functions : List LambdaFunction}
    {i' : Instrumenter} {found : List Diagnostic} (hadd : i.add functions = .ok found i') :
    Tracks c i' (history.supply functions i) := by
  have hsupply (name : String) (s : Supply) (hs : history.supply functions i name = some s) :
      (∃ f, lastNamed name functions = some f ∧ s = { function := f, receiver := i }) ∨
        history name = some s := by
    unfold History.supply at hs
    cases hlast : lastNamed name functions with
    | none =>
      rw [hlast] at hs
      exact .inr hs
    | some f =>
      rw [hlast] at hs
      exact .inl ⟨f, rfl, (Option.some.inj hs).symm⟩
  constructor
  case config =>
    obtain ⟨-, -, rfl⟩ := add_eq_ok_iff.mp hadd
    exact h.config
  case owned =>
    intro name
    rw [function?_of_add hadd, h.owned, History.supply, Option.map_or, Option.map_map]
    rfl
  case receiver =>
    intro name s hs
    rcases hsupply name s hs with ⟨f, -, rfl⟩ | hs
    · exact h.config
    · exact h.receiver name s hs
  case name =>
    intro name s hs
    rcases hsupply name s hs with ⟨f, hlast, rfl⟩ | hs
    · exact (name_of_lastNamed hlast).2
    · exact h.name name s hs

theorem Tracks.override (h : Tracks c i history) (sha : String) (url : Option String) :
    Tracks c (i.overrideGit sha url) (history.override (.ofOverride sha url)) := by
  constructor
  case config => exact h.config
  case owned =>
    intro name
    rw [function?_overrideGit, h.owned, History.override, Option.map_map, Option.map_map]
    congr 1
    funext s
    exact (List.foldl_concat ..).symm
  case receiver =>
    intro name s hs
    obtain ⟨s', hs', rfl⟩ := Option.map_eq_some_iff.mp hs
    exact h.receiver name s' hs'
  case name =>
    intro name s hs
    obtain ⟨s', hs', rfl⟩ := Option.map_eq_some_iff.mp hs
    exact h.name name s' hs'

/-- Every request keeps the history true. -/
theorem Tracks.serve (h : Tracks c i history) (request : Request) :
    Tracks c (i.serve request) (i.record history request) := by
  cases request with
  | add functions =>
    cases hadd : i.add functions with
    | error e i' =>
      cases unchanged_of_add_eq_error hadd
      simpa only [Instrumenter.serve, record, hadd, Outcome.state] using h
    | ok found i' =>
      simpa only [Instrumenter.serve, record, hadd, Outcome.state] using h.supply hadd
  | overrideGit sha url => exact h.override sha url
  | setGit git => exact ⟨h.config, h.owned, h.receiver, h.name⟩
  | applyContext context =>
    simp only [Instrumenter.serve, applyContext, record]
    cases context.get? shaContextKey with
    | none => exact h
    | some sha => exact h.override sha none

theorem Tracks.run (h : Tracks c i history) (requests : List Request) :
    Tracks c (i.run requests) (i.historyFrom history requests) := by
  induction requests generalizing i history with
  | nil => exact h
  | cons request requests ih => exact ih (h.serve request)

theorem tracks_of_ofSettings {settings defaults : Settings} {options : ValidationOptions}
    (h : ofSettings settings defaults options = .ok i) :
    Tracks i.config i (fun _ => none) := by
  obtain ⟨resolved, -, h⟩ := bind_eq_ok_iff.mp h
  cases h
  exact ⟨rfl, fun _ => rfl, by simp, by simp⟩

/-- After any requests to a new instrumenter, what is owned is what the history says. -/
theorem tracks_run {settings defaults : Settings} {options : ValidationOptions}
    (h : ofSettings settings defaults options = .ok i) (requests : List Request) :
    Tracks i.config (i.run requests) (i.history requests) :=
  (tracks_of_ofSettings h).run requests

end Instrumenter
end TelemetryWiring.Lambda
