import TelemetryWiring.Call
import TelemetryWiring.Construct
import TelemetryWiring.Lambda.Handler

/-!
Instrumentation of Lambda functions. The instrumenter keeps the functions that it has instrumented,
so that metadata of the source that becomes known later can still be written onto them.
-/
namespace TelemetryWiring

namespace LambdaFunction

/-- Lets the function read the secret that its key comes from. -/
def grantKey (f : LambdaFunction) (c : Lambda.Config) : LambdaFunction :=
  match c.apiKey.bind (·.secretArn?) with
  | some arn => if c.grantSecretRead then f.grantSecretRead arn else f
  | none => f

/-- Subscribes the function's log group to the forwarder, unless the extension ships the logs. -/
def forwardLogs (f : LambdaFunction) (c : Lambda.Config) : LambdaFunction :=
  match c.forwarderArn with
  | some forwarder =>
    if c.usesExtension then f
    else
      { f with
        logGroup := some (f.ownLogGroup.subscribe f.arn forwarder c.createForwarderPermissions) }
  | none => f

/-- The tags on the function itself: the mark of this program, and, for the forwarder to read, the
service's identity and the configured tags that have a value. -/
def tagResource (f : LambdaFunction) (c : Lambda.Config) : LambdaFunction :=
  let marked := f.addTag Construct.tag.1 Construct.tag.2
  if c.forwarderArn.isSome then
    marked.addTags (c.identity.tags ++ (Tags.parse (c.tags.getD "")).valued)
  else marked

end LambdaFunction

namespace Lambda

structure Instrumenter where
  config : Config
  transport : Transport
  /-- Where the source was found to come from. -/
  git : GitMetadata := {}
  /-- What replaces the metadata that was found. -/
  gitOverride : GitMetadata := {}
  /-- The functions added so far, each name once. -/
  functions : List LambdaFunction := []
  /-- Every finding since the settings were resolved. -/
  diagnostics : List Diagnostic := []
  deriving DecidableEq, Repr

namespace Instrumenter

/-- The instrumenter of settings over a caller's defaults. -/
def ofSettings (settings defaults : Settings) (options : ValidationOptions) :
    Except WiringError Instrumenter := do
  let resolved ← settings.resolve defaults options
  return {
    config := resolved.value
    transport := .ofConfig resolved.value
    diagnostics := resolved.diagnostics }

/-- The metadata that is written: an override counts before what was found. -/
def effectiveGit (i : Instrumenter) : GitMetadata := i.gitOverride.orElse i.git

/-- The environment variables that are written in turn, the redirection's aside. -/
def assignments (i : Instrumenter) : List (String × String) :=
  i.config.featureVariables ++ i.config.serviceVariables ++ i.transport.assignments

/-- Wires a function whose library layer is settled: extension, handler, log forwarding, tags and
environment. -/
def wire (i : Instrumenter) (f : LambdaFunction) : Noted LambdaFunction :=
  let c := i.config
  let layered :=
    if c.usesExtension then f.attachExtension c.layers.extension c.layerAccount else f
  let redirected := if c.redirectHandler then layered.redirect c.addLayers else ⟨layered, []⟩
  let tagged := (redirected.value.forwardLogs c).tagResource c
  let assigned := tagged.assign i.assignments
  let git := if c.sourceCodeIntegration then i.effectiveGit else {}
  ⟨assigned.value.writeTags c git, redirected.diagnostics ++ assigned.diagnostics⟩

/-- Instruments a function. One whose library layer is not pinned is left unwired. -/
def instrument (i : Instrumenter) (f : LambdaFunction) : Noted LambdaFunction :=
  let granted := f.grantKey i.config
  if i.config.addLayers then
    match granted.attachLibrary i.config.layers i.config.layerAccount with
    | .applied layered => i.wire layered
    | .skipped note =>
      let wired := i.wire granted
      ⟨wired.value, note :: wired.diagnostics⟩
    | .missing note => ⟨granted, [note]⟩
  else i.wire granted

/-- Places a function where one of its name stands, or at the end. -/
def store (f : LambdaFunction) : List LambdaFunction → List LambdaFunction
  | [] => [f]
  | g :: rest => if g.name = f.name then f :: rest else g :: store f rest

/-- Instruments a function and keeps it. Answers the findings. -/
def keep (f : LambdaFunction) : Call Instrumenter (List Diagnostic) := do
  let i ← get
  let result := i.instrument f
  set { i with functions := store result.value i.functions }
  return result.diagnostics

/-- Instruments and keeps functions one after the other. -/
def keepAll : List LambdaFunction → Call Instrumenter (List Diagnostic)
  | [] => return []
  | f :: rest => do
    let found ← keep f
    return found ++ (← keepAll rest)

/-- Instruments functions and keeps them, once all of them are known to be able to read the key.
Answers the findings of this call. -/
def add (i : Instrumenter) (functions : List LambdaFunction) :
    Outcome Instrumenter (List Diagnostic) :=
  EStateM.run (do
    functions.forM fun f => do ofExcept ((← get).transport.check f)
    let found ← keepAll functions
    modify fun i => { i with diagnostics := i.diagnostics ++ found }
    return found) i

/-- The function of a name. -/
def function? (i : Instrumenter) (name : String) : Option LambdaFunction :=
  i.functions.find? (·.name == name)

/-- Sets where the source was found to come from. -/
def setGit (i : Instrumenter) (git : GitMetadata) : Instrumenter := { i with git := git }

/-- Writes the metadata in force onto every function kept. -/
def writeGit (i : Instrumenter) : Instrumenter :=
  { i with functions := i.functions.map (·.writeGitTags i.effectiveGit) }

/-- Replaces the commit and, if one is given, the repository, for functions added later and for
those kept that carry tags. Empty texts replace nothing. -/
def overrideGit (i : Instrumenter) (sha : String) (url : Option String) : Instrumenter :=
  let given : GitMetadata :=
    { commitSha := if sha = "" then none else some sha
      repositoryUrl := url.filter (· ≠ "") }
  { i with
    gitOverride := given.orElse i.gitOverride
    functions := i.functions.map fun f =>
      if f.environment.contains "DD_TAGS" then f.writeGitTags given else f }

/-- The key under which the context of a deployment names a commit. -/
def shaContextKey : String := "datadog-lambda.git-commit-sha-override"

/-- Takes a commit from the context of the deployment. -/
def applyContext (i : Instrumenter) (context : Dict String) : Instrumenter :=
  match context.get? shaContextKey with
  | some sha => i.overrideGit sha none
  | none => i

/-- Subscribes log groups that belong to no function, where they stand. -/
def forwardLogGroups (i : Instrumenter) (groups : List LogGroup) : Outcome (List LogGroup) Unit :=
  EStateM.run (do
    let groups ← get
    if groups.isEmpty then return
    let some forwarder := i.config.forwarderArn
      | throw (.forwarder (.logGroupsWithoutForwarder groups.length))
    set (subscribeAll groups forwarder i.config.createForwarderPermissions)) groups

end Instrumenter
end Lambda
end TelemetryWiring
