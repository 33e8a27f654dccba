import TelemetryWiring.Dict
import TelemetryWiring.Diagnostic
import TelemetryWiring.LogGroup

/-!
Definitions of Lambda functions as they stand before deployment.
-/
namespace TelemetryWiring

inductive Architecture where
  | x86
  | arm
  deriving DecidableEq, Repr

/-- The name of an architecture in definitions. -/
def Architecture.name : Architecture → String
  | .x86 => "x86_64"
  | .arm => "arm64"

/-- A layer version attached to a function. -/
structure LayerReference where
  id : String
  arn : String
  deriving DecidableEq, Repr

structure LambdaFunction where
  name : String
  arn : String
  region : String
  runtime : String
  architecture : Architecture := .x86
  handler : String
  environment : Dict String := .empty
  layers : List LayerReference := []
  tags : Dict String := .empty
  /-- Created the first time it is needed. -/
  logGroup : Option LogGroup := none
  /-- The secrets that the function may read. -/
  secretReadGrants : List String := []
  deriving DecidableEq, Repr

namespace LambdaFunction

/-- A function of an account, its ARN derived from account and region. -/
def ofAccount (name account region runtime handler : String) : LambdaFunction where
  name := name
  arn := "arn:aws:lambda:" ++ region ++ ":" ++ account ++ ":function:" ++ name
  region := region
  runtime := runtime
  handler := handler

def isArm (f : LambdaFunction) : Bool := f.architecture == .arm

/-- Sets an environment variable; the last write wins. -/
def setVariable (f : LambdaFunction) (key value : String) : LambdaFunction :=
  { f with environment := f.environment.insert key value }

/-- Attaches a layer unless one with its ARN is there already. -/
def addLayer (f : LambdaFunction) (layer : LayerReference) : LambdaFunction :=
  if f.layers.any (·.arn == layer.arn) then f else { f with layers := f.layers ++ [layer] }

def addTag (f : LambdaFunction) (key value : String) : LambdaFunction :=
  { f with tags := f.tags.insert key value }

/-- Adds each tag of a list in turn. -/
def addTags (f : LambdaFunction) (tags : List (String × String)) : LambdaFunction :=
  { f with tags := f.tags.insertMany tags }

/-- Lets the function read a secret. -/
def grantSecretRead (f : LambdaFunction) (secretArn : String) : LambdaFunction :=
  if f.secretReadGrants.contains secretArn then f
  else { f with secretReadGrants := f.secretReadGrants ++ [secretArn] }

/-- The function's log group, or the one it is given when it has none. -/
def ownLogGroup (f : LambdaFunction) : LogGroup :=
  f.logGroup.getD { name := "/aws/lambda/" ++ f.name }

/-- What writing an environment variable has to report: a different value that it replaces. Writing
the value that is there already is quiet. -/
def overwriteNote (f : LambdaFunction) (key value : String) : List Diagnostic :=
  match f.environment.get? key with
  | some previous => if previous = value then [] else [.variableOverwritten f.name key previous]
  | none => []

/-- Writes environment variables in turn and reports the values that they replace. -/
def assign (f : LambdaFunction) : List (String × String) → Noted LambdaFunction
  | [] => ⟨f, []⟩
  | (key, value) :: rest =>
    let after := (f.setVariable key value).assign rest
    ⟨after.value, f.overwriteNote key value ++ after.diagnostics⟩

end LambdaFunction
end TelemetryWiring
