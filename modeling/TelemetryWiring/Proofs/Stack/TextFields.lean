import TelemetryWiring.Proofs.Stack.VariableName
import TelemetryWiring.Stack.Description

/-!
The optional texts of a stack that objects lead to, each with the keys on the way, the way in which
it is set, and the name of the variable that is meant to replace it.
-/
namespace TelemetryWiring

/-- A text of a record that may be missing. -/
structure TextField (α : Type) where
  /-- The first of the keys that lead to the text. -/
  key : String
  /-- The keys behind the first, through objects inside one another. -/
  path : List String := []
  set : String → α → α

namespace TextField

variable {α β : Type}

def keys (f : TextField α) : List String := f.key :: f.path

/-- The field in a larger record whose object has the other fields of that record, too. -/
def within (modify : (β → β) → α → α) (f : TextField β) : TextField α where
  key := f.key
  path := f.path
  set v := modify (f.set v)

/-- The field in a larger record that has the smaller one as an object under a key. -/
def under (key : String) (modify : (β → β) → α → α) (f : TextField β) : TextField α where
  key := key
  path := f.keys
  set v := modify (f.set v)

/-- Whether the keys have no letter in upper case. -/
def isLowerCase (f : TextField α) : Bool := f.keys.all fun key => Text.lowerCase key = key

/-- The variable that is meant to replace the text. -/
def variableName (f : TextField α) : String := Override.variableName f.keys

end TextField

open TextField

def SecretRef.textFields : List (TextField SecretRef) :=
  [{ key := "field", set := fun v r => { r with field := some v } }]

def ApiKeySettings.textFields : List (TextField ApiKeySettings) :=
  [{ key := "apiKey", set := fun v s => { s with plain := some v } },
    { key := "apiKeySecretArn", set := fun v s => { s with secretArn := some v } }] ++
  SecretRef.textFields.map (under "apiKeySecret" fun f s => { s with secret := s.secret.map f })

def ServiceIdentity.textFields : List (TextField ServiceIdentity) :=
  [{ key := "env", set := fun v i => { i with env := some v } },
    { key := "service", set := fun v i => { i with service := some v } },
    { key := "version", set := fun v i => { i with version := some v } }]

def GitMetadata.textFields : List (TextField GitMetadata) :=
  [{ key := "commitSha", set := fun v g => { g with commitSha := some v } },
    { key := "repositoryUrl", set := fun v g => { g with repositoryUrl := some v } }]

/-- The layer that is given by its ARN. -/
def LayerPin.textField (stem : String) : TextField LayerPin where
  key := stem ++ "LayerArn"
  set v p := { p with arn := some v }

def LayerPins.textFields : List (TextField LayerPins) :=
  [(LayerPin.textField "python").within fun f p => { p with python := f p.python },
    (LayerPin.textField "node").within fun f p => { p with node := f p.node },
    (LayerPin.textField "java").within fun f p => { p with java := f p.java },
    (LayerPin.textField "dotnet").within fun f p => { p with dotnet := f p.dotnet },
    (LayerPin.textField "ruby").within fun f p => { p with ruby := f p.ruby },
    (LayerPin.textField "extension").within fun f p => { p with extension := f p.extension }]

def TracerSettings.textFields : List (TextField TracerSettings) :=
  [{ key := "logLevel", set := fun v t => { t with logLevel := some v } },
    { key := "coldStartTraceSkipLibs", set := fun v t => { t with coldStartSkipLibs := some v } },
    { key := "apmFlushDeadline", set := fun v t => { t with apmFlushDeadline := some v } },
    { key := "llmObsMlApp", set := fun v t => { t with llmObsMlApp := some v } }]

def Lambda.Settings.textFields : List (TextField Lambda.Settings) :=
  [{ key := "useLayersFromAccount", set := fun v s => { s with layerAccount := some v } },
    { key := "forwarderArn", set := fun v s => { s with forwarderArn := some v } },
    { key := "site", set := fun v s => { s with site := some v } },
    { key := "apiKmsKey", set := fun v s => { s with encryptedApiKey := some v } },
    { key := "tags", set := fun v s => { s with tags := some v } }] ++
  LayerPins.textFields.map (within fun f s => { s with layers := f s.layers }) ++
  ApiKeySettings.textFields.map (within fun f s => { s with apiKeys := f s.apiKeys }) ++
  ServiceIdentity.textFields.map (within fun f s => { s with identity := f s.identity }) ++
  TracerSettings.textFields.map (within fun f s => { s with tracer := f s.tracer })

namespace Fargate

def LogDriverSettings.textFields : List (TextField LogDriverSettings) :=
  [{ key := "hostEndpoint", set := fun v s => { s with hostEndpoint := some v } },
    { key := "tls", set := fun v s => { s with tls := some v } },
    { key := "compress", set := fun v s => { s with compress := some v } },
    { key := "serviceName", set := fun v s => { s with serviceName := some v } },
    { key := "sourceName", set := fun v s => { s with sourceName := some v } },
    { key := "messageKey", set := fun v s => { s with messageKey := some v } }]

def FirelensSettings.textFields : List (TextField FirelensSettings) :=
  [{ key := "configFileType", set := fun v s => { s with configFileType := some v } },
    { key := "configFileValue", set := fun v s => { s with configFileValue := some v } }]

def LogRouterSettings.textFields : List (TextField LogRouterSettings) :=
  [{ key := "registry", set := fun v s => { s with registry := some v } },
    { key := "imageVersion", set := fun v s => { s with imageVersion := some v } }] ++
  LogDriverSettings.textFields.map
    (under "logDriverConfig" fun f s => { s with logDriver := s.logDriver.map f }) ++
  FirelensSettings.textFields.map
    (under "firelensOptions" fun f s => { s with firelens := s.firelens.map f })

def LogCollectionSettings.textFields : List (TextField LogCollectionSettings) :=
  LogRouterSettings.textFields.map
    (under "fluentbitConfig" fun f s => { s with router := s.router.map f })

def ExplorerSettings.textFields : List (TextField ExplorerSettings) :=
  [{ key := "url", set := fun v s => { s with url := some v } }]

def Settings.textFields : List (TextField Settings) :=
  [{ key := "registry", set := fun v s => { s with registry := some v } },
    { key := "imageVersion", set := fun v s => { s with imageVersion := some v } },
    { key := "site", set := fun v s => { s with site := some v } },
    { key := "clusterName", set := fun v s => { s with clusterName := some v } },
    { key := "globalTags", set := fun v s => { s with globalTags := some v } }] ++
  ApiKeySettings.textFields.map (within fun f s => { s with apiKeys := f s.apiKeys }) ++
  ServiceIdentity.textFields.map (within fun f s => { s with identity := f s.identity }) ++
  LogCollectionSettings.textFields.map
    (under "logCollection" fun f s => { s with logCollection := s.logCollection.map f }) ++
  ExplorerSettings.textFields.map
    (under "orchestratorExplorer" fun f s => { s with explorer := s.explorer.map f })

end Fargate

def StepFunctions.Settings.textFields : List (TextField StepFunctions.Settings) :=
  [{ key := "forwarderArn", set := fun v s => { s with forwarderArn := some v } },
    { key := "tags", set := fun v s => { s with tags := some v } }] ++
  ServiceIdentity.textFields.map (within fun f s => { s with identity := f s.identity })

def LambdaSection.textFields : List (TextField LambdaSection) :=
  Lambda.Settings.textFields.map (under "props" fun f s => { s with settings := f s.settings })

def FargateSection.textFields : List (TextField FargateSection) :=
  Fargate.Settings.textFields.map (under "props" fun f s => { s with settings := f s.settings })

def StepFunctionsSection.textFields : List (TextField StepFunctionsSection) :=
  StepFunctions.Settings.textFields.map
    (under "props" fun f s => { s with settings := f s.settings })

def Stack.textFields : List (TextField Stack) :=
  [{ key := "account", set := fun v s => { s with account := some v } }] ++
  GitMetadata.textFields.map (under "git" fun f s => { s with git := s.git.map f }) ++
  LambdaSection.textFields.map (under "lambda" fun f s => { s with lambda := s.lambda.map f }) ++
  FargateSection.textFields.map (under "ecs" fun f s => { s with fargate := s.fargate.map f }) ++
  StepFunctionsSection.textFields.map
    (under "stepFunctions" fun f s => { s with stepFunctions := s.stepFunctions.map f })

/-- Of the texts of a stack, the ones with these keys have no letter in upper case on the way. -/
example :
    (Stack.textFields.filter (·.isLowerCase)).map (·.keys) =
      [["account"], ["lambda", "props", "site"], ["lambda", "props", "tags"],
        ["lambda", "props", "env"], ["lambda", "props", "service"], ["lambda", "props", "version"],
        ["ecs", "props", "registry"], ["ecs", "props", "site"], ["ecs", "props", "env"],
        ["ecs", "props", "service"], ["ecs", "props", "version"]] := by decide +kernel

end TelemetryWiring
