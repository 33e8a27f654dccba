import TelemetryWiring.ApiKey
import TelemetryWiring.Cardinality
import TelemetryWiring.Git
import TelemetryWiring.Identity
import TelemetryWiring.Json.Codec
import TelemetryWiring.LogGroup

/-!
The JSON forms of keys, log groups, metadata and the other values that all kinds of resources share.
-/
namespace TelemetryWiring

instance : Decode SecretRef where
  decode? j := do
    let fields ← j.fields?
    return {
      secretArn := ← fields.required "secretArn"
      field := ← fields.optional "field" }

instance : Encode SecretRef where
  encode r := .object (("secretArn", encode r.secretArn) :: Json.present "field" r.field)

/-- The word that tells the sources of a key apart. -/
def ApiKeySource.typeName : ApiKeySource → String
  | .plain _ => "plain"
  | .secret _ => "secret"
  | .secretArn _ => "secretArn"
  | .kmsEncrypted _ => "kmsEncrypted"

instance : Decode ApiKeySource where
  decode? j := do
    let fields ← j.fields?
    let typeName : String ← fields.required "type"
    if typeName = "plain" then return .plain (← fields.required "value")
    else if typeName = "secret" then return .secret (← fields.required "value")
    else if typeName = "secretArn" then return .secretArn (← fields.required "value")
    else if typeName = "kmsEncrypted" then return .kmsEncrypted (← fields.required "value")
    else none

instance : Encode ApiKeySource where
  encode source :=
    let value := match source with
      | .plain key => encode key
      | .secret ref => encode ref
      | .secretArn arn => encode arn
      | .kmsEncrypted ciphertext => encode ciphertext
    .object [("type", encode source.typeName), ("value", value)]

/-- A level is read from any value: what names no level counts as the usual one. -/
instance : Decode Cardinality where
  decode? j := do
    match ← j.stored? with
    | .str s => return (Cardinality.ofName? s).getD default
    | _ => return default

instance : Encode Cardinality := ⟨fun level => encode level.name⟩

instance : Decode GitMetadata where
  decode? j := do
    let fields ← j.fields?
    return {
      commitSha := ← fields.optional "commitSha"
      repositoryUrl := ← fields.optional "repositoryUrl" }

instance : Encode GitMetadata where
  encode git := .object
    [("commitSha", encode git.commitSha), ("repositoryUrl", encode git.repositoryUrl)]

instance : Decode SubscriptionFilter where
  decode? j := do
    let fields ← j.fields?
    return {
      name := ← fields.required "name"
      destinationArn := ← fields.required "destinationArn"
      filterPattern := ← fields.orElse "filterPattern" ""
      addPermissions := ← fields.orElse "addPermissions" false }

instance : Encode SubscriptionFilter where
  encode f := .object
    [("name", encode f.name), ("destinationArn", encode f.destinationArn),
     ("filterPattern", encode f.filterPattern), ("addPermissions", encode f.addPermissions)]

instance : Decode LogGroup where
  decode? j := do
    let fields ← j.fields?
    return {
      name := ← fields.required "name"
      subscriptionFilters := ← fields.orElse "subscriptionFilters" [] }

instance : Encode LogGroup where
  encode g := .object
    (("name", encode g.name) :: Json.nonemptyList "subscriptionFilters" g.subscriptionFilters)

/-- The identity of a service among other fields. -/
def ServiceIdentity.ofFields? (fields : Dict Json) : Option ServiceIdentity := do
  return {
    env := ← fields.optional "env"
    service := ← fields.optional "service"
    version := ← fields.optional "version" }

def ServiceIdentity.toFields (identity : ServiceIdentity) : List (String × Json) :=
  [("env", encode identity.env), ("service", encode identity.service),
   ("version", encode identity.version)]

end TelemetryWiring
