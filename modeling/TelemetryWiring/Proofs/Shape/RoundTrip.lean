import TelemetryWiring.Proofs.Shape.Lawful
import TelemetryWiring.Shape.Fargate
import TelemetryWiring.Shape.Lambda
import TelemetryWiring.Shape.StepFunctions

/-!
The JSON forms of settings and of the definitions of resources lose nothing. Each record is read
back from its own fields, so a form is lawful as soon as those of its fields are; only logging,
which is told from a token by its shape, needs an argument of its own.
-/
namespace TelemetryWiring

instance : LawfulCodec SecretRef :=
  .ofFields (fun _ => rfl) (fun _ => rfl) fun r fields h => by simp [h, lastValue]

/-- The word beside the value tells which source to read. -/
instance : LawfulCodec ApiKeySource :=
  .ofFields (fun _ => rfl) (fun _ => rfl) fun source fields h => by
    cases source <;> simp [h, lastValue, ApiKeySource.typeName]

instance : LawfulCodec Cardinality where
  decode_encode level := by cases level <;> rfl
  encode_ne_null := nofun

instance : LawfulCodec SubscriptionFilter :=
  .ofFields (fun _ => rfl) (fun _ => rfl) fun f fields h => by simp [h, lastValue]

instance : LawfulCodec LogGroup :=
  .ofFields (fun _ => rfl) (fun _ => rfl) fun g fields h => by simp [h, lastValue]

/-! Functions and their settings. -/

instance : LawfulCodec Architecture := .byName fun a => by cases a <;> rfl

instance : LawfulCodec LayerReference :=
  .ofFields (fun _ => rfl) (fun _ => rfl) fun l fields h => by simp [h, lastValue]

instance : LawfulCodec LambdaFunction :=
  .ofFields (fun _ => rfl) (fun _ => rfl) fun f fields h => by
    simp [h, lastValue, lastValue_append]

instance : LawfulCodec ProtectionMode := .byName fun mode => by cases mode <;> rfl

instance : LawfulCodec Lambda.Settings :=
  .ofFields (fun _ => rfl) (fun _ => rfl) fun s fields h => by
    simp [h, lastValue, LayerPins.ofFields?, LayerPins.toFields, LayerPin.ofFields?,
      LayerPin.toFields, ServiceIdentity.ofFields?, ServiceIdentity.toFields,
      TracerSettings.ofFields?, TracerSettings.toFields]

/-! State machines and their settings. -/

instance : LawfulCodec StepFunctions.Settings :=
  .ofFields (fun _ => rfl) (fun _ => rfl) fun s fields h => by
    simp [h, lastValue, ServiceIdentity.ofFields?, ServiceIdentity.toFields]

instance : LawfulCodec LogLevel := .byName fun level => by cases level <;> rfl

instance : LawfulCodec LoggingConfiguration :=
  .ofFields (fun _ => rfl) (fun _ => rfl) fun c fields h => by simp [h, lastValue]

theorem Json.itemsFitWords_iff {items : List Json} :
    Json.itemsFitWords items = true ↔ ∀ item ∈ items, item.fitsWords = true := by
  induction items with
  | nil => simp [Json.itemsFitWords]
  | cons item items ih => simp [Json.itemsFitWords, ih]

theorem Json.fieldsFitWords_iff {fields : List (String × Json)} :
    Json.fieldsFitWords fields = true ↔ ∀ e ∈ fields, e.2.fitsWords = true := by
  induction fields with
  | nil => simp [Json.fieldsFitWords]
  | cons e fields ih => simp [Json.fieldsFitWords, ih]

/-- An object has no value that was not written into it. -/
theorem Json.fitsWords_object {fields : List (String × Json)}
    (h : ∀ e ∈ fields, e.2.fitsWords = true) : (Json.object fields).fitsWords = true := by
  change Json.fieldsFitWords (Dict.ofList fields).entries = true
  rw [Json.fieldsFitWords_iff]
  intro e he
  have hlast : lastValue e.1 (Dict.ofList fields).entries = some e.2 :=
    lastValue_of_isConsistent (isConsistent_of_nodup (Dict.ofList fields).nodup_keys) he
  rw [← Dict.get?_eq_lastValue, Dict.get?_ofList] at hlast
  exact h _ (mem_of_lastValue hlast)

theorem SubscriptionFilter.fitsWords_encode (f : SubscriptionFilter) :
    (encode f).fitsWords = true := by
  apply Json.fitsWords_object
  simp [Json.fitsWords, encode]

theorem LogGroup.fitsWords_encode (g : LogGroup) : (encode g).fitsWords = true := by
  have hfilters : (encode g.subscriptionFilters).fitsWords = true := by
    change Json.itemsFitWords (g.subscriptionFilters.map encode) = true
    rw [Json.itemsFitWords_iff]
    intro item hitem
    obtain ⟨f, -, rfl⟩ := List.mem_map.mp hitem
    exact f.fitsWords_encode
  apply Json.fitsWords_object
  intro e he
  rcases List.mem_cons.mp he with rfl | he
  · rfl
  · unfold Json.nonemptyList at he
    split at he
    · cases he
    · rw [List.mem_singleton.mp he]
      exact hfilters

theorem LoggingConfiguration.fitsWords_encode (c : LoggingConfiguration) :
    (encode c).fitsWords = true := by
  apply Json.fitsWords_object
  intro e he
  rcases List.mem_append.mp he with he | he
  · rcases List.mem_cons.mp he with rfl | he
    · rfl
    · rw [List.mem_singleton.mp he]
      rfl
  · cases hdestination : c.destination with
    | none =>
      rw [hdestination] at he
      cases he
    | some group =>
      rw [hdestination] at he
      rw [List.mem_singleton.mp he]
      exact group.fitsWords_encode

/-- What is configured is an object and no text, so it is not taken for a token. -/
instance : LawfulCodec Logging where
  decode_encode logging := by
    cases logging with
    | unresolved token => rfl
    | configured c =>
      change (if (encode c).fitsWords then (decode? (encode c)).map Logging.configured else none) =
        some (.configured c)
      rw [c.fitsWords_encode, decode_encode]
      rfl
  encode_ne_null logging := by
    cases logging with
    | unresolved token => nofun
    | configured c => exact encode_ne_null c

instance : LawfulCodec StateMachine :=
  .ofFields (fun _ => rfl) (fun _ => rfl) fun m fields h => by
    simp [h, lastValue, lastValue_append]

/-! Containers, and the settings of the tasks that they stand in. -/

instance : LawfulCodec HealthCheck :=
  .ofFields (fun _ => rfl) (fun _ => rfl) fun check fields h => by
    simp [h, lastValue, lastValue_append]

instance : LawfulCodec Protocol := .byName fun p => by cases p <;> rfl

instance : LawfulCodec PortMapping :=
  .ofFields (fun _ => rfl) (fun _ => rfl) fun p fields h => by simp [h, lastValue]

instance : LawfulCodec LogDriver :=
  .ofFields (fun _ => rfl) (fun _ => rfl) fun d fields h => by simp [h, lastValue]

instance : LawfulCodec ContainerOptions :=
  .ofFields (fun _ => rfl) (fun _ => rfl) fun o fields h => by
    simp [h, lastValue, Sizing.ofFields?, Sizing.toFields]

namespace Fargate

instance : LawfulCodec ApmSettings :=
  .ofFields (fun _ => rfl) (fun _ => rfl) fun s fields h => by simp [h, lastValue]

instance : LawfulCodec DogstatsdSettings :=
  .ofFields (fun _ => rfl) (fun _ => rfl) fun s fields h => by simp [h, lastValue]

instance : LawfulCodec WorkloadSecuritySettings :=
  .ofFields (fun _ => rfl) (fun _ => rfl) fun s fields h => by
    simp [h, lastValue, Sizing.ofFields?, Sizing.toFields]

instance : LawfulCodec LogDriverSettings :=
  .ofFields (fun _ => rfl) (fun _ => rfl) fun s fields h => by simp [h, lastValue]

instance : LawfulCodec FirelensSettings :=
  .ofFields (fun _ => rfl) (fun _ => rfl) fun s fields h => by simp [h, lastValue]

instance : LawfulCodec LogRouterSettings :=
  .ofFields (fun _ => rfl) (fun _ => rfl) fun s fields h => by
    simp [h, lastValue, Sizing.ofFields?, Sizing.toFields]

instance : LawfulCodec LoggingType := .byName fun t => by cases t; rfl

instance : LawfulCodec LogCollectionSettings :=
  .ofFields (fun _ => rfl) (fun _ => rfl) fun s fields h => by simp [h, lastValue]

instance : LawfulCodec ExplorerSettings :=
  .ofFields (fun _ => rfl) (fun _ => rfl) fun s fields h => by simp [h, lastValue]

instance : LawfulCodec Settings :=
  .ofFields (fun _ => rfl) (fun _ => rfl) fun s fields h => by
    simp [h, lastValue, Sizing.ofFields?, Sizing.toFields, ServiceIdentity.ofFields?,
      ServiceIdentity.toFields]

end Fargate

/-- Settings, containers to be, functions, state machines, log groups and sources of a key are read
back from their JSON. -/
theorem decode?_encode :
    (∀ s : Lambda.Settings, decode? (encode s) = some s) ∧
    (∀ s : Fargate.Settings, decode? (encode s) = some s) ∧
    (∀ s : StepFunctions.Settings, decode? (encode s) = some s) ∧
    (∀ o : ContainerOptions, decode? (encode o) = some o) ∧
    (∀ f : LambdaFunction, decode? (encode f) = some f) ∧
    (∀ m : StateMachine, decode? (encode m) = some m) ∧
    (∀ g : LogGroup, decode? (encode g) = some g) ∧
    ∀ source : ApiKeySource, decode? (encode source) = some source :=
  ⟨decode_encode, decode_encode, decode_encode, decode_encode, decode_encode, decode_encode,
    decode_encode, decode_encode⟩

end TelemetryWiring
