import TelemetryWiring.ApiKey
import TelemetryWiring.Proofs.Checks
import TelemetryWiring.Proofs.Dict

/-!
Keys in plain text, blotted out. Two things that differ in the text of a key alone are equal once it
is blotted out in both, and the choice of a key source does not look at the text.
-/
namespace TelemetryWiring

/-- The map with an empty text under a key, if there is any text under it. -/
def Dict.redact (key : String) (d : Dict String) : Dict String := d.mapAt key fun _ => ""

/-- A write with an empty text, if it is one of a given key. -/
def redactWrite (key : String) (e : String × String) : String × String :=
  (e.1, if e.1 = key then "" else e.2)

namespace Dict

variable {key : String}

theorem get?_redact_of_ne {other : String} (h : other ≠ key) (d : Dict String) :
    (d.redact key).get? other = d.get? other := by
  rw [redact, get?_mapAt, if_neg h]

theorem redact_insert (d : Dict String) (other value : String) :
    (d.insert other value).redact key =
      (d.redact key).insert other (if other = key then "" else value) := d.mapAt_insert ..

theorem redact_insertMany (d : Dict String) (writes : List (String × String)) :
    (d.insertMany writes).redact key =
      (d.redact key).insertMany (writes.map (redactWrite key)) := d.mapAt_insertMany ..

@[simp] theorem redact_redact (d : Dict String) : (d.redact key).redact key = d.redact key := by
  apply ext_get?
  intro other
  rw [redact, get?_mapAt, redact, get?_mapAt]
  split
  · rw [Option.map_map]
    rfl
  · rfl

/-- Where there is nothing under the key there is nothing to blot out. -/
theorem redact_of_not_contains {d : Dict String} (h : d.contains key = false) :
    d.redact key = d := by
  apply ext_get?
  intro other
  rw [redact, get?_mapAt]
  split
  · rename_i hkey
    subst hkey
    have hnone : d.get? other = none := by simpa [contains] using h
    rw [hnone]
    rfl
  · rfl

end Dict

/-- Writes of values that may be missing are blotted out value by value. -/
theorem map_redactWrite_filterMap (key : String) (values : List (String × Option String)) :
    (values.filterMap fun (k, value) => value.map fun v => (k, v)).map (redactWrite key) =
      (values.map fun e => (e.1, if e.1 = key then e.2.map fun _ => "" else e.2)).filterMap
        fun (k, value) => value.map fun v => (k, v) := by
  rw [List.map_filterMap, List.filterMap_map]
  refine List.filterMap_congr fun e _ => ?_
  obtain ⟨k, value⟩ := e
  by_cases h : k = key <;> cases value <;> simp [redactWrite, h]

/-- A source without the text of a plain key. -/
def ApiKeySource.redacted : ApiKeySource → ApiKeySource
  | .plain _ => .plain ""
  | source => source

theorem ApiKeySource.redacted_redacted (source : ApiKeySource) :
    source.redacted.redacted = source.redacted := by cases source <;> rfl

/-- A source that may be missing is blotted out once and for all. -/
theorem map_redacted_redacted (source : Option ApiKeySource) :
    (source.map (·.redacted)).map (·.redacted) = source.map (·.redacted) := by
  cases source with
  | none => rfl
  | some source => exact congrArg some source.redacted_redacted

theorem ApiKeySource.secretArn?_redacted (source : ApiKeySource) :
    source.redacted.secretArn? = source.secretArn? := by cases source <;> rfl

/-- No secret is named by the text of a plain key. -/
theorem bind_secretArn?_redacted (source : Option ApiKeySource) :
    (source.map (·.redacted)).bind (·.secretArn?) = source.bind (·.secretArn?) := by
  cases source with
  | none => rfl
  | some source => exact source.secretArn?_redacted

/-- The settings of a key without the text of a plain one. -/
def ApiKeySettings.redacted (s : ApiKeySettings) : ApiKeySettings :=
  { s with plain := s.plain.map fun _ => "" }

theorem ApiKeySettings.redacted_merge (a b : ApiKeySettings) :
    (a.merge b).redacted = a.redacted.merge b.redacted := by
  simp [ApiKeySettings.redacted, ApiKeySettings.merge, Option.map_or]

/-- Which sources are set decides whether one is chosen, and what there is to complain about. -/
theorem selectApiKey_redacted (candidates : List (String × Option ApiKeySource))
    (demand : Option KeyDemand) :
    selectApiKey (candidates.map fun e => (e.1, e.2.map (·.redacted))) demand =
      (selectApiKey candidates demand).map (Option.map (·.redacted)) := by
  have hset (named : String × Option ApiKeySource → Option (String × ApiKeySource))
      (hnamed : ∀ name source, named (name, source) = source.map fun s => (name, s)) :
      (candidates.map fun e => (e.1, e.2.map (·.redacted))).filterMap named =
        (candidates.filterMap named).map fun e => (e.1, e.2.redacted) := by
    rw [List.filterMap_map, List.map_filterMap]
    refine List.filterMap_congr fun e _ => ?_
    obtain ⟨name, source⟩ := e
    cases source <;> simp [hnamed]
  have hnames : (candidates.map fun e => (e.1, e.2.map (·.redacted))).map (·.1) =
      candidates.map (·.1) := by
    rw [List.map_map]
    rfl
  unfold selectApiKey
  rw [hset _ fun _ _ => rfl, hnames]
  generalize candidates.filterMap _ = sources
  cases sources with
  | nil => cases demand <;> rfl
  | cons first rest =>
    cases rest with
    | nil => rfl
    | cons second rest => simp [Except.map]

variable {ε α β γ : Type}

theorem bind_of_map (x : Except ε α) (change : α → β) (f : β → Except ε γ) :
    x.map change >>= f = x >>= fun a => f (change a) := by
  cases x <;> rfl

theorem map_of_bind (x : Except ε α) (f : α → Except ε β) (change : β → γ) :
    (x >>= f).map change = x >>= fun a => (f a).map change := by
  cases x <;> rfl

end TelemetryWiring
