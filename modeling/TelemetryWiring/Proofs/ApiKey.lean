import TelemetryWiring.ApiKey

/-!
The choice of an API key among candidates: it succeeds exactly if at most one of them is set, and
one is where a key is demanded. The candidates of any settings are the sources that these name.
-/
namespace TelemetryWiring

/-- The sources that are set among candidates. -/
def setSources (candidates : List (String × Option ApiKeySource)) : List ApiKeySource :=
  candidates.filterMap (·.2)

theorem setSources_nil : setSources [] = [] := rfl

theorem setSources_cons (name : String) (source : Option ApiKeySource)
    (rest : List (String × Option ApiKeySource)) :
    setSources ((name, source) :: rest) = source.toList ++ setSources rest := by
  cases source <;> rfl

theorem selectApiKey_eq_ok_iff {candidates : List (String × Option ApiKeySource)}
    {demand : Option KeyDemand} {key : Option ApiKeySource} :
    selectApiKey candidates demand = .ok key ↔
      setSources candidates = key.toList ∧ (key = none → demand = none) := by
  unfold selectApiKey
  generalize hnamed : candidates.filterMap _ = named
  have hsources : setSources candidates = named.map (·.2) := by
    rw [← hnamed, setSources, List.map_filterMap]
    congr 1
    funext ⟨name, source⟩
    cases source <;> rfl
  rw [hsources]
  cases named with
  | nil => cases demand <;> cases key <;> simp
  | cons first rest =>
    cases rest with
    | nil => cases key <;> simp [eq_comm]
    | cons second rest => cases key <;> simp

/-- One of several sources that are set is never chosen, and none only where none is demanded. -/
theorem exists_selectApiKey_eq_ok_iff {candidates : List (String × Option ApiKeySource)}
    {demand : Option KeyDemand} :
    (∃ key, selectApiKey candidates demand = .ok key) ↔
      (setSources candidates).length ≤ 1 ∧
        (demand ≠ none → (setSources candidates).length = 1) := by
  simp only [selectApiKey_eq_ok_iff]
  rcases setSources candidates with _ | ⟨source, _ | ⟨other, rest⟩⟩
  · simp
  · simp [Option.exists, eq_comm]
  · simp [Option.exists]

namespace ApiKeySettings

/-- The sources that the settings name. -/
def sources (k : ApiKeySettings) : List ApiKeySource :=
  (k.plain.map .plain).toList ++ (k.secretArn.map .secretArn).toList ++
    (k.secret.map .secret).toList

end ApiKeySettings

end TelemetryWiring
