import TelemetryWiring.Proofs.Checks
import TelemetryWiring.Proofs.StepFunctions.Layers

/-!
Configurations of the instrumentation of state machines that resolution yields: nothing is rewritten
on the way, so a configuration spelled out is the merged settings that it came from.
-/
namespace TelemetryWiring.StepFunctions.Settings

variable {s defaults : Settings} {options : ValidationOptions} {r : Noted Config}

theorem of_finalize_eq_ok (h : s.finalize options = .ok r) :
    ofConfig r.value = s ∧ r.diagnostics = [] := by
  unfold finalize at h
  obtain ⟨_, -, h⟩ := bind_eq_ok_iff.mp h
  dsimp only at h
  split at h <;>
  · obtain ⟨_, -, h⟩ := bind_eq_ok_iff.mp h
    cases h
    exact ⟨rfl, rfl⟩

/-- Settings over a caller's defaults are all that a configuration says. -/
theorem forwarding_of_resolve (h : s.resolve defaults options = .ok r) :
    r.value.forwarderArn = s.forwarderArn.or defaults.forwarderArn ∧
      r.value.identity = defaults.identity.merge s.identity ∧
      r.value.tags = s.tags.or defaults.tags := by
  have hmerged : ofConfig r.value = defaults.merge s := by
    rw [(of_finalize_eq_ok h).1]
    exact congrArg (·.merge s) (isLayering.empty_merge defaults)
  exact ⟨congrArg (·.forwarderArn) hmerged, congrArg (·.identity) hmerged,
    congrArg (·.tags) hmerged⟩

/-- A configuration that was resolved, spelled out again, resolves to itself, over defaults of its
own or over none. -/
theorem resolve_ofConfig_of_resolve (h : s.resolve defaults options = .ok r) :
    (ofConfig r.value).resolve {} options = .ok ⟨r.value, []⟩ ∧
    (ofConfig r.value).resolve defaults options = .ok ⟨r.value, []⟩ := by
  obtain ⟨hsettings, hdiagnostics⟩ := of_finalize_eq_ok h
  have hfinal : ((libraryDefaults.merge defaults).merge s).finalize options =
      .ok ⟨r.value, []⟩ := by
    rw [← hdiagnostics]
    exact h
  rw [hsettings]
  constructor
  · rw [resolve, isLayering.merge_empty, ← isLayering.merge_assoc, ← isLayering.merge_assoc,
      isLayering.merge_self]
    exact hfinal
  · rw [resolve, ← isLayering.merge_assoc, isLayering.merge_self]
    exact hfinal

end TelemetryWiring.StepFunctions.Settings
