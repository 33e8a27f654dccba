import Mathlib.Data.List.Nodup
import TelemetryWiring.Lambda.Instrumenter
import TelemetryWiring.Proofs.Writes

/-!
The variables that instrumentation writes. Their keys are drawn in order from one list without
repetitions, so apart from the wrapper, which redirection may set too, no variable is written twice,
and the tag list is never among them.
-/
namespace TelemetryWiring

theorem keys_whenSet (key : String) (value : Option String) :
    ((whenSet key value).map (·.1)).Sublist [key] := keys_toList key value

namespace Lambda

/-- The keys of the switches that every function receives, those of the protection aside. -/
def switchKeys : List String :=
  ["DD_TRACE_ENABLED", "DD_MERGE_XRAY_TRACES", "DD_LOGS_INJECTION", "DD_SERVERLESS_LOGS_ENABLED",
    "DD_CAPTURE_LAMBDA_PAYLOAD"] ++
  ["DD_TRACE_CLOUD_REQUEST_PAYLOAD_TAGGING", "DD_TRACE_CLOUD_RESPONSE_PAYLOAD_TAGGING"] ++
  ["DD_LOG_LEVEL"]

/-- The keys of the protection. -/
def protectionKeys : List String :=
  ["DD_SERVERLESS_APPSEC_ENABLED", "DD_APPSEC_ENABLED", wrapperVariable.1]

/-- The keys of the service's identity and of the tracer's settings. -/
def serviceKeys : List String :=
  ["DD_ENV", "DD_SERVICE", "DD_VERSION"] ++ ["DD_COLD_START_TRACING"] ++
    ["DD_MIN_COLD_START_DURATION"] ++ ["DD_COLD_START_TRACE_SKIP_LIB"] ++
    ["DD_PROFILING_ENABLED"] ++ ["DD_ENCODE_AUTHORIZER_CONTEXT"] ++
    ["DD_DECODE_AUTHORIZER_CONTEXT"] ++ ["DD_APM_FLUSH_DEADLINE_MILLISECONDS"] ++
    ("DD_LLMOBS_ENABLED" :: (["DD_LLMOBS_ML_APP"] ++ ["DD_LLMOBS_AGENTLESS_ENABLED"]))

/-- The keys that direct the telemetry. -/
def transportKeys : List String :=
  "DD_FLUSH_TO_LOG" :: (["DD_SITE"] ++ ["DD_API_KEY", "DD_KMS_API_KEY", "DD_API_KEY_SECRET_ARN"])

/-- Every variable that instrumentation can write besides those of the redirection. -/
def assignmentKeys : List String := switchKeys ++ protectionKeys ++ serviceKeys ++ transportKeys

theorem keys_switches (mode : ProtectionMode) :
    ((ProtectionMode.switches mode).map (·.1)).Sublist protectionKeys := by
  cases mode <;> decide

/-- The protection's switches come behind the others. -/
theorem keys_featureVariables (c : Config) :
    ∃ switches, c.featureVariables = switches ++ ProtectionMode.switches c.protectionMode ∧
      (switches.map (·.1)).Sublist switchKeys := by
  refine ⟨_, rfl, ?_⟩
  simp only [List.map_append]
  refine List.Sublist.append (List.Sublist.append (List.Sublist.refl _) ?_) (keys_whenSet ..)
  split <;> simp

theorem keys_llmObsVariables (c : Config) :
    (c.llmObsVariables.map (·.1)).Sublist
      ("DD_LLMOBS_ENABLED" :: (["DD_LLMOBS_ML_APP"] ++ ["DD_LLMOBS_AGENTLESS_ENABLED"])) := by
  unfold Config.llmObsVariables
  split
  · rw [List.map_cons, List.map_append]
    exact ((keys_whenSet ..).append (keys_whenSet ..)).cons_cons _
  · exact List.nil_sublist _

theorem keys_serviceVariables (c : Config) :
    (c.serviceVariables.map (·.1)).Sublist serviceKeys := by
  unfold Config.serviceVariables
  simp only [List.map_append]
  refine List.Sublist.append ?_ (keys_llmObsVariables c)
  repeat refine List.Sublist.append ?_ (keys_whenSet ..)
  split
  · exact ServiceIdentity.keys_under ..
  · exact List.nil_sublist _

/-- The variables that do not direct the telemetry. -/
theorem keys_configVariables (c : Config) :
    ((c.featureVariables ++ c.serviceVariables).map (·.1)).Sublist
      (switchKeys ++ protectionKeys ++ serviceKeys) := by
  obtain ⟨switches, hfeatures, hswitches⟩ := keys_featureVariables c
  rw [hfeatures, List.map_append, List.map_append]
  exact (hswitches.append (keys_switches _)).append (keys_serviceVariables _)

theorem keys_transport (t : Transport) : (t.assignments.map (·.1)).Sublist transportKeys := by
  have hsite : ((if t.flushMetricsToLogs then [] else [("DD_SITE", t.site)]).map (·.1)).Sublist
      ["DD_SITE"] := by
    split <;> simp
  have hkey : ((t.apiKey.map Transport.keyVariable).toList.map (·.1)).Sublist
      ["DD_API_KEY", "DD_KMS_API_KEY", "DD_API_KEY_SECRET_ARN"] := by
    rcases t.apiKey with _ | _ | _ | _ | _ <;> simp [Transport.keyVariable]
  unfold Transport.assignments
  rw [List.map_cons, List.map_append]
  exact (hsite.append hkey).cons_cons _

namespace Instrumenter

theorem keys_assignments (i : Instrumenter) :
    (i.assignments.map (·.1)).Sublist assignmentKeys := by
  unfold assignments
  rw [List.map_append]
  exact (keys_configVariables i.config).append (keys_transport _)

theorem nodup_keys_assignments (i : Instrumenter) : (i.assignments.map (·.1)).Nodup :=
  i.keys_assignments.nodup (by decide +kernel)

theorem not_mem_keys_assignments (i : Instrumenter) {key : String} (h : key ∉ assignmentKeys) :
    key ∉ i.assignments.map (·.1) := fun hmem => h (i.keys_assignments.subset hmem)

/-- The wrapper is only ever written with its path. -/
theorem eq_wrapperVariable_of_mem_assignments (i : Instrumenter) {e : String × String}
    (he : e ∈ i.assignments) (hkey : e.1 = wrapperVariable.1) : e = wrapperVariable := by
  obtain ⟨switches, hfeatures, hswitches⟩ := keys_featureVariables i.config
  have habsent (l : List (String × String)) (keys : List String)
      (hl : (l.map (·.1)).Sublist keys) (hkeys : wrapperVariable.1 ∉ keys) : e ∉ l := by
    intro hmem
    exact hkeys (hkey ▸ hl.subset (List.mem_map_of_mem hmem))
  unfold assignments at he
  rw [hfeatures] at he
  rcases List.mem_append.mp he with he | he
  · rcases List.mem_append.mp he with he | he
    · rcases List.mem_append.mp he with he | he
      · exact absurd he (habsent _ _ hswitches (by decide))
      · cases hmode : i.config.protectionMode <;>
          simp [hmode, ProtectionMode.switches] at he <;> grind [wrapperVariable]
    · exact absurd he (habsent _ _ (keys_serviceVariables _) (by decide))
  · exact absurd he (habsent _ _ (keys_transport _) (by decide))

end Instrumenter
end Lambda
end TelemetryWiring
