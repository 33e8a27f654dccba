import TelemetryWiring.Proofs.Dict
import TelemetryWiring.StepFunctions.Payload

/-!
The trace context in payloads. Writing it and taking it out undo each other in both directions, on
all payloads that leave the reserved key alone, whatever values they hold.
-/
namespace TelemetryWiring.Payload

variable {p q : Payload} {context : Json}

theorem contextReferenceKey_eq : contextReferenceKey = "_datadog.$" := by decide

theorem inject_of_context (h : contextKey ∈ p.keys) (context : Json) :
    p.inject context = .error (.reservedKey contextKey) := by
  rw [inject, if_pos (Dict.contains_eq_true_iff.mpr h)]

theorem inject_of_reference (h : contextKey ∉ p.keys) (href : contextReferenceKey ∈ p.keys)
    (context : Json) : p.inject context = .error (.reservedKey contextReferenceKey) := by
  rw [inject, if_neg (mt Dict.contains_eq_true_iff.mp h),
    if_pos (Dict.contains_eq_true_iff.mpr href)]

theorem inject_of_unreserved (h : contextKey ∉ p.keys) (href : contextReferenceKey ∉ p.keys)
    (context : Json) : p.inject context = .ok (p.insert contextKey context) := by
  rw [inject, if_neg (mt Dict.contains_eq_true_iff.mp h),
    if_neg (mt Dict.contains_eq_true_iff.mp href)]

/-- Only a payload that uses neither form of the reserved key is accepted. -/
theorem inject_eq_ok_iff :
    p.inject context = .ok q ↔
      contextKey ∉ p.keys ∧ contextReferenceKey ∉ p.keys ∧ q = p.insert contextKey context := by
  by_cases h : contextKey ∈ p.keys
  · simp [inject_of_context h, h]
  · by_cases href : contextReferenceKey ∈ p.keys
    · simp [inject_of_reference h href, href]
    · simp [inject_of_unreserved h href, h, href, eq_comm]

theorem exists_inject_eq_error_iff :
    (∃ e, p.inject context = .error e) ↔ contextKey ∈ p.keys ∨ contextReferenceKey ∈ p.keys := by
  by_cases h : contextKey ∈ p.keys
  · simp [inject_of_context h, h]
  · by_cases href : contextReferenceKey ∈ p.keys
    · simp [inject_of_reference h href, href]
    · simp [inject_of_unreserved h href, h, href]

/-- A payload that holds a context and is otherwise another payload. -/
structure Carries (q : Payload) (context : Json) (p : Payload) : Prop where
  /-- There is one key more. -/
  keys : q.keys.Perm ("_datadog" :: p.keys)
  context : q.get? "_datadog" = some context
  /-- Every other value is the same tree. -/
  others : ∀ key, key ≠ "_datadog" → q.get? key = p.get? key
  stripped : q.withoutTraceContext = p
  refused : ∀ kind, q.withTraceContext kind = .error (.reservedKey "_datadog")

theorem carries_of_inject (h : p.inject context = .ok q) : q.Carries context p := by
  obtain ⟨hfree, -, rfl⟩ := inject_eq_ok_iff.mp h
  have hcontext : contextKey ∈ (p.insert contextKey context).keys :=
    (Dict.keys_insert_perm hfree context).mem_iff.mpr List.mem_cons_self
  constructor
  case keys => exact Dict.keys_insert_perm hfree context
  case context =>
    change (p.insert contextKey context).get? contextKey = _
    rw [Dict.get?_insert, if_pos rfl]
  case others =>
    intro key hkey
    exact (Dict.get?_insert ..).trans (if_neg (Ne.symm hkey))
  case stripped => exact Dict.erase_insert hfree context
  case refused => exact fun kind => inject_of_context hcontext kind.traceContext

/-- What holds a context without a reference for it is what writing the context makes of the
rest. -/
theorem inject_withoutTraceContext (h : q.get? contextKey = some context)
    (href : contextReferenceKey ∉ q.keys) : q.withoutTraceContext.inject context = .ok q := by
  refine inject_eq_ok_iff.mpr ⟨?_, ?_, ?_⟩
  · exact fun hmem => (Dict.mem_keys_erase.mp hmem).1 rfl
  · exact fun hmem => href (Dict.mem_keys_erase.mp hmem).2
  · exact (Dict.insert_erase h).symm

/-- How a payload takes the trace context for a kind of task. -/
structure Takes (p : Payload) (kind : TaskKind) : Prop where
  refused_iff : (∃ e, p.withTraceContext kind = .error e) ↔
    "_datadog" ∈ p.keys ∨ "_datadog.$" ∈ p.keys
  /-- The plain key is found first. -/
  refused_of_context : "_datadog" ∈ p.keys →
    p.withTraceContext kind = .error (.reservedKey "_datadog")
  refused_of_reference : "_datadog" ∉ p.keys → "_datadog.$" ∈ p.keys →
    p.withTraceContext kind = .error (.reservedKey "_datadog.$")
  carries : ∀ q, p.withTraceContext kind = .ok q → q.Carries kind.traceContext p
  /-- A payload that holds the context already was made from what it is without. -/
  restored : p.get? "_datadog" = some kind.traceContext → "_datadog.$" ∉ p.keys →
    p.withoutTraceContext.withTraceContext kind = .ok p

/-- For both kinds of tasks, writing the trace context into a payload and taking it out undo each
other, and what is refused is what uses the reserved key. -/
theorem takes_traceContext (p : Payload) (kind : TaskKind) : p.Takes kind := by
  have href := contextReferenceKey_eq
  constructor
  case refused_iff => exact href ▸ exists_inject_eq_error_iff
  case refused_of_context => exact fun h => inject_of_context h kind.traceContext
  case refused_of_reference =>
    exact fun h hmem => href ▸ inject_of_reference h (href.symm ▸ hmem) kind.traceContext
  case carries => exact fun q h => carries_of_inject h
  case restored => exact fun h hmem => inject_withoutTraceContext h (href.symm ▸ hmem)

/-- A payload whose parts use the reserved key in their own right is accepted for an execution and
recovered from what is handed over, which no builder accepts; one that refers to a context of its
own is not accepted. -/
theorem takes_traceContext_of_nested_payload :
    let order : Json := .object [("_datadog", .str "mine"), ("id", .num (.whole 7))]
    let p : Payload := .ofList [("order", order), ("tags", .arr [.null, .bool true])]
    let referring : Payload := p.insert "_datadog.$" (.str "$.order")
    (∃ q, p.withTraceContext .execution = .ok q ∧ q.Carries TaskKind.execution.traceContext p ∧
      q.withoutTraceContext.withTraceContext .execution = .ok q) ∧
    referring.withTraceContext .lambda = .error (.reservedKey "_datadog.$") := by
  intro order p referring
  have hq := inject_of_unreserved (p := p) (by decide) (by decide) TaskKind.execution.traceContext
  have hcarries := (takes_traceContext p .execution).carries _ hq
  refine ⟨⟨_, hq, hcarries, ?_⟩, ?_⟩
  · exact hcarries.stripped.symm ▸ hq
  · exact (takes_traceContext referring .lambda).refused_of_reference (by decide) (by decide)

end TelemetryWiring.Payload
