import TelemetryWiring.Proofs.Checks
import TelemetryWiring.Stack.Synthesis

/-!
Synthesis section by section. A stack with one of its sections alone is synthesized as that section
is within the whole stack, so the whole is put together from four independent parts, and the first
part that is refused tells why the whole is.
-/
namespace TelemetryWiring

inductive SectionKind where
  | lambda
  | fargate
  | stepFunctions
  | gateway
  deriving DecidableEq, Repr

namespace SectionKind

/-- The sections that are taken before one. -/
def before : SectionKind → List SectionKind
  | .lambda => []
  | .fargate => [.lambda]
  | .stepFunctions => [.lambda, .fargate]
  | .gateway => [.lambda, .fargate, .stepFunctions]

theorem forall_iff {P : SectionKind → Prop} :
    (∀ kind, P kind) ↔ P .lambda ∧ P .fargate ∧ P .stepFunctions ∧ P .gateway := by
  constructor
  · exact fun h => ⟨h _, h _, h _, h _⟩
  · rintro ⟨hlambda, hfargate, hstates, hgateway⟩ kind
    cases kind <;> assumption

end SectionKind

/-- Of a synthesis for each section, the definitions that belong to that section. -/
def Synthesis.assemble (parts : SectionKind → Synthesis) : Synthesis where
  lambdaFunctions := (parts .lambda).lambdaFunctions
  logGroups := (parts .lambda).logGroups
  taskDefinitions := (parts .fargate).taskDefinitions
  stateMachines := (parts .stepFunctions).stateMachines
  taskPayloads := (parts .stepFunctions).taskPayloads
  gatewayIntegrations := (parts .gateway).gatewayIntegrations
  diagnostics := (parts .lambda).diagnostics ++ (parts .fargate).diagnostics

/-- A synthesis of which only the definitions of one section remain. -/
def Synthesis.alone (part : Synthesis) (kind : SectionKind) : Synthesis :=
  .assemble fun other => if other = kind then part else {}

theorem Synthesis.assemble_alone (parts : SectionKind → Synthesis) :
    (assemble fun kind => (parts kind).alone kind) = assemble parts := by
  simp [assemble, alone]

namespace Stack

/-- The stack with one of its sections alone. Its account, context and source stay. -/
def only (s : Stack) : SectionKind → Stack
  | .lambda => { s with fargate := none, stepFunctions := none, gateway := none }
  | .fargate => { s with lambda := none, stepFunctions := none, gateway := none }
  | .stepFunctions => { s with lambda := none, fargate := none, gateway := none }
  | .gateway => { s with lambda := none, fargate := none, stepFunctions := none }

/-- A stack of one task, which has no more than what all tasks of a section share. -/
def ofTask (shared : Fargate.Settings) (entry : TaskEntry) : Stack :=
  { fargate := some { settings := shared, tasks := [entry] } }

/-- The synthesis of a section where it stands. -/
def synthesizeKind (s : Stack) (options : ValidationOptions) (git : GitMetadata) :
    SectionKind → Except SynthesisError Synthesis
  | .lambda => synthesizeSection (s.synthesizeLambda · options git) s.lambda
  | .fargate => synthesizeSection (·.synthesize options) s.fargate
  | .stepFunctions => synthesizeSection (s.synthesizeStepFunctions · options) s.stepFunctions
  | .gateway => synthesizeSection (fun part => .ok part.synthesize) s.gateway

variable {s : Stack} {options : ValidationOptions} {git : GitMetadata} {out : Synthesis}

theorem synthesizeKind_only (kind other : SectionKind) :
    (s.only kind).synthesizeKind options git other =
      if other = kind then s.synthesizeKind options git kind else .ok {} := by
  cases kind <;> cases other <;> rfl

theorem synthesize_eq_ok_iff :
    s.synthesize options git = .ok out ↔
      ∃ parts, (∀ kind, s.synthesizeKind options git kind = .ok (parts kind)) ∧
        out = .assemble parts := by
  constructor
  · intro h
    obtain ⟨lambda, hlambda, h⟩ := bind_eq_ok_iff.mp h
    obtain ⟨fargate, hfargate, h⟩ := bind_eq_ok_iff.mp h
    obtain ⟨states, hstates, h⟩ := bind_eq_ok_iff.mp h
    obtain ⟨gateway, hgateway, h⟩ := bind_eq_ok_iff.mp h
    cases h
    let parts : SectionKind → Synthesis
      | .lambda => lambda
      | .fargate => fargate
      | .stepFunctions => states
      | .gateway => gateway
    exact ⟨parts, SectionKind.forall_iff.mpr ⟨hlambda, hfargate, hstates, hgateway⟩, rfl⟩
  · rintro ⟨parts, hparts, rfl⟩
    exact bind_eq_ok_iff.mpr ⟨_, hparts .lambda, bind_eq_ok_iff.mpr ⟨_, hparts .fargate,
      bind_eq_ok_iff.mpr ⟨_, hparts .stepFunctions,
        bind_eq_ok_iff.mpr ⟨_, hparts .gateway, rfl⟩⟩⟩⟩

theorem synthesize_eq_error_iff {e : SynthesisError} :
    s.synthesize options git = .error e ↔
      ∃ kind, s.synthesizeKind options git kind = .error e ∧
        ∀ earlier ∈ kind.before, ∃ part, s.synthesizeKind options git earlier = .ok part := by
  constructor
  · intro h
    rcases bind_eq_error_iff.mp h with h | ⟨lambda, hlambda, h⟩
    · exact ⟨.lambda, h, by simp [SectionKind.before]⟩
    rcases bind_eq_error_iff.mp h with h | ⟨fargate, hfargate, h⟩
    · exact ⟨.fargate, h, by simpa [SectionKind.before] using ⟨lambda, hlambda⟩⟩
    rcases bind_eq_error_iff.mp h with h | ⟨states, hstates, h⟩
    · exact ⟨.stepFunctions, h,
        by simpa [SectionKind.before] using ⟨⟨lambda, hlambda⟩, fargate, hfargate⟩⟩
    rcases bind_eq_error_iff.mp h with h | ⟨gateway, hgateway, h⟩
    · exact ⟨.gateway, h, by
        simpa [SectionKind.before] using
          ⟨⟨lambda, hlambda⟩, ⟨fargate, hfargate⟩, states, hstates⟩⟩
    · cases h
  · rintro ⟨kind, h, hbefore⟩
    cases kind with
    | lambda => exact bind_eq_error_iff.mpr (.inl h)
    | fargate =>
      obtain ⟨lambda, hlambda⟩ := hbefore .lambda (by simp [SectionKind.before])
      exact bind_eq_error_iff.mpr (.inr ⟨lambda, hlambda, bind_eq_error_iff.mpr (.inl h)⟩)
    | stepFunctions =>
      obtain ⟨lambda, hlambda⟩ := hbefore .lambda (by simp [SectionKind.before])
      obtain ⟨fargate, hfargate⟩ := hbefore .fargate (by simp [SectionKind.before])
      exact bind_eq_error_iff.mpr (.inr ⟨lambda, hlambda, bind_eq_error_iff.mpr
        (.inr ⟨fargate, hfargate, bind_eq_error_iff.mpr (.inl h)⟩)⟩)
    | gateway =>
      obtain ⟨lambda, hlambda⟩ := hbefore .lambda (by simp [SectionKind.before])
      obtain ⟨fargate, hfargate⟩ := hbefore .fargate (by simp [SectionKind.before])
      obtain ⟨states, hstates⟩ := hbefore .stepFunctions (by simp [SectionKind.before])
      exact bind_eq_error_iff.mpr (.inr ⟨lambda, hlambda, bind_eq_error_iff.mpr
        (.inr ⟨fargate, hfargate, bind_eq_error_iff.mpr
          (.inr ⟨states, hstates, bind_eq_error_iff.mpr (.inl h)⟩)⟩)⟩)

/-- A section alone gives its own definitions and no others. -/
theorem synthesize_only (kind : SectionKind) :
    (s.only kind).synthesize options git =
      (s.synthesizeKind options git kind).map (·.alone kind) := by
  cases hpart : s.synthesizeKind options git kind with
  | ok part =>
    refine synthesize_eq_ok_iff.mpr ⟨_, fun other => ?_, rfl⟩
    rw [synthesizeKind_only, hpart]
    split <;> rfl
  | error e =>
    refine synthesize_eq_error_iff.mpr ⟨kind, ?_, fun earlier hearlier => ⟨{}, ?_⟩⟩
    · rw [synthesizeKind_only, if_pos rfl, hpart]
    · have hother : earlier ≠ kind := by
        rintro rfl
        revert hearlier
        cases earlier <;> decide
      rw [synthesizeKind_only, if_neg hother]

theorem synthesize_only_eq_ok_iff {kind : SectionKind} {part : Synthesis} :
    (s.only kind).synthesize options git = .ok part ↔
      ∃ own, s.synthesizeKind options git kind = .ok own ∧ part = own.alone kind := by
  rw [synthesize_only]
  cases s.synthesizeKind options git kind <;> simp [Except.map, eq_comm]

theorem synthesize_only_eq_error_iff {kind : SectionKind} {e : SynthesisError} :
    (s.only kind).synthesize options git = .error e ↔
      s.synthesizeKind options git kind = .error e := by
  rw [synthesize_only]
  cases s.synthesizeKind options git kind <;> simp [Except.map]

theorem exists_synthesize_only_iff {kind : SectionKind} :
    (∃ part, (s.only kind).synthesize options git = .ok part) ↔
      ∃ own, s.synthesizeKind options git kind = .ok own := by
  simp only [synthesize_only_eq_ok_iff]
  constructor
  · rintro ⟨_, own, hown, -⟩
    exact ⟨own, hown⟩
  · rintro ⟨own, hown⟩
    exact ⟨_, own, hown, rfl⟩

/-- A task is wired alone as it is among the others. -/
theorem synthesize_ofTask {shared : Fargate.Settings} {entry : TaskEntry} {w : Fargate.WiredTask}
    (h : entry.synthesize shared options = .ok w) :
    (ofTask shared entry).synthesize options git =
      .ok { taskDefinitions := [w.task], diagnostics := w.diagnostics.map (·.message) } := by
  have hwired : [entry].mapM (·.synthesize shared options) = .ok [w] :=
    mapM_eq_ok_iff.mpr (.cons h .nil)
  have hsection : (ofTask shared entry).synthesizeKind options git .fargate =
      .ok { taskDefinitions := [w.task], diagnostics := w.diagnostics.map (·.message) } :=
    bind_eq_ok_iff.mpr ⟨_, hwired, by simp [pure, Except.pure]⟩
  change ((ofTask shared entry).only .fargate).synthesize options git = _
  exact synthesize_only_eq_ok_iff.mpr ⟨_, hsection, rfl⟩

/-- The synthesis of a stack in terms of those of its sections alone. -/
structure Sectionwise (s : Stack) (options : ValidationOptions) (git : GitMetadata) : Prop where
  accepted_iff : (∃ out, s.synthesize options git = .ok out) ↔
    ∀ kind, ∃ part, (s.only kind).synthesize options git = .ok part
  output : ∀ out, s.synthesize options git = .ok out →
    ∃ parts, (∀ kind, (s.only kind).synthesize options git = .ok (parts kind)) ∧
      out = .assemble parts
  /-- No task depends on the others, nor on anything else in the stack. -/
  tasks : ∀ out part, s.synthesize options git = .ok out → s.fargate = some part →
    List.Forall₂
      (fun entry task => ∀ git', ∃ found, (ofTask part.settings entry).synthesize options git' =
        .ok { taskDefinitions := [task], diagnostics := found })
      part.tasks out.taskDefinitions
  refused_iff : ∀ e, s.synthesize options git = .error e ↔
    ∃ kind, (s.only kind).synthesize options git = .error e ∧
      ∀ earlier ∈ kind.before, ∃ part, (s.only earlier).synthesize options git = .ok part

/-- No section reads or disturbs another. -/
theorem synthesize_sectionwise (s : Stack) (options : ValidationOptions) (git : GitMetadata) :
    s.Sectionwise options git where
  accepted_iff := by
    simp only [exists_synthesize_only_iff]
    constructor
    · rintro ⟨out, h⟩ kind
      obtain ⟨parts, hparts, -⟩ := synthesize_eq_ok_iff.mp h
      exact ⟨parts kind, hparts kind⟩
    · intro h
      choose parts hparts using h
      exact ⟨_, synthesize_eq_ok_iff.mpr ⟨parts, hparts, rfl⟩⟩
  output := by
    intro out h
    obtain ⟨parts, hparts, rfl⟩ := synthesize_eq_ok_iff.mp h
    refine ⟨fun kind => (parts kind).alone kind, fun kind => ?_, (Synthesis.assemble_alone _).symm⟩
    exact synthesize_only_eq_ok_iff.mpr ⟨_, hparts kind, rfl⟩
  tasks := by
    intro out part h hpart
    obtain ⟨parts, hparts, rfl⟩ := synthesize_eq_ok_iff.mp h
    have hfargate : part.synthesize options = .ok (parts .fargate) := by
      have := hparts .fargate
      rwa [synthesizeKind, hpart] at this
    obtain ⟨wired, hwired, hdefinitions⟩ := bind_eq_ok_iff.mp hfargate
    have htasks : (parts .fargate).taskDefinitions = wired.map (·.task) := by
      injection hdefinitions with hdefinitions
      rw [← hdefinitions]
    change List.Forall₂ _ _ (parts .fargate).taskDefinitions
    rw [htasks, List.forall₂_map_right_iff]
    exact (mapM_eq_ok_iff.mp hwired).imp fun entry w hw git' => ⟨_, synthesize_ofTask hw⟩
  refused_iff := by
    intro e
    rw [synthesize_eq_error_iff]
    simp only [exists_synthesize_only_iff, synthesize_only_eq_error_iff]

end Stack
end TelemetryWiring
