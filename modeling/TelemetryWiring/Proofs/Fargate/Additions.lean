import TelemetryWiring.Proofs.Fargate.Run

/-!
Additions of containers to a task over whole runs. What a call is told depends on the names that the
calls before it took, a call that is refused leaves no trace, and nothing is ever changed but the
end of the list of containers.
-/
namespace TelemetryWiring.Fargate

/-- The name that a call asks for: one of its own, or its id. -/
def requestedName (call : String × ContainerOptions) : String := call.2.containerName.getD call.1

namespace WiredTask

/-- A task with more containers. -/
def append (w : WiredTask) (added : List Container) : WiredTask :=
  { w with task := { w.task with containers := w.task.containers ++ added } }

/-- A name that no container may be given: one of the wiring's, in use or not, or one in use. -/
def IsOccupied (w : WiredTask) (name : String) : Prop :=
  name ∈ reservedNames ∨ name ∈ w.task.containers.map (·.name)

/-- What a task does with a call: first the name counts, then the reservations. -/
structure Answers (w : WiredTask) (call : String × ContainerOptions) : Prop where
  taken_iff :
    (∃ w', w.addContainer call.1 call.2 = .error (.containerNameTaken (requestedName call)) w') ↔
      w.IsOccupied (requestedName call)
  undersized_iff : (∃ resource n w', w.addContainer call.1 call.2 =
      .error (.undersized (requestedName call) resource n) w') ↔
    ¬w.IsOccupied (requestedName call) ∧ ¬call.2.sizing.IsSufficient
  /-- One container of the name is appended, and nothing else is changed. -/
  appended_iff : (∃ c, c.name = requestedName call ∧
      w.addContainer call.1 call.2 = .ok c (w.append [c])) ↔
    ¬w.IsOccupied (requestedName call) ∧ call.2.sizing.IsSufficient
  /-- A call that fails leaves the task as it found it. -/
  unchanged_of_error : ∀ e w', w.addContainer call.1 call.2 = .error e w' → w' = w

theorem isTaken_eq_true_iff {w : WiredTask} {name : String} :
    w.isTaken name = true ↔ w.IsOccupied name := by
  rw [← Bool.not_eq_false, isTaken_eq_false_iff, IsOccupied, ← not_or, not_not]

theorem answers (w : WiredTask) (call : String × ContainerOptions) : w.Answers call := by
  have hunchanged : ∀ e w', w.addContainer call.1 call.2 = .error e w' → w' = w :=
    fun _ _ => unchanged_of_addContainer_eq_error
  have hcases := w.addContainer_cases call.1 call.2
  simp only [isTaken_eq_true_iff, ← Bool.not_eq_true] at hcases
  -- the conditions exclude one another, and so do the answers
  rcases hcases with
    ⟨htaken, hadd⟩ | ⟨hfree, hshort, resource, n, hadd⟩ | ⟨hfree, hsizing, hadd⟩
  · exact {
      taken_iff := iff_of_true ⟨w, hadd⟩ htaken
      undersized_iff := iff_of_false (by simp [hadd]) fun h => h.1 htaken
      appended_iff := iff_of_false (by simp [hadd]) fun h => h.1 htaken
      unchanged_of_error := hunchanged }
  · exact {
      taken_iff := iff_of_false (by simp [hadd]) hfree
      undersized_iff := iff_of_true ⟨resource, n, w, hadd⟩ ⟨hfree, hshort⟩
      appended_iff := iff_of_false (by simp [hadd]) fun h => hshort h.2
      unchanged_of_error := hunchanged }
  · exact {
      taken_iff := iff_of_false (by simp [hadd]) hfree
      undersized_iff := iff_of_false (by simp [hadd]) fun h => h.2 hsizing
      appended_iff := iff_of_true ⟨_, w.containerOf_name call, hadd⟩ ⟨hfree, hsizing⟩
      unchanged_of_error := hunchanged }

/-- After any calls a task answers the next one by its name and its reservations, the run has
appended one container for each accepted call, and without the calls that were refused it comes to
the same. -/
theorem answers_run (w : WiredTask) (calls : List (String × ContainerOptions)) :
    (∀ call, (w.run calls).Answers call) ∧
    (∃ added, added.map (·.name) = (w.accepted calls).map requestedName ∧
      w.run calls = w.append added) ∧
    w.accepted (w.accepted calls) = w.accepted calls ∧
    w.run (w.accepted calls) = w.run calls := by
  refine ⟨fun call => answers _ call, ⟨(w.accepted calls).map w.containerOf, ?_, w.run_eq calls⟩,
    w.accepted_accepted calls, ?_⟩
  · rw [List.map_map]
    exact List.map_congr_left fun call _ => w.containerOf_name call
  · rw [w.run_eq (w.accepted calls), accepted_accepted, ← run_eq]

end WiredTask
end TelemetryWiring.Fargate
