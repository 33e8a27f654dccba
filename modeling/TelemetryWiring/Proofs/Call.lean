import TelemetryWiring.Call

/-!
Calls taken apart. A check within a call leaves the state alone, and checks one after the other do
too, so a call that makes all of its checks first knows the state in which they were made.
-/
namespace TelemetryWiring

variable {σ α β : Type} {s t : σ} {e : WiringError}

theorem Outcome.toExcept_eq_ok_iff {o : Outcome σ α} {a : α} :
    o.toExcept = .ok (t, a) ↔ o = .ok a t := by
  cases o <;> simp [toExcept, and_comm]

namespace Call

theorem run_ofExcept (x : Except WiringError α) (s : σ) :
    (ofExcept x : Call σ α).run s =
      match x with
      | .ok a => .ok a s
      | .error e => .error e s := by
  cases x <;> rfl

/-- Steps that come to what checks come to, and leave the state alone, do so one after the other. -/
theorem run_forM_of_checks {step : α → Call σ Unit} {check : α → Except WiringError Unit}
    (h : ∀ a, (step a).run s = (ofExcept (check a) : Call σ Unit).run s) (l : List α) :
    (l.forM step).run s = (ofExcept (l.forM check) : Call σ Unit).run s := by
  induction l with
  | nil => rfl
  | cons a l ih =>
    change ((step a >>= fun _ => l.forM step) : Call σ Unit).run s =
      (ofExcept (check a >>= fun _ => l.forM check) : Call σ Unit).run s
    rw [EStateM.run_bind, h, run_ofExcept]
    cases check a with
    | error e => rfl
    | ok _ => exact ih

theorem run_forM_ofExcept (check : α → Except WiringError Unit) (l : List α) (s : σ) :
    (l.forM (fun a => ofExcept (check a)) : Call σ Unit).run s =
      (ofExcept (l.forM check) : Call σ Unit).run s :=
  run_forM_of_checks (fun _ => rfl) l

end Call
end TelemetryWiring
