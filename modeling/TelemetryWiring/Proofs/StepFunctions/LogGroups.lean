import TelemetryWiring.Proofs.StepFunctions.Instrumentation

/-!
Names of the log groups that state machines are given. A name keeps everything of a construct path
but the difference between slashes and dashes, so new log groups collide exactly if the paths of
their machines differ in nothing else.
-/
namespace TelemetryWiring

/-- Whether two paths are the same for a reader who takes slashes for dashes. -/
def ReadsAlike (p q : String) : Prop :=
  List.Forall₂ (fun c d => c = d ∨ c ∈ ['/', '-'] ∧ d ∈ ['/', '-']) p.toList q.toList

instance (p q : String) : Decidable (ReadsAlike p q) :=
  inferInstanceAs (Decidable (List.Forall₂ _ p.toList q.toList))

theorem replaceChar_eq_iff_readsAlike {p q : String} :
    Text.replaceChar '/' '-' p = Text.replaceChar '/' '-' q ↔ ReadsAlike p q := by
  have hchars (c d : Char) : ((if c = '/' then '-' else c) = if d = '/' then '-' else d) ↔
      c = d ∨ c ∈ ['/', '-'] ∧ d ∈ ['/', '-'] := by grind
  unfold Text.replaceChar ReadsAlike
  rw [String.ofList_inj, ← List.forall₂_eq_eq_eq, List.forall₂_map_left_iff,
    List.forall₂_map_right_iff]
  simp only [hchars]

theorem StateMachine.logGroupName_eq_iff {m m' : StateMachine} {env : Option String} :
    m.logGroupName env = m'.logGroupName env ↔ ReadsAlike m.constructPath m'.constructPath := by
  unfold StateMachine.logGroupName
  rw [← replaceChar_eq_iff_readsAlike, ← String.toList_inj, ← String.toList_inj]
  simp only [String.toList_append, List.append_cancel_right_eq, List.append_cancel_left_eq]

namespace StepFunctions.Instrumenter

/-- The names of the log groups that machines log to, as far as they are known. -/
def logGroupNames (machines : List StateMachine) : List String :=
  machines.filterMap fun m => m.logGroup?.map (·.name)

variable {c : Config} {m : StateMachine} {i i' : Instrumenter}
  {machines machines' : List StateMachine}

/-- A machine that logs nowhere yet is given the log group that is named for its path. -/
theorem name_logGroup_instrument (h : m.logGroup? = none) :
    (instrument c m).logGroup?.map (·.name) = some (m.logGroupName c.identity.env) := by
  rcases continues_forwarded c m with ⟨previous, hprevious, -⟩ | ⟨-, hname⟩
  · cases h.symm.trans hprevious
  · exact congrArg some hname

theorem logGroupNames_of_add (hnew : ∀ m ∈ machines, m.logGroup? = none)
    (hadd : i.add machines = .ok () (i', machines')) :
    logGroupNames machines' = machines.map (·.logGroupName i.config.identity.env) := by
  rcases i.add_cases machines with ⟨-, e, hcase⟩ | ⟨-, hcase⟩
  · cases hcase.symm.trans hadd
  · cases hcase.symm.trans hadd
    rw [logGroupNames, List.filterMap_map, ← List.filterMap_eq_map]
    exact List.filterMap_congr fun m hm => name_logGroup_instrument (hnew m hm)

/-- An accepted call gives each of its machines without a log group a new one, and no two of these
have the same name exactly if no two of the machines have paths that read alike. -/
theorem nodup_logGroupNames_of_add_iff (hnew : ∀ m ∈ machines, m.logGroup? = none)
    (hadd : i.add machines = .ok () (i', machines')) :
    (logGroupNames machines').length = machines.length ∧
      ((logGroupNames machines').Nodup ↔
        machines.Pairwise fun m m' => ¬ReadsAlike m.constructPath m'.constructPath) := by
  rw [logGroupNames_of_add hnew hadd]
  refine ⟨List.length_map .., ?_⟩
  rw [List.Nodup, List.pairwise_map]
  simp only [ne_eq, StateMachine.logGroupName_eq_iff]

/-- Machines of which one has a dash where no other has a slash. -/
theorem nodup_logGroupNames_of_dash_in_path :
    ∃ i, ofSettings { identity := { env := some "prod" } } {} = .ok i ∧
      ∃ i' machines', i.add
          [{ StateMachine.ofAccount "orders" "1" "eu-west-1" with path := some "shop/orders" },
           { StateMachine.ofAccount "orders" "1" "eu-west-1" with path := some "shop-eu/orders" },
           .ofAccount "orders" "1" "eu-west-1"] = .ok () (i', machines') ∧
        (logGroupNames machines').Nodup := by
  refine ⟨_, rfl, _, _, (fun hadd => ⟨hadd, ?_⟩) rfl⟩
  exact (nodup_logGroupNames_of_add_iff (by decide) hadd).2.mpr (by decide)

/-- A path with a slash and a name with a dash for it are different paths of one log group. -/
theorem logGroups_of_slash_and_dash_collide :
    ∃ i machines i' machines', ofSettings {} {} = .ok i ∧
      (∀ m ∈ machines, m.logGroup? = none) ∧ (machines.map (·.constructPath)).Nodup ∧
      i.add machines = .ok () (i', machines') ∧ ¬(logGroupNames machines').Nodup :=
  ⟨_, [{ StateMachine.ofAccount "orders" "123456789012" "eu-west-1" with
        path := some "shop/orders" },
      .ofAccount "shop-orders" "123456789012" "eu-west-1"],
    _, _, rfl, by decide, by decide, rfl, by decide⟩

end StepFunctions.Instrumenter
end TelemetryWiring
