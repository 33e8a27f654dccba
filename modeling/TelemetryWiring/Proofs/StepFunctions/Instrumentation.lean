import Mathlib.Data.List.Forall2
import TelemetryWiring.Proofs.AddOnce
import TelemetryWiring.Proofs.Call
import TelemetryWiring.Proofs.Checks
import TelemetryWiring.Proofs.Dict
import TelemetryWiring.Proofs.Forwarder
import TelemetryWiring.Proofs.Tags.Merge
import TelemetryWiring.StepFunctions.Instrumenter

/-!
Instrumentation of state machines. A call instruments all of its machines or none, what it does to a
machine it does not do twice, and the instrumenter remembers each machine from the first call that
brought it.
-/
namespace TelemetryWiring.StepFunctions.Instrumenter

/-- A destination of the executions' log that keeps the one that a machine had, with more filters
perhaps, or that is new where it had none. -/
def Continues (c : Config) (m : StateMachine) (group : LogGroup) : Prop :=
  (∃ previous, m.logGroup? = some previous ∧ group.name = previous.name ∧
    previous.subscriptionFilters <+: group.subscriptionFilters) ∨
  (m.logGroup? = none ∧ group.name = m.logGroupName c.identity.env)

/-- What becomes of a machine. -/
structure Instrumented (c : Config) (m m' : StateMachine) : Prop where
  name : m'.name = m.name
  arn : m'.arn = m.arn
  path : m'.path = m.path
  /-- Executions are logged in full, and the log is subscribed to the forwarder if there is one. -/
  logging : ∃ group, Continues c m group ∧
    (∀ forwarder, c.forwarderArn = some forwarder →
      group.hasFilter (filterName m.arn forwarder) = true) ∧
    m'.logging = some (.configured
      { level := .all, includeExecutionData := true, destination := some group })
  /-- Tags are kept but for those of the service's identity, the configured ones and two marks. -/
  tags : ∀ key, key ∉ c.identity.tags.map (·.1) →
    key ∉ (Tags.parse (c.tags.getD "")).entries.map (·.1) →
    key ≠ "DD_TRACE_ENABLED" → key ≠ "dd_cdk_construct" → m'.tags.get? key = m.tags.get? key

variable {c : Config} {m : StateMachine} {i : Instrumenter} {machines : List StateMachine}

/-- The destination once it is subscribed. -/
def forwarded (c : Config) (m : StateMachine) : LogGroup :=
  match c.forwarderArn with
  | some forwarder => (destination c m).subscribe m.arn forwarder false
  | none => destination c m

theorem instrument_eq (c : Config) (m : StateMachine) :
    instrument c m =
      { m with
        tags := m.tags.insertMany (machineTags c)
        logging := some (.configured
          { level := .all, includeExecutionData := true, destination := some (forwarded c m) }) } :=
  rfl

theorem continues_forwarded (c : Config) (m : StateMachine) : Continues c m (forwarded c m) := by
  have hname : (forwarded c m).name = (destination c m).name := by
    unfold forwarded
    split
    · exact LogGroup.subscribe_name ..
    · rfl
  have hfilters :
      (destination c m).subscriptionFilters <+: (forwarded c m).subscriptionFilters := by
    unfold forwarded
    split
    · exact LogGroup.subscriptionFilters_prefix_subscribe ..
    · exact List.prefix_rfl
  unfold Continues
  unfold destination at hname hfilters
  cases hgroup : m.logGroup? with
  | some previous =>
    rw [hgroup] at hname hfilters
    exact .inl ⟨previous, rfl, hname, hfilters⟩
  | none =>
    rw [hgroup] at hname
    exact .inr ⟨rfl, hname⟩

theorem hasFilter_forwarded {forwarder : String} (h : c.forwarderArn = some forwarder)
    (m : StateMachine) : (forwarded c m).hasFilter (filterName m.arn forwarder) = true := by
  rw [forwarded, h]
  exact LogGroup.hasFilter_subscribe ..

theorem get?_tags_instrument {key : String} (hidentity : key ∉ c.identity.tags.map (·.1))
    (hconfigured : key ∉ (Tags.parse (c.tags.getD "")).entries.map (·.1))
    (htrace : key ≠ "DD_TRACE_ENABLED") (hmark : key ≠ "dd_cdk_construct") :
    (instrument c m).tags.get? key = m.tags.get? key := by
  have hvalued : key ∉ (Tags.parse (c.tags.getD "")).valued.map (·.1) :=
    fun hmem => hconfigured ((Tags.keys_valued_sublist _).subset hmem)
  have hunwritten : lastValue key (machineTags c) = none := by
    rw [lastValue_eq_none_iff, machineTags, List.map_append, List.map_append, List.mem_append,
      List.mem_append, not_or, not_or]
    exact ⟨⟨hidentity, hvalued⟩, by simp [Construct.tag, htrace, hmark]⟩
  rw [instrument_eq, Dict.get?_insertMany, hunwritten, Option.none_or]

theorem instrumented_instrument (c : Config) (m : StateMachine) :
    Instrumented c m (instrument c m) where
  name := rfl
  arn := rfl
  path := rfl
  logging := ⟨_, continues_forwarded c m, fun _ h => hasFilter_forwarded h m, rfl⟩
  tags _ hidentity hconfigured htrace hmark :=
    get?_tags_instrument hidentity hconfigured htrace hmark

/-- What is subscribed already is found to be so. -/
theorem forwarded_instrument (c : Config) (m : StateMachine) :
    forwarded c (instrument c m) = forwarded c m := by
  change (match c.forwarderArn with
    | some forwarder => (forwarded c m).subscribe m.arn forwarder false
    | none => forwarded c m) = forwarded c m
  cases hforwarder : c.forwarderArn with
  | none => rfl
  | some forwarder => exact LogGroup.subscribe_of_hasFilter (hasFilter_forwarded hforwarder m) false

theorem instrument_instrument (c : Config) (m : StateMachine) :
    instrument c (instrument c m) = instrument c m := by
  rw [instrument_eq c (instrument c m), forwarded_instrument]
  have htags : (instrument c m).tags.insertMany (machineTags c) = (instrument c m).tags :=
    Dict.insertMany_insertMany ..
  rw [htags]
  rfl

/-- The instrumenter and the machines that a call of a caller leaves. -/
def attempt (i : Instrumenter) (machines : List StateMachine) :
    Instrumenter × List StateMachine := (i.add machines).state

/-- The instrumenter after calls one after the other. -/
def run (i : Instrumenter) (calls : List (List StateMachine)) : Instrumenter :=
  calls.foldl (fun i machines => (i.attempt machines).1) i

/-- The calls of a run that succeed, in order. -/
def accepted (i : Instrumenter) : List (List StateMachine) → List (List StateMachine)
  | [] => []
  | machines :: calls =>
    match i.add machines with
    | .ok _ (i', _) => machines :: i'.accepted calls
    | .error _ (i', _) => i'.accepted calls

theorem isUnresolved_iff :
    m.isUnresolved = true ↔ ∃ token, m.logging = some (.unresolved token) := by
  unfold StateMachine.isUnresolved
  rcases m.logging with _ | _ | _ <;> simp

theorem run_visit (i : Instrumenter) (done : List StateMachine) (m : StateMachine)
    (rest : List StateMachine) :
    (visit done.length).run (i, done ++ m :: rest) =
      .ok () ({ i with machineArns := addOnce i.machineArns m.arn },
        done ++ instrument i.config m :: rest) := by
  have hget : (done ++ m :: rest)[done.length]? = some m := by simp
  have hset : (done ++ m :: rest).set done.length (instrument i.config m) =
      done ++ instrument i.config m :: rest := by simp
  unfold visit
  rw [EStateM.run_bind, EStateM.run_get]
  dsimp only
  rw [hget]
  dsimp only
  rw [EStateM.run_set, hset]
  rfl

/-- Visits to the places of a list, after those before `rest`, instrument and record each machine
there. None of them fails. -/
theorem run_visits (i : Instrumenter) (done rest : List StateMachine) :
    ((List.range' done.length rest.length).forM visit).run (i, done ++ rest) =
      .ok () ({ i with machineArns := (rest.map (·.arn)).foldl addOnce i.machineArns },
        done ++ rest.map (instrument i.config)) := by
  induction rest generalizing i done with
  | nil => rfl
  | cons m rest ih =>
    -- the machine that is visited joins those that are done
    let i' : Instrumenter := { i with machineArns := addOnce i.machineArns m.arn }
    have hrest := ih i' (done ++ [instrument i.config m])
    rw [List.length_append, List.append_assoc, List.append_assoc] at hrest
    rw [List.length_cons, List.range'_succ]
    change ((visit done.length >>= fun _ =>
      (List.range' (done.length + 1) rest.length).forM visit) :
        Call (Instrumenter × List StateMachine) Unit).run _ = _
    rw [EStateM.run_bind, run_visit]
    exact hrest

theorem checkLogging_cases (m : StateMachine) :
    (m.isUnresolved = true ∧ ∃ e, checkLogging m = .error e) ∨
    (m.isUnresolved = false ∧ checkLogging m = .ok ()) := by
  unfold checkLogging
  cases m.isUnresolved with
  | true => exact .inl ⟨rfl, _, rfl⟩
  | false => exact .inr ⟨rfl, rfl⟩

/-- A call fails for a machine whose logging is not known yet, before anything is changed, else
every machine of it is instrumented and recorded. -/
theorem add_cases (i : Instrumenter) (machines : List StateMachine) :
    ((∃ m ∈ machines, m.isUnresolved = true) ∧ ∃ e, i.add machines = .error e (i, machines)) ∨
    (∀ m ∈ machines, m.isUnresolved = false) ∧
      i.add machines = .ok () (
        { i with machineArns := (machines.map (·.arn)).foldl addOnce i.machineArns },
        machines.map (instrument i.config)) := by
  unfold add
  rw [EStateM.run_bind, EStateM.run_get]
  dsimp only
  rw [EStateM.run_bind, Call.run_forM_ofExcept, Call.run_ofExcept]
  cases hchecks : machines.forM checkLogging with
  | error e =>
    obtain ⟨m, hm, _, hcheck⟩ := exists_forM_eq_error_iff.mp ⟨e, hchecks⟩
    rcases checkLogging_cases m with ⟨hunresolved, -⟩ | ⟨-, hok⟩
    · exact .inl ⟨⟨m, hm, hunresolved⟩, e, rfl⟩
    · cases hok.symm.trans hcheck
  | ok _ =>
    refine .inr ⟨fun m hm => ?_, ?_⟩
    · rcases checkLogging_cases m with ⟨-, _, hcheck⟩ | ⟨hknown, -⟩
      · cases hcheck.symm.trans (forM_eq_ok_iff.mp hchecks m hm)
      · exact hknown
    · dsimp only
      rw [List.range_eq_range']
      exact run_visits i [] machines

theorem add_of_known (h : ∀ m ∈ machines, m.isUnresolved = false) (i : Instrumenter) :
    i.add machines = .ok () (
      { i with machineArns := (machines.map (·.arn)).foldl addOnce i.machineArns },
      machines.map (instrument i.config)) := by
  rcases i.add_cases machines with ⟨⟨m, hm, hunresolved⟩, -⟩ | ⟨-, hadd⟩
  · rw [h m hm] at hunresolved
    cases hunresolved
  · exact hadd

/-- What instrumentation does to every machine holds, place by place, of a call that succeeds. -/
theorem forall₂_of_add {related : StateMachine → StateMachine → Prop} {i' : Instrumenter}
    {machines' : List StateMachine} (hadd : i.add machines = .ok () (i', machines'))
    (h : ∀ m, related m (instrument i.config m)) : List.Forall₂ related machines machines' := by
  rcases i.add_cases machines with ⟨-, e, hcase⟩ | ⟨-, hcase⟩
  · cases hcase.symm.trans hadd
  · cases hcase.symm.trans hadd
    rw [List.forall₂_map_right_iff, List.forall₂_same]
    exact fun m _ => h m

/-- What an instrumenter does with a call: everything it is asked for, or nothing. -/
structure AllOrNothing (i : Instrumenter) (machines : List StateMachine) : Prop where
  refused_iff : (∃ e i' machines', i.add machines = .error e (i', machines')) ↔
    ∃ m ∈ machines, ∃ token, m.logging = some (.unresolved token)
  /-- A call that fails leaves the instrumenter and the machines as it found them. -/
  unchanged_of_error : ∀ e i' machines', i.add machines = .error e (i', machines') →
    i' = i ∧ machines' = machines
  instrumented : ∀ i' machines', i.add machines = .ok () (i', machines') →
    List.Forall₂ (Instrumented i.config) machines machines'
  /-- The call made again at once, on what came out of it, changes nothing. -/
  add_again : ∀ i' machines', i.add machines = .ok () (i', machines') →
    i'.add machines' = .ok () (i', machines')

theorem add_add {i' : Instrumenter} {machines' : List StateMachine}
    (h : i.add machines = .ok () (i', machines')) : i'.add machines' = .ok () (i', machines') := by
  rcases i.add_cases machines with ⟨-, e, hadd⟩ | ⟨-, hadd⟩
  · cases hadd.symm.trans h
  · cases hadd.symm.trans h
    have hknown : ∀ m ∈ machines.map (instrument i.config), m.isUnresolved = false := by
      intro m hm
      obtain ⟨m, -, rfl⟩ := List.mem_map.mp hm
      rfl
    have harns : (machines.map (instrument i.config)).map (·.arn) = machines.map (·.arn) :=
      List.map_map
    have hrecorded : (machines.map (·.arn)).foldl addOnce
        ((machines.map (·.arn)).foldl addOnce i.machineArns) =
          (machines.map (·.arn)).foldl addOnce i.machineArns :=
      foldl_addOnce_of_subset fun arn harn => mem_foldl_addOnce.mpr (.inr harn)
    have hmachines : (machines.map (instrument i.config)).map (instrument i.config) =
        machines.map (instrument i.config) := by
      rw [List.map_map]
      exact List.map_congr_left fun m _ => instrument_instrument i.config m
    rw [add_of_known hknown]
    dsimp only
    rw [harns, hrecorded, hmachines]

theorem allOrNothing (i : Instrumenter) (machines : List StateMachine) :
    i.AllOrNothing machines := by
  constructor
  case refused_iff =>
    simp only [← isUnresolved_iff]
    rcases i.add_cases machines with ⟨hfound, hadd⟩ | ⟨hknown, hadd⟩
    · obtain ⟨e, hadd⟩ := hadd
      exact iff_of_true ⟨e, i, machines, hadd⟩ hfound
    · refine iff_of_false (by simp [hadd]) ?_
      rintro ⟨m, hm, hunresolved⟩
      rw [hknown m hm] at hunresolved
      cases hunresolved
  case unchanged_of_error =>
    intro e i' machines' hrefused
    rcases i.add_cases machines with ⟨-, _, hadd⟩ | ⟨-, hadd⟩
    · cases hadd.symm.trans hrefused
      exact ⟨rfl, rfl⟩
    · cases hadd.symm.trans hrefused
  case instrumented =>
    intro i' machines' hadd
    exact forall₂_of_add hadd (instrumented_instrument i.config)
  case add_again => exact fun _ _ h => add_add h

theorem run_cons (i : Instrumenter) (machines : List StateMachine)
    (calls : List (List StateMachine)) :
    i.run (machines :: calls) = (i.attempt machines).1.run calls := rfl

theorem config_run (i : Instrumenter) (calls : List (List StateMachine)) :
    (i.run calls).config = i.config := by
  induction calls generalizing i with
  | nil => rfl
  | cons machines calls ih =>
    rw [run_cons, ih, attempt]
    rcases i.add_cases machines with ⟨-, e, hadd⟩ | ⟨-, hadd⟩ <;> rw [hadd] <;> rfl

/-- A run records the machines of the calls that succeed, each where it first came. -/
theorem machineArns_run (i : Instrumenter) (calls : List (List StateMachine)) :
    (i.run calls).machineArns =
      ((i.accepted calls).flatten.map (·.arn)).foldl addOnce i.machineArns := by
  induction calls generalizing i with
  | nil => rfl
  | cons machines calls ih =>
    rw [run_cons, ih, attempt, accepted]
    rcases i.add_cases machines with ⟨-, e, hadd⟩ | ⟨-, hadd⟩
    · rw [hadd]
      rfl
    · rw [hadd]
      simp only [Outcome.state, List.flatten_cons, List.map_append, List.foldl_append]

/-- Every call to an instrumenter does all or nothing, whatever calls came before it. The machines
that it has recorded are those of the calls that succeeded, each once, in the order in which they
first came. -/
theorem allOrNothing_run {settings : Settings} {options : ValidationOptions}
    (h : ofSettings settings options = .ok i) (calls : List (List StateMachine)) :
    (∀ machines, (i.run calls).AllOrNothing machines) ∧ (i.run calls).config = i.config ∧
      (i.run calls).machineArns = ((i.accepted calls).flatten.map (·.arn)).eraseDups := by
  refine ⟨allOrNothing _, config_run i calls, ?_⟩
  unfold ofSettings at h
  obtain ⟨resolved, -, h⟩ := bind_eq_ok_iff.mp h
  cases h
  rw [machineArns_run]
  exact foldl_addOnce_nil _

/-- Three calls of which the second is refused, for a machine with logging that is not known yet:
the machine beside it is recorded only when the third call brings it again. -/
theorem allOrNothing_run_of_refused_call :
    let orders : StateMachine := .ofAccount "orders" "1" "eu-west-1"
    let refunds : StateMachine := .ofAccount "refunds" "1" "eu-west-1"
    let returns : StateMachine :=
      { name := "returns", arn := "arn:returns", logging := some (.unresolved "token") }
    let stock : StateMachine :=
      { name := "stock"
        arn := "arn:stock"
        logging := some (.configured
          { level := .error, destination := some { name := "/stock" } }) }
    ∃ i, ofSettings
        { identity := { env := some "prod" }
          forwarderArn := some "arn:aws:lambda:eu-west-1:1:function:forwarder"
          tags := some "team:shop" } {} = .ok i ∧
      (i.run [[orders, orders], [refunds, returns], [stock, refunds, orders]]).machineArns =
        ["arn:aws:states:eu-west-1:1:stateMachine:orders", "arn:stock",
          "arn:aws:states:eu-west-1:1:stateMachine:refunds"] ∧
      (i.run [[orders, orders], [refunds, returns]]).AllOrNothing [stock, refunds, orders] := by
  intro orders refunds returns stock
  refine ⟨_, (fun h => ⟨h, ?_, ?_⟩) rfl⟩
  · rw [(allOrNothing_run h _).2.2]
    decide
  · exact (allOrNothing_run h _).1 _

end TelemetryWiring.StepFunctions.Instrumenter
