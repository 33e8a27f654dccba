import TelemetryWiring.Proofs.Lambda.History

/-!
Runs of additions without overrides. Such a run is told by its additions alone: each name is owned
once, in the order in which the names first came, and under it stands the last function of that name
as a new instrumenter would instrument it with the metadata of that time. A refused addition leaves
no trace, and functions may be added together or one batch after the other.
-/
namespace TelemetryWiring.Lambda

/-- Whether a request writes metadata onto functions that are owned already. -/
def Request.isOverride : Request → Bool
  | .overrideGit .. | .applyContext .. => true
  | .add .. | .setGit .. => false

/-- A function that was added, and where the source was found to come from at that time. -/
structure Addition where
  function : LambdaFunction
  git : GitMetadata

/-- The functions that requests add, in order. One that fails the check keeps out all that are to be
added with it. -/
def additions (t : Transport) (git : GitMetadata) : List Request → List Addition
  | [] => []
  | .add functions :: rest =>
    (if functions.all fun f => (t.check f).isOk then functions.map (Addition.mk · git) else []) ++
      additions t git rest
  | .setGit found :: rest => additions t found rest
  | .overrideGit .. :: rest | .applyContext .. :: rest => additions t git rest

/-- The last addition of a name. -/
def lastAddition (name : String) (additions : List Addition) : Option Addition :=
  lastValue name (additions.map fun a => (a.function.name, a))

namespace Instrumenter

/-- What instrumentation makes of an added function with the metadata of its time. -/
def instrumentAt (i : Instrumenter) (a : Addition) : Noted LambdaFunction :=
  (i.setGit a.git).instrument a.function

/-- The findings that a request answers with; an addition that is refused has none. -/
def answer (i : Instrumenter) : Request → List Diagnostic
  | .add functions =>
    match i.add functions with
    | .ok found _ => found
    | .error .. => []
  | .overrideGit .. | .applyContext .. | .setGit .. => []

/-- The findings that requests answer with, one request after the other. -/
def answers (i : Instrumenter) : List Request → List Diagnostic
  | [] => []
  | request :: rest => i.answer request ++ (i.serve request).answers rest

variable {i j : Instrumenter} {functions xs ys : List LambdaFunction}

theorem isOk_iff {ε : Type} {x : Except ε Unit} : x.isOk = true ↔ x = .ok () := by
  cases x <;> simp [Except.isOk, Except.toBool]

theorem all_isOk_iff {t : Transport} :
    (functions.all fun f => (t.check f).isOk) = true ↔ ∀ f ∈ functions, t.check f = .ok () := by
  rw [List.all_eq_true]
  exact forall₂_congr fun _ _ => isOk_iff

/-- An addition stores what it instruments, or changes nothing. -/
theorem serve_add (i : Instrumenter) (functions : List LambdaFunction) :
    i.serve (.add functions) =
      if functions.all fun f => (i.transport.check f).isOk then
        { i with
          functions := storeAll i.functions (functions.map fun f => (i.instrument f).value)
          diagnostics := i.diagnostics ++ functions.flatMap fun f => (i.instrument f).diagnostics }
      else i := by
  split
  · rename_i hchecks
    have hadd := add_eq_ok_iff.mpr ⟨all_isOk_iff.mp hchecks, rfl, rfl⟩
    rw [serve, hadd]
    rfl
  · rename_i hchecks
    cases hadd : i.add functions with
    | error e i' =>
      cases unchanged_of_add_eq_error hadd
      rw [serve, hadd]
      rfl
    | ok found i' => exact absurd (all_isOk_iff.mpr (add_eq_ok_iff.mp hadd).1) hchecks

theorem storeAll_append (kept functions others : List LambdaFunction) :
    storeAll kept (functions ++ others) = storeAll (storeAll kept functions) others :=
  List.foldl_append

theorem map_name_store (f : LambdaFunction) (kept : List LambdaFunction) :
    (store f kept).map (·.name) = addOnce (kept.map (·.name)) f.name := by
  induction kept with
  | nil => rfl
  | cons g kept ih =>
    rw [store]
    by_cases hg : g.name = f.name
    · rw [if_pos hg, addOnce_of_mem (by simp [hg]), List.map_cons, List.map_cons, hg]
    · rw [if_neg hg, List.map_cons, List.map_cons, ih]
      by_cases hmem : f.name ∈ kept.map (·.name)
      · rw [addOnce_of_mem hmem, addOnce_of_mem (List.mem_cons_of_mem _ hmem)]
      · have hfresh : f.name ∉ g.name :: kept.map (·.name) := by
          rw [List.mem_cons, not_or]
          exact ⟨fun heq => hg heq.symm, hmem⟩
        rw [addOnce_of_not_mem hmem, addOnce_of_not_mem hfresh, List.cons_append]

theorem map_name_storeAll (kept functions : List LambdaFunction) :
    (storeAll kept functions).map (·.name) =
      (functions.map (·.name)).foldl addOnce (kept.map (·.name)) := by
  induction functions generalizing kept with
  | nil => rfl
  | cons f functions ih =>
    change (storeAll (store f kept) functions).map (·.name) = _
    rw [ih, map_name_store, List.map_cons, List.foldl_cons]

theorem name_instrumentAt (i : Instrumenter) (a : Addition) :
    (i.instrumentAt a).value.name = a.function.name :=
  ((i.setGit a.git).sameIdentity_instrument a.function).name

theorem lastNamed_instrumentAt (i : Instrumenter) (name : String) (added : List Addition) :
    lastNamed name (added.map fun a => (i.instrumentAt a).value) =
      (lastAddition name added).map fun a => (i.instrumentAt a).value := by
  have hnamed : (added.map fun a => (i.instrumentAt a).value).map (fun f => (f.name, f)) =
      (added.map fun a => (a.function.name, a)).map
        fun e => (e.1, (i.instrumentAt e.2).value) := by
    rw [List.map_map, List.map_map]
    exact List.map_congr_left fun a _ => Prod.ext (i.name_instrumentAt a) rfl
  rw [lastNamed, hnamed, lastAddition]
  exact lastValue_map (fun a => (i.instrumentAt a).value) name _

/-- After a run without overrides, what is owned is what its additions stored over what was owned
before. -/
theorem functions_run {requests : List Request} (hplain : ∀ r ∈ requests, r.isOverride = false)
    (i : Instrumenter) :
    (i.run requests).functions =
      storeAll i.functions
        ((additions i.transport i.git requests).map fun a => (i.instrumentAt a).value) := by
  induction requests generalizing i with
  | nil => rfl
  | cons request requests ih =>
    have hrest (r : Request) (hr : r ∈ requests) : r.isOverride = false :=
      hplain r (List.mem_cons_of_mem _ hr)
    change ((i.serve request).run requests).functions = _
    rw [ih hrest]
    cases request with
    | setGit git => rfl
    | overrideGit sha url => cases hplain _ List.mem_cons_self
    | applyContext context => cases hplain _ List.mem_cons_self
    | add functions =>
      rw [serve_add, additions, List.map_append, storeAll_append]
      split
      · -- instrumentation does not look at what is owned, so later additions fare alike
        rw [List.map_map]
        rfl
      · rfl

/-- A request adds to the findings what it answers. -/
theorem diagnostics_serve (i : Instrumenter) (request : Request) :
    (i.serve request).diagnostics = i.diagnostics ++ i.answer request := by
  cases request with
  | setGit git => exact (List.append_nil _).symm
  | overrideGit sha url => exact (List.append_nil _).symm
  | applyContext context =>
    rw [answer, List.append_nil, serve, applyContext]
    split <;> rfl
  | add functions =>
    cases hadd : i.add functions with
    | error e i' =>
      cases unchanged_of_add_eq_error hadd
      rw [serve, answer, hadd]
      exact (List.append_nil _).symm
    | ok found i' =>
      obtain ⟨-, -, hi'⟩ := add_eq_ok_iff.mp hadd
      rw [serve, answer, hadd]
      exact congrArg diagnostics hi'

theorem diagnostics_run (i : Instrumenter) (requests : List Request) :
    (i.run requests).diagnostics = i.diagnostics ++ i.answers requests := by
  induction requests generalizing i with
  | nil => exact (List.append_nil _).symm
  | cons request requests ih =>
    change ((i.serve request).run requests).diagnostics = _
    rw [ih, diagnostics_serve, answers, List.append_assoc]

/-- An addition is refused exactly if one of its functions fails the check. -/
theorem exists_add_eq_error_iff :
    (∃ e i', i.add functions = .error e i') ↔
      ∃ f ∈ functions, ∃ e, i.transport.check f = .error e := by
  rw [← exists_forM_eq_error_iff]
  rcases i.add_cases functions with ⟨e, hcheck, hadd⟩ | ⟨hchecks, hadd⟩
  · exact iff_of_true ⟨e, i, hadd⟩ ⟨e, hcheck⟩
  · simp [hadd, hchecks]

/-- Functions that pass the check can be added together or one batch after the other. -/
theorem add_append (i : Instrumenter) (hxs : ∀ f ∈ xs, i.transport.check f = .ok ())
    (hys : ∀ f ∈ ys, i.transport.check f = .ok ()) :
    ∃ j found k found', i.add xs = .ok found j ∧ j.add ys = .ok found' k ∧
      i.add (xs ++ ys) = .ok (found ++ found') k := by
  refine ⟨_, _, _, _, add_eq_ok_iff.mpr ⟨hxs, rfl, rfl⟩, add_eq_ok_iff.mpr ⟨hys, rfl, rfl⟩,
    add_eq_ok_iff.mpr ⟨?_, ?_, ?_⟩⟩
  · intro f hf
    rcases List.mem_append.mp hf with hf | hf
    · exact hxs f hf
    · exact hys f hf
  · rw [List.flatMap_append]
    rfl
  · rw [List.map_append, storeAll_append, ← List.append_assoc]
    rfl

/-- What requests have made of a new instrumenter, told by their additions. -/
structure Reflects (i : Instrumenter) (requests : List Request) (j : Instrumenter) : Prop where
  names_nodup : (j.functions.map (·.name)).Nodup
  /-- Names stand in the order in which they were first added. -/
  names : j.functions.map (·.name) =
    ((additions i.transport i.git requests).map (·.function.name)).eraseDups
  /-- Nothing else that was added counts for the function of a name. -/
  owned : ∀ name, j.function? name =
    (lastAddition name (additions i.transport i.git requests)).map
      fun a => (i.instrumentAt a).value
  diagnostics : j.diagnostics = i.diagnostics ++ i.answers requests
  refused_iff : ∀ functions, (∃ e k, j.add functions = .error e k) ↔
    ∃ f ∈ functions, ∃ e, i.transport.check f = .error e
  /-- A call that is refused leaves everything as it found it. -/
  unchanged_of_error : ∀ functions e k, j.add functions = .error e k → k = j
  add_append : ∀ xs ys, (∀ f ∈ xs, i.transport.check f = .ok ()) →
    (∀ f ∈ ys, i.transport.check f = .ok ()) →
      ∃ k found l found', j.add xs = .ok found k ∧ k.add ys = .ok found' l ∧
        j.add (xs ++ ys) = .ok (found ++ found') l

/-- A new instrumenter knows its configuration and what was found when that was resolved. -/
theorem exists_resolved_of_ofSettings {settings defaults : Settings} {options : ValidationOptions}
    (h : ofSettings settings defaults options = .ok i) :
    ∃ resolved, settings.resolve defaults options = .ok resolved ∧
      i = {
        config := resolved.value
        transport := .ofConfig resolved.value
        diagnostics := resolved.diagnostics } := by
  obtain ⟨resolved, hresolved, h⟩ := bind_eq_ok_iff.mp h
  cases h
  exact ⟨resolved, hresolved, rfl⟩

/-- A new instrumenter, whatever it is asked but overrides, reflects its additions. -/
theorem reflects_run {settings defaults : Settings} {options : ValidationOptions}
    (h : ofSettings settings defaults options = .ok i) {requests : List Request}
    (hplain : ∀ r ∈ requests, r.isOverride = false) :
    ∃ resolved, settings.resolve defaults options = .ok resolved ∧
      i = {
        config := resolved.value
        transport := .ofConfig resolved.value
        diagnostics := resolved.diagnostics } ∧
      i.Reflects requests (i.run requests) := by
  obtain ⟨resolved, hresolved, hi⟩ := exists_resolved_of_ofSettings h
  have hnew : i.functions = [] := by rw [hi]
  have hfunctions := functions_run hplain i
  rw [hnew] at hfunctions
  have hnames : (i.run requests).functions.map (·.name) =
      ((additions i.transport i.git requests).map (·.function.name)).foldl addOnce [] := by
    rw [hfunctions, map_name_storeAll, List.map_map]
    congr 1
    exact List.map_congr_left fun a _ => i.name_instrumentAt a
  refine ⟨resolved, hresolved, hi, ?_⟩
  constructor
  case names_nodup =>
    rw [hnames]
    exact nodup_foldl_addOnce List.nodup_nil
  case names => rw [hnames, foldl_addOnce_nil]
  case owned =>
    intro name
    rw [function?, hfunctions, find?_storeAll, lastNamed_instrumentAt]
    exact Option.or_none
  case diagnostics => exact i.diagnostics_run requests
  case refused_iff =>
    intro functions
    rw [exists_add_eq_error_iff, run_transport]
  case unchanged_of_error => exact fun _ _ _ => unchanged_of_add_eq_error
  case add_append =>
    intro xs ys hxs hys
    rw [← run_transport i requests] at hxs hys
    exact (i.run requests).add_append hxs hys

/-- A run with a refused addition between two that name one function. -/
theorem reflects_run_of_refused_addition :
    ∃ i requests, ofSettings
        { flushMetricsToLogs := some false
          apiKeys := { secretArn := some "arn:aws:secretsmanager:key" }
          layers := { python := { version := some 100 }, node := { version := some 110 } } }
        {} {} = .ok i ∧
      requests =
        [.setGit { commitSha := some "1111" },
         .add [.ofAccount "orders" "123456789012" "us-east-1" "python3.12" "app.run",
           .ofAccount "bills" "123456789012" "us-east-1" "python3.12" "app.run"],
         .add [.ofAccount "late" "123456789012" "us-east-1" "python3.12" "app.run",
           .ofAccount "thumbs" "123456789012" "us-east-1" "nodejs20.x" "index.run"],
         .setGit { commitSha := some "2222" },
         .add [.ofAccount "bills" "123456789012" "us-east-1" "python3.12" "new.run",
           .ofAccount "bills" "123456789012" "us-east-1" "python3.12" "newer.run"]] ∧
      (∀ r ∈ requests, r.isOverride = false) ∧
      (i.run requests).functions.map (·.name) = ["orders", "bills"] ∧
      i.Reflects requests (i.run requests) := by
  refine ⟨_, _, (fun hnew => ⟨hnew, rfl, by decide, rfl, ?_⟩) rfl⟩
  exact (reflects_run hnew (by decide)).choose_spec.2.2

end Instrumenter
end TelemetryWiring.Lambda
