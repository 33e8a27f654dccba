import TelemetryWiring.Proofs.Call
import TelemetryWiring.Proofs.Checks
import TelemetryWiring.Proofs.Lambda.Instrumentation

/-!
The functions that an instrumenter owns. Adding stores the instrumented functions one after the
other by name, so what is owned under a name is the last function stored under it.
-/
namespace TelemetryWiring.Lambda.Instrumenter

/-- Stores functions one after the other. -/
def storeAll (kept functions : List LambdaFunction) : List LambdaFunction :=
  functions.foldl (fun kept f => store f kept) kept

/-- The last function of a name in a list. -/
def lastNamed (name : String) (functions : List LambdaFunction) : Option LambdaFunction :=
  lastValue name (functions.map fun f => (f.name, f))

theorem lastNamed_cons (name : String) (f : LambdaFunction) (functions : List LambdaFunction) :
    lastNamed name (f :: functions) =
      (lastNamed name functions).or (if f.name = name then some f else none) := rfl

theorem find?_cons_name (name : String) (f : LambdaFunction) (kept : List LambdaFunction) :
    (f :: kept).find? (·.name == name) =
      if f.name = name then some f else kept.find? (·.name == name) := by
  rw [List.find?_cons]
  by_cases h : f.name = name
  · simp [h]
  · have hname : (f.name == name) = false := by simp [h]
    rw [hname, if_neg h]

theorem find?_store (name : String) (f : LambdaFunction) (kept : List LambdaFunction) :
    (store f kept).find? (·.name == name) =
      if f.name = name then some f else kept.find? (·.name == name) := by
  induction kept with
  | nil => exact find?_cons_name name f []
  | cons g kept ih =>
    rw [store]
    by_cases hg : g.name = f.name
    · rw [if_pos hg, find?_cons_name, find?_cons_name, hg]
      by_cases h : f.name = name <;> simp [h]
    · rw [if_neg hg, find?_cons_name, find?_cons_name, ih]
      by_cases h : f.name = name
      · have hother : g.name ≠ name := h ▸ hg
        simp [h, hother]
      · simp [h]

theorem find?_storeAll (name : String) (kept functions : List LambdaFunction) :
    (storeAll kept functions).find? (·.name == name) =
      (lastNamed name functions).or (kept.find? (·.name == name)) := by
  induction functions generalizing kept with
  | nil => rfl
  | cons f functions ih =>
    change (storeAll (store f kept) functions).find? (·.name == name) = _
    rw [ih, find?_store, lastNamed_cons, Option.or_assoc]
    by_cases h : f.name = name <;> simp [h]

/-- Storing the function that is owned under its name already changes nothing. -/
theorem store_of_find? {f : LambdaFunction} {kept : List LambdaFunction}
    (h : kept.find? (·.name == f.name) = some f) : store f kept = kept := by
  induction kept with
  | nil => cases h
  | cons g kept ih =>
    rw [store]
    by_cases hg : g.name = f.name
    · have hgf : g = f := by simpa [hg] using h
      rw [if_pos hg, hgf]
    · rw [if_neg hg, ih (by simpa [hg] using h)]

theorem storeAll_of_find? {kept functions : List LambdaFunction}
    (h : ∀ f ∈ functions, kept.find? (·.name == f.name) = some f) :
    storeAll kept functions = kept := by
  induction functions with
  | nil => rfl
  | cons f functions ih =>
    change storeAll (store f kept) functions = kept
    rw [store_of_find? (h f List.mem_cons_self)]
    exact ih fun g hg => h g (List.mem_cons_of_mem _ hg)

theorem store_of_fresh {f : LambdaFunction} {kept : List LambdaFunction}
    (h : f.name ∉ kept.map (·.name)) : store f kept = kept ++ [f] := by
  induction kept with
  | nil => rfl
  | cons g kept ih =>
    rw [List.map_cons, List.mem_cons, not_or] at h
    rw [store, if_neg (Ne.symm h.1), ih h.2, List.cons_append]

/-- Functions of different names, none of them owned yet, are stored in their order. -/
theorem storeAll_of_fresh {kept functions : List LambdaFunction}
    (hnames : (functions.map (·.name)).Nodup)
    (hfresh : ∀ f ∈ functions, f.name ∉ kept.map (·.name)) :
    storeAll kept functions = kept ++ functions := by
  induction functions generalizing kept with
  | nil => simp [storeAll]
  | cons f functions ih =>
    obtain ⟨hf, hrest⟩ := List.nodup_cons.mp hnames
    change storeAll (store f kept) functions = _
    rw [store_of_fresh (hfresh f List.mem_cons_self), ih hrest]
    · simp
    · intro g hg hmem
      rw [List.map_append, List.mem_append] at hmem
      rcases hmem with hkept | hsame
      · exact hfresh g (List.mem_cons_of_mem _ hg) hkept
      · have hname : g.name = f.name := List.mem_singleton.mp hsame
        exact hf (List.mem_map.mpr ⟨g, hg, hname⟩)

theorem lastNamed_of_nodup {functions : List LambdaFunction}
    (h : (functions.map (·.name)).Nodup) {f : LambdaFunction} (hf : f ∈ functions) :
    lastNamed f.name functions = some f := by
  have hkeys : ((functions.map fun f => (f.name, f)).map (·.1)).Nodup := by
    rw [List.map_map]
    exact h
  exact lastValue_of_isConsistent (isConsistent_of_nodup hkeys) (List.mem_map.mpr ⟨f, hf, rfl⟩)

theorem name_of_lastNamed {name : String} {functions : List LambdaFunction} {f : LambdaFunction}
    (h : lastNamed name functions = some f) : f ∈ functions ∧ f.name = name := by
  obtain ⟨g, hg, heq⟩ := List.mem_map.mp (mem_of_lastValue h)
  cases heq
  exact ⟨hg, rfl⟩

/-- A change of functions that keeps their names keeps which one is the last of a name. -/
theorem lastNamed_map {change : LambdaFunction → LambdaFunction}
    (hname : ∀ f, (change f).name = f.name) (name : String) (functions : List LambdaFunction) :
    lastNamed name (functions.map change) = (lastNamed name functions).map change := by
  induction functions with
  | nil => rfl
  | cons f functions ih =>
    rw [List.map_cons, lastNamed_cons, lastNamed_cons, ih, hname, Option.map_or]
    split <;> rfl

variable {i i' : Instrumenter} {functions : List LambdaFunction} {found : List Diagnostic}

theorem run_keep (f : LambdaFunction) (i : Instrumenter) :
    (keep f).run i = .ok (i.instrument f).diagnostics
      { i with functions := store (i.instrument f).value i.functions } := rfl

/-- Functions are instrumented alike whether they are kept together or one by one, and none of them
is refused. -/
theorem run_keepAll (functions : List LambdaFunction) (i : Instrumenter) :
    (keepAll functions).run i = .ok (functions.flatMap fun f => (i.instrument f).diagnostics)
      { i with
        functions := storeAll i.functions (functions.map fun f => (i.instrument f).value) } := by
  induction functions generalizing i with
  | nil => rfl
  | cons f functions ih =>
    unfold keepAll
    rw [EStateM.run_bind, run_keep]
    dsimp only
    rw [EStateM.run_bind, ih]
    -- instrumentation does not look at what is kept, so the rest fare as they would alone
    rfl

/-- An addition is refused by a check, before anything is changed, or does all of its work. -/
theorem add_cases (i : Instrumenter) (functions : List LambdaFunction) :
    (∃ e, functions.forM i.transport.check = .error e ∧ i.add functions = .error e i) ∨
    (functions.forM i.transport.check = .ok () ∧
      i.add functions = .ok (functions.flatMap fun f => (i.instrument f).diagnostics)
        { i with
          functions := storeAll i.functions (functions.map fun f => (i.instrument f).value)
          diagnostics :=
            i.diagnostics ++ functions.flatMap fun f => (i.instrument f).diagnostics }) := by
  have hstep (f : LambdaFunction) :
      (do ofExcept ((← get).transport.check f) : Call Instrumenter Unit).run i =
        (ofExcept (i.transport.check f) : Call Instrumenter Unit).run i := rfl
  unfold add
  rw [EStateM.run_bind, Call.run_forM_of_checks hstep, Call.run_ofExcept]
  cases functions.forM i.transport.check with
  | error e => exact .inl ⟨e, rfl, rfl⟩
  | ok _ =>
    right
    dsimp only
    rw [EStateM.run_bind, run_keepAll]
    exact ⟨rfl, rfl⟩

/-- An addition answers its findings if the checks let it. -/
theorem answer_add (i : Instrumenter) (functions : List LambdaFunction) :
    (i.add functions).answer = functions.forM i.transport.check >>= fun _ =>
      .ok (functions.flatMap fun f => (i.instrument f).diagnostics) := by
  rcases i.add_cases functions with ⟨e, hcheck, hadd⟩ | ⟨hchecks, hadd⟩
  · rw [hadd, hcheck]
    rfl
  · rw [hadd, hchecks]
    rfl

/-- What an accepted addition did. -/
theorem add_eq_ok_iff :
    i.add functions = .ok found i' ↔
      (∀ f ∈ functions, i.transport.check f = .ok ()) ∧
      found = functions.flatMap (fun f => (i.instrument f).diagnostics) ∧
      i' = { i with
        functions := storeAll i.functions (functions.map fun f => (i.instrument f).value)
        diagnostics := i.diagnostics ++ found } := by
  rw [← forM_eq_ok_iff]
  rcases i.add_cases functions with ⟨e, hcheck, hadd⟩ | ⟨hchecks, hadd⟩
  · simp [hadd, hcheck]
  · rw [hadd]
    constructor
    · intro h
      cases h
      exact ⟨hchecks, rfl, rfl⟩
    · rintro ⟨-, rfl, rfl⟩
      rfl

/-- An addition that is refused has changed nothing by then. -/
theorem unchanged_of_add_eq_error {e : WiringError} (h : i.add functions = .error e i') :
    i' = i := by
  rcases i.add_cases functions with ⟨_, -, hadd⟩ | ⟨-, hadd⟩
  · cases hadd.symm.trans h
    rfl
  · cases hadd.symm.trans h

/-- What is owned under a name after an addition: the last function of that name, instrumented, or
else what was owned before. -/
theorem function?_of_add (h : i.add functions = .ok found i') (name : String) :
    i'.function? name =
      ((lastNamed name functions).map fun f => (i.instrument f).value).or (i.function? name) := by
  have hname (f : LambdaFunction) : (i.instrument f).value.name = f.name :=
    (i.sameIdentity_instrument f).name
  obtain ⟨-, -, rfl⟩ := add_eq_ok_iff.mp h
  unfold function?
  rw [find?_storeAll, lastNamed_map hname]

/-- Instrumentation does not look at what is owned or at earlier findings. -/
theorem instrument_of_add (h : i.add functions = .ok found i') (f : LambdaFunction) :
    i'.instrument f = i.instrument f := by
  obtain ⟨-, -, rfl⟩ := add_eq_ok_iff.mp h
  rfl

theorem check_congr {t : Transport} {f g : LambdaFunction} (hname : g.name = f.name)
    (hruntime : g.runtime = f.runtime) : t.check g = t.check f := by
  unfold Transport.check
  rw [hname, hruntime]

end TelemetryWiring.Lambda.Instrumenter
