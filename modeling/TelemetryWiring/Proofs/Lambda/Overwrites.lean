import TelemetryWiring.Proofs.Lambda.Skipped

/-!
What instrumentation leaves of a function, and what it says about the rest. All variables that are
written ahead of the tag list make one list of writes, which never gives a variable two values; so
of each variable at most the first write has a different value to replace, and that is the one that
is reported (`count_overwritten_assign`).
-/
namespace TelemetryWiring

namespace LambdaFunction

variable {f : LambdaFunction} {writes : List (String × String)}

theorem count_overwriteNote (f : LambdaFunction) (written value key previous : String) :
    (f.overwriteNote written value).count (.variableOverwritten f.name key previous) =
      if written = key ∧ f.environment.get? key = some previous ∧ previous ≠ value then 1 else 0 := by
  unfold overwriteNote
  by_cases hkey : written = key
  · subst hkey
    cases f.environment.get? written with
    | none => simp
    | some old => by_cases hvalue : old = value <;> grind
  · cases f.environment.get? written with
    | none => simp [hkey]
    | some old => by_cases hvalue : old = value <;> simp [hkey, hvalue]

/-- A variable that consistent writes start with keeps the value that it is given. -/
theorem get?_assign_of_head {e : String × String} (h : IsConsistent (e :: writes)) :
    ((f.setVariable e.1 e.2).assign writes).value.environment.get? e.1 = some e.2 := by
  have hset : (f.setVariable e.1 e.2).environment.get? e.1 = some e.2 := by
    rw [get?_setVariable, if_pos rfl]
  rw [assign_value]
  dsimp only
  rw [Dict.get?_insertMany, hset]
  cases hlast : lastValue e.1 writes with
  | none => rfl
  | some value =>
    have hmem := List.mem_cons_of_mem e (mem_of_lastValue hlast)
    have hvalue : value = e.2 := h _ hmem e List.mem_cons_self rfl
    rw [hvalue]
    rfl

/-- Consistent writes report a value once if they replace it by a different one, and else never. -/
theorem count_overwritten_assign (h : IsConsistent writes) (f : LambdaFunction)
    (key previous : String) :
    (f.assign writes).diagnostics.count (.variableOverwritten f.name key previous) =
      if f.environment.get? key = some previous ∧
        (f.assign writes).value.environment.get? key ≠ some previous then 1 else 0 := by
  induction writes generalizing f with
  | nil => simp [assign]
  | cons e writes ih =>
    have hrest : ((f.setVariable e.1 e.2).assign writes).diagnostics.count
        (.variableOverwritten f.name key previous) = _ := ih h.tail (f.setVariable e.1 e.2)
    change (f.overwriteNote e.1 e.2 ++ ((f.setVariable e.1 e.2).assign writes).diagnostics).count
      (.variableOverwritten f.name key previous) =
        if f.environment.get? key = some previous ∧
          ((f.setVariable e.1 e.2).assign writes).value.environment.get? key ≠ some previous
        then 1 else 0
    rw [List.count_append, count_overwriteNote, hrest, get?_setVariable]
    by_cases hkey : e.1 = key
    · -- later writes of this variable find their value there already
      subst hkey
      rw [get?_assign_of_head h]
      simp [eq_comm]
    · simp [hkey]

/-- Redirection replaces a handler for the families that start through one alone. -/
theorem family_of_redirection_ne {addLayers : Bool} (h : (f.redirection addLayers).1 ≠ f.handler) :
    RuntimeFamily.ofRuntime f.runtime = .node ∨ RuntimeFamily.ofRuntime f.runtime = .python := by
  unfold redirection at h
  cases hfamily : RuntimeFamily.ofRuntime f.runtime <;>
    simp only [hfamily, RuntimeFamily.tracerHandler?, ne_eq, not_true_eq_false] at h
  case node => exact .inl rfl
  case python => exact .inr rfl

end LambdaFunction

namespace Lambda

/-- Whether a variable is one of those that instrumentation writes, by its name. -/
def IsManagedVariable (key : String) : Prop :=
  "DD_".toList <+: key.toList ∨ key = wrapperVariable.1

instance : DecidablePred IsManagedVariable := fun key =>
  inferInstanceAs (Decidable ("DD_".toList <+: key.toList ∨ key = wrapperVariable.1))

theorem isManagedVariable_of_mem_assignmentKeys :
    ∀ key ∈ assignmentKeys, IsManagedVariable key := by decide +kernel

namespace Instrumenter

variable {i i' : Instrumenter} {f : LambdaFunction} {found : List Diagnostic}

theorem isManagedVariable_of_mem_writes {e : String × String} (h : e ∈ i.writes f) :
    IsManagedVariable e.1 := by
  rcases mem_writes h with rfl | rfl | h
  · exact .inr rfl
  · change IsManagedVariable "DD_LAMBDA_HANDLER"
    decide
  · apply isManagedVariable_of_mem_assignmentKeys
    exact i.keys_assignments.subset (List.mem_map_of_mem h)

theorem diagnostics_redirected (i : Instrumenter) (f : LambdaFunction) :
    (i.redirected f).diagnostics = (f.assign (i.redirection f).2).diagnostics := by
  unfold redirected redirection
  split
  · change (LambdaFunction.assign { f with handler := (f.redirection i.config.addLayers).1 }
      (f.redirection i.config.addLayers).2).diagnostics = _
    apply LambdaFunction.diagnostics_assign_congr <;> rfl
  · rfl

/-- Wiring reports what its writes report, as if they were made one after the other. -/
theorem diagnostics_wire (i : Instrumenter) (f : LambdaFunction) :
    (i.wire f).diagnostics = (f.assign (i.writes f)).diagnostics := by
  -- what is done to layers, log group and tags in between is not looked at by any write
  have hextended := i.extended_eq f
  have hredirection : i.redirection (i.extended f) = i.redirection f := by
    rw [hextended]
    rfl
  have hredirected : (i.redirected (i.extended f)).diagnostics =
      (f.assign (i.redirection f).2).diagnostics := by
    rw [diagnostics_redirected, hredirection]
    apply LambdaFunction.diagnostics_assign_congr <;> rw [hextended]
  have hvalue := i.redirected_value (i.extended f)
  rw [hredirection, hextended] at hvalue
  rw [wire_eq, writes, LambdaFunction.assign_append]
  dsimp only
  rw [hredirected]
  refine congrArg ((f.assign (i.redirection f).2).diagnostics ++ ·) ?_
  apply LambdaFunction.diagnostics_assign_congr <;>
    rw [LambdaFunction.tagResource_eq, LambdaFunction.forwardLogs_eq, LambdaFunction.assign_value,
      hextended, hvalue]

theorem diagnostics_instrument (hskips : i.config.skips f = false) :
    (i.instrument f).diagnostics =
      (i.library (f.grantKey i.config)).diagnostics ++ (f.assign (i.writes f)).diagnostics := by
  rw [instrument_of_not_skips hskips]
  dsimp only
  rw [diagnostics_wire, writes_layered]
  refine congrArg ((i.library (f.grantKey i.config)).diagnostics ++ ·) ?_
  apply LambdaFunction.diagnostics_assign_congr <;>
    rw [library_value_eq, LambdaFunction.grantKey_eq]

theorem count_overwritten_instrument (hskips : i.config.skips f = false) (key previous : String) :
    (i.instrument f).diagnostics.count (.variableOverwritten f.name key previous) =
      if key ≠ tagsVariable ∧ f.environment.get? key = some previous ∧
        (i.instrument f).value.environment.get? key ≠ some previous then 1 else 0 := by
  have hlayer : (i.library (f.grantKey i.config)).diagnostics.count
      (.variableOverwritten f.name key previous) = 0 := by
    rw [List.count_eq_zero]
    intro hmem
    cases isLayerFinding_of_mem_library hmem
  rw [diagnostics_instrument hskips, List.count_append, hlayer, Nat.zero_add,
    LambdaFunction.count_overwritten_assign (i.isConsistent_writes f), LambdaFunction.assign_value]
  dsimp only
  rw [Dict.get?_insertMany]
  by_cases hkey : key = tagsVariable
  · have hnone : lastValue key (i.writes f) = none := by
      rw [hkey, lastValue_tagsVariable_writes]
    rw [hnone]
    simp [hkey]
  · rw [get?_instrument_of_ne hskips hkey]
    simp [hkey]

theorem handler_instrument (hskips : i.config.skips f = false) :
    (i.instrument f).value.handler = (i.redirection f).1 := by
  rw [instrument_of_not_skips hskips]
  dsimp only
  rw [handler_wire, library_value_eq, LambdaFunction.grantKey_eq]
  rfl

theorem redirects_of_redirection_ne (h : (i.redirection f).1 ≠ f.handler) :
    i.config.redirectHandler = true ∧ (RuntimeFamily.ofRuntime f.runtime = .node ∨
      RuntimeFamily.ofRuntime f.runtime = .python) := by
  unfold redirection at h
  split at h
  · rename_i hredirect
    exact ⟨hredirect, LambdaFunction.family_of_redirection_ne h⟩
  · exact absurd rfl h

/-- No variable is removed. -/
theorem contains_instrument_of_contains (hskips : i.config.skips f = false) {key : String}
    (h : f.environment.contains key = true) :
    (i.instrument f).value.environment.contains key = true := by
  by_cases hkey : key = tagsVariable
  · rw [hkey] at h ⊢
    rw [contains_tags_instrument hskips, h, Bool.true_or]
  · unfold Dict.contains at h ⊢
    rw [get?_instrument_of_ne hskips hkey, Option.isSome_or, h, Bool.or_true]

/-- Variables of other names keep their values. -/
theorem get?_instrument_of_not_managed (hskips : i.config.skips f = false) {key : String}
    (h : ¬IsManagedVariable key) :
    (i.instrument f).value.environment.get? key = f.environment.get? key := by
  have hkey : key ≠ tagsVariable := by
    rintro rfl
    exact h (by decide)
  have hnone : lastValue key (i.writes f) = none := by
    apply lastValue_eq_none
    rintro e he rfl
    exact h (isManagedVariable_of_mem_writes he)
  rw [get?_instrument_of_ne hskips hkey, hnone]
  rfl

/-- Instrumentation that changes nothing but its own, and tells which values it replaced. -/
structure ChangesOnlyItsOwn (c : Config) (before after : LambdaFunction) (found : List Diagnostic) :
    Prop where
  identity : after.SameIdentity before
  handler : after.handler ≠ before.handler →
    c.redirectHandler = true ∧ (RuntimeFamily.ofRuntime before.runtime = .node ∨
      RuntimeFamily.ofRuntime before.runtime = .python)
  keys : ∀ key, before.environment.contains key = true → after.environment.contains key = true
  others : ∀ key, ¬IsManagedVariable key →
    after.environment.get? key = before.environment.get? key
  /-- The tag list is merged and not replaced, so it is never reported. -/
  overwritten : ∀ key previous,
    found.count (.variableOverwritten before.name key previous) =
      if key ≠ tagsVariable ∧ before.environment.get? key = some previous ∧
        after.environment.get? key ≠ some previous then 1 else 0

theorem changesOnlyItsOwn_instrument (hskips : i.config.skips f = false) :
    ChangesOnlyItsOwn i.config f (i.instrument f).value (i.instrument f).diagnostics := by
  constructor
  case identity => exact i.sameIdentity_instrument f
  case handler =>
    rw [handler_instrument hskips]
    exact redirects_of_redirection_ne
  case keys =>
    intro key hpresent
    exact contains_instrument_of_contains hskips hpresent
  case others =>
    intro key hother
    exact get?_instrument_of_not_managed hskips hother
  case overwritten => exact count_overwritten_instrument hskips

/-- A function that is added alone and not skipped is owned with all but the managed parts as they
were, and the addition reports each value that was replaced once, and no other. -/
theorem changesOnlyItsOwn_of_add (hadd : i.add [f] = .ok found i')
    (hwired : ∀ d ∈ found, d.isMissingLayer = false) :
    ∃ g, i'.function? f.name = some g ∧ ChangesOnlyItsOwn i.config f g found := by
  have hfound : found = (i.instrument f).diagnostics := by
    rw [(add_eq_ok_iff.mp hadd).2.1]
    simp
  have hlast : lastNamed f.name [f] = some f := by simp [lastNamed, lastValue]
  have hskips : i.config.skips f = false := by
    rw [skips_eq_false_iff, ← hfound]
    exact hwired
  refine ⟨(i.instrument f).value, ?_, ?_⟩
  · rw [function?_of_add hadd, hlast]
    rfl
  · rw [hfound]
    exact changesOnlyItsOwn_instrument hskips

/-- A function that is added with a wrapper of its own, which is replaced twice and reported once. -/
theorem changesOnlyItsOwn_of_add_of_wrapper :
    ∃ i, ofSettings
        { apiKeys := { plain := some "1234" }
          layers := { java := { version := some 20 }, extension := { version := some 65 } }
          identity := { env := some "live" }
          protectionMode := some .on } {} {} = .ok i ∧
      ∃ f, f = { LambdaFunction.ofAccount "fn" "123456789012" "us-east-1" "java21" "app.Main" with
          environment := .ofList [("AWS_LAMBDA_EXEC_WRAPPER", "/opt/mine"), ("DD_ENV", "test"),
            ("DD_TAGS", "team:a"), ("STAGE", "x")] } ∧
        ∃ i' found, i.add [f] = .ok found i' ∧
          found = [.variableOverwritten "fn" "AWS_LAMBDA_EXEC_WRAPPER" "/opt/mine",
            .variableOverwritten "fn" "DD_ENV" "test"] ∧
          (∀ d ∈ found, d.isMissingLayer = false) ∧
          ∃ g, i'.function? f.name = some g ∧ ChangesOnlyItsOwn i.config f g found := by
  refine ⟨_, (fun hnew => ⟨hnew, ?_⟩) rfl⟩
  refine ⟨_, rfl, _, _, (fun hadd => ⟨hadd, ?_⟩) rfl⟩
  refine ⟨?_, ?_, changesOnlyItsOwn_of_add hadd ?_⟩ <;> decide +kernel

end Instrumenter
end Lambda
end TelemetryWiring
