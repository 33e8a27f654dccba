import TelemetryWiring.Proofs.Lambda.Wiring

/-!
Instrumenting a function again. Every writer of the wiring finds its work done on a function that
was wired, so the second time nothing is written and nothing is reported as replaced.
-/
namespace TelemetryWiring.Lambda.Instrumenter

/-- A function on which every writer of the wiring finds its work done. -/
structure IsWired (i : Instrumenter) (f : LambdaFunction) : Prop where
  extended : i.extended f = f
  redirected : i.redirected f = ⟨f, []⟩
  forwarded : f.forwardLogs i.config = f
  tagged : f.tagResource i.config = f
  assigned : f.assign i.assignments = ⟨f, []⟩
  written : f.writeTags i.config i.writtenGit = f

variable {i : Instrumenter} {f : LambdaFunction}

theorem IsWired.wire_eq (h : i.IsWired f) : i.wire f = ⟨f, []⟩ := by
  rw [Instrumenter.wire_eq]
  dsimp only
  rw [h.extended, h.redirected]
  dsimp only
  rw [h.forwarded, h.tagged, h.assigned, h.written]
  rfl

theorem mem_redirection {e : String × String} (h : e ∈ (i.redirection f).2) :
    e = wrapperVariable ∨ e = ("DD_LAMBDA_HANDLER", f.handler) := by
  unfold redirection at h
  split at h
  · exact LambdaFunction.mem_redirection h
  · cases h

theorem mem_writes {e : String × String} (h : e ∈ i.writes f) :
    e = wrapperVariable ∨ e = ("DD_LAMBDA_HANDLER", f.handler) ∨ e ∈ i.assignments := by
  rcases List.mem_append.mp h with h | h
  · exact (mem_redirection h).imp_right .inl
  · exact .inr (.inr h)

theorem handler_not_mem_assignments (i : Instrumenter) {e : String × String}
    (h : e ∈ i.assignments) : e.1 ≠ "DD_LAMBDA_HANDLER" := by
  intro hkey
  have habsent : "DD_LAMBDA_HANDLER" ∉ i.assignments.map (·.1) :=
    i.not_mem_keys_assignments (by decide +kernel)
  exact habsent (List.mem_map.mpr ⟨e, h, hkey⟩)

/-- Redirection and the other assignments never give a variable two values. -/
theorem isConsistent_writes (i : Instrumenter) (f : LambdaFunction) :
    IsConsistent (i.writes f) := by
  have hne : wrapperVariable.1 ≠ "DD_LAMBDA_HANDLER" := by decide
  have hassignments : IsConsistent i.assignments := isConsistent_of_nodup i.nodup_keys_assignments
  have hwrapper (e : String × String) (he : e ∈ i.writes f) (hkey : e.1 = wrapperVariable.1) :
      e = wrapperVariable := by
    rcases mem_writes he with h | h | h
    · exact h
    · rw [h] at hkey
      exact absurd hkey.symm hne
    · exact i.eq_wrapperVariable_of_mem_assignments h hkey
  have hhandler (e : String × String) (he : e ∈ i.writes f) (hkey : e.1 = "DD_LAMBDA_HANDLER") :
      e = ("DD_LAMBDA_HANDLER", f.handler) := by
    rcases mem_writes he with h | h | h
    · rw [h] at hkey
      exact absurd hkey hne
    · exact h
    · exact absurd hkey (i.handler_not_mem_assignments h)
  intro a ha b hb hkey
  rcases mem_writes ha with rfl | rfl | ha'
  · rw [hwrapper b hb hkey.symm]
  · rw [hhandler b hb hkey.symm]
  · rcases mem_writes hb with rfl | rfl | hb'
    · rw [hwrapper a ha hkey]
    · rw [hhandler a ha hkey]
    · exact hassignments a ha' b hb' hkey

theorem ne_tagsVariable_of_mem_writes {e : String × String} (h : e ∈ i.writes f) :
    e.1 ≠ tagsVariable := by
  rcases mem_writes h with rfl | rfl | h
  · decide
  · change "DD_LAMBDA_HANDLER" ≠ tagsVariable
    decide
  · intro hkey
    have habsent : tagsVariable ∉ i.assignments.map (·.1) :=
      i.not_mem_keys_assignments (by decide +kernel)
    exact habsent (List.mem_map.mpr ⟨e, h, hkey⟩)

/-- Beside the tag list, the environment of a wired function is what was written for it over what it
had. -/
theorem get?_wire (i : Instrumenter) (f : LambdaFunction) {key : String}
    (hkey : key ≠ tagsVariable) :
    (i.wire f).value.environment.get? key =
      (lastValue key (i.writes f)).or (f.environment.get? key) := by
  rw [wire_value, LambdaFunction.get?_writeTags, if_neg fun h => hkey h.1]
  exact Dict.get?_insertMany ..

/-- A wired function has every variable that was written for it. -/
theorem get?_wire_of_mem_writes {e : String × String} (h : e ∈ i.writes f) :
    (i.wire f).value.environment.get? e.1 = some e.2 := by
  rw [get?_wire i f (ne_tagsVariable_of_mem_writes h),
    lastValue_of_isConsistent (i.isConsistent_writes f) h]
  rfl

/-- Beside the environment, the wiring leaves the furnished function as it is. -/
theorem wire_value_eq (i : Instrumenter) (f : LambdaFunction) :
    (i.wire f).value =
      { i.furnished f with environment := (i.wire f).value.environment } := by
  rw [wire_value, LambdaFunction.writeTags_eq]
  split <;> rfl

theorem sameIdentity_wire (i : Instrumenter) (f : LambdaFunction) :
    (i.wire f).value.SameIdentity f := by
  rw [wire_value_eq]
  exact ⟨rfl, rfl, rfl, rfl, rfl⟩

@[simp] theorem handler_wire (i : Instrumenter) (f : LambdaFunction) :
    (i.wire f).value.handler = (i.redirection f).1 := by rw [wire_value_eq]; rfl

@[simp] theorem layers_wire (i : Instrumenter) (f : LambdaFunction) :
    (i.wire f).value.layers = (i.extended f).layers := by rw [wire_value_eq]; rfl

@[simp] theorem tags_wire (i : Instrumenter) (f : LambdaFunction) :
    (i.wire f).value.tags = f.tags.insertMany i.config.resourceTags := by rw [wire_value_eq]; rfl

@[simp] theorem logGroup_wire (i : Instrumenter) (f : LambdaFunction) :
    (i.wire f).value.logGroup = f.forwardedGroup i.config := by rw [wire_value_eq]; rfl

@[simp] theorem secretReadGrants_wire (i : Instrumenter) (f : LambdaFunction) :
    (i.wire f).value.secretReadGrants = f.secretReadGrants := by rw [wire_value_eq]; rfl

theorem hasLayer_wire {arn : String} (h : f.HasLayer arn) : (i.wire f).value.HasLayer arn := by
  have hextended : (i.extended f).HasLayer arn := by
    unfold extended
    split
    · rcases f.attachExtension_cases i.config.layers.extension i.config.layerAccount with
        hcase | ⟨layer, hcase⟩
      · rw [hcase f (.refl f)]
        exact h
      · rw [hcase f (.refl f)]
        exact LambdaFunction.hasLayer_addLayer.mpr (.inl h)
    · exact h
  unfold LambdaFunction.HasLayer
  rw [layers_wire]
  exact hextended

theorem extended_wire (i : Instrumenter) (f : LambdaFunction) :
    i.extended (i.wire f).value = (i.wire f).value := by
  have hlayers := i.layers_wire f
  unfold extended at hlayers ⊢
  split
  · rename_i hextension
    rw [if_pos hextension] at hlayers
    rcases f.attachExtension_cases i.config.layers.extension i.config.layerAccount with
      hcase | ⟨layer, hcase⟩
    · exact hcase _ (i.sameIdentity_wire f)
    · rw [hcase _ (i.sameIdentity_wire f)]
      apply LambdaFunction.addLayer_of_hasLayer
      unfold LambdaFunction.HasLayer
      rw [hlayers, hcase f (.refl f)]
      exact LambdaFunction.hasLayer_addLayer.mpr (.inr rfl)
  · rfl

theorem redirected_wire (i : Instrumenter) (f : LambdaFunction) :
    i.redirected (i.wire f).value = ⟨(i.wire f).value, []⟩ := by
  have hhandler := i.handler_wire f
  have hvariables (e : String × String) (he : e ∈ (i.redirection f).2) :
      (i.wire f).value.environment.get? e.1 = some e.2 :=
    get?_wire_of_mem_writes (List.mem_append_left _ he)
  unfold redirection at hhandler hvariables
  unfold redirected
  split
  · rename_i hredirect
    rw [if_pos hredirect] at hhandler hvariables
    obtain ⟨hkept, hsubset⟩ :=
      LambdaFunction.redirection_of_redirected (i.sameIdentity_wire f).runtime hhandler
    change LambdaFunction.assign { (i.wire f).value with
      handler := ((i.wire f).value.redirection i.config.addLayers).1 } _ = _
    rw [hkept]
    exact LambdaFunction.assign_of_present fun e he => hvariables e (hsubset e he)
  · rfl

/-- What the wiring leaves needs no more wiring, if the metadata can stand in a tag list. -/
theorem isWired_wire (hgit : i.effectiveGit.IsPlain) (f : LambdaFunction) :
    i.IsWired (i.wire f).value := by
  constructor
  case extended => exact i.extended_wire f
  case redirected => exact i.redirected_wire f
  case forwarded =>
    exact LambdaFunction.forwardLogs_of_forwarded (i.sameIdentity_wire f).arn (i.logGroup_wire f)
  case tagged =>
    have htags := i.tags_wire f
    rw [LambdaFunction.tagResource_eq, htags, Dict.insertMany_insertMany, ← htags]
  case assigned =>
    apply LambdaFunction.assign_of_present
    intro e he
    exact get?_wire_of_mem_writes (List.mem_append_right _ he)
  case written =>
    apply LambdaFunction.writeTags_of_present
    rw [wire_value, LambdaFunction.tagsWith_writeTags (isPlain_writtenGit hgit),
      LambdaFunction.get?_writeTags]
    intro hne
    rw [if_pos ⟨rfl, hne⟩]

end TelemetryWiring.Lambda.Instrumenter
