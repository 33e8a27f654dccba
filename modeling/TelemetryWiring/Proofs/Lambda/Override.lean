import TelemetryWiring.Proofs.Lambda.Retag

/-!
Overrides of the source's metadata. One that comes before an addition counts when the function is
instrumented, which the configuration can turn off; one that comes after it is written onto the
functions that carry a tag list, whatever the configuration says. The two orders agree on a function
exactly where these two guards do, or where the override has nothing new to say.
-/
namespace TelemetryWiring.Lambda.Instrumenter

/-- The tags that a function carries once it is instrumented. -/
def tagsAfterAdd (i : Instrumenter) (f : LambdaFunction) : Tags := f.tagsWith i.config i.writtenGit

/-- Whether an override means the same for a function before and after the function is added. -/
def OverrideCommutes (i : Instrumenter) (f : LambdaFunction) (given : GitMetadata) : Prop :=
  (f.environment.contains tagsVariable || !(i.tagsAfterAdd f).isEmpty) =
      i.config.sourceCodeIntegration ∨
    ∀ e ∈ given.tags, (i.tagsAfterAdd f).get? e.1 = some (some e.2)

variable {i i' : Instrumenter} {functions : List LambdaFunction} {found : List Diagnostic}
  {f : LambdaFunction} {sha : String} {url : Option String}

/-- An override that comes first stands over the tags of the addition if the configuration lets
metadata in. -/
theorem get?_tagsAfterAdd_overrideGit (i : Instrumenter) (sha : String) (url : Option String)
    (f : LambdaFunction) (key : String) :
    ((i.overrideGit sha url).tagsAfterAdd f).get? key =
      if i.config.sourceCodeIntegration then
        (((GitMetadata.ofOverride sha url).value? key).map some).or ((i.tagsAfterAdd f).get? key)
      else (i.tagsAfterAdd f).get? key := by
  have hconfig : (i.overrideGit sha url).config = i.config := rfl
  unfold tagsAfterAdd LambdaFunction.tagsWith writtenGit
  rw [hconfig, effectiveGit_overrideGit]
  split
  · rw [Tags.get?_setAll_git, Tags.get?_setAll_git, GitMetadata.value?_orElse, Option.map_or,
      Option.or_assoc]
  · rfl

/-- Two guarded writes of the same values agree if their guards do, or if the values stand there
already. -/
theorem guarded_eq_iff {given : GitMetadata} (tags : Tags) (late early : Bool) :
    (∀ key ∈ GitMetadata.tagKeys,
      (if late then ((given.value? key).map some).or (tags.get? key) else tags.get? key) =
        if early then ((given.value? key).map some).or (tags.get? key) else tags.get? key) ↔
      late = early ∨ ∀ e ∈ given.tags, tags.get? e.1 = some (some e.2) := by
  by_cases hguards : late = early
  · simp [hguards]
  · -- just one side writes, so they agree where the write changes nothing
    have hwrite (key : String) :
        ((if late then ((given.value? key).map some).or (tags.get? key) else tags.get? key) =
          if early then ((given.value? key).map some).or (tags.get? key) else tags.get? key) ↔
        ((given.value? key).map some).or (tags.get? key) = tags.get? key := by
      cases late <;> cases early <;> simp [eq_comm] at hguards ⊢
    simp only [hwrite, hguards, false_or]
    constructor
    · intro h e he
      have hvalue := GitMetadata.mem_tags_iff.mp he
      have hkey := h e.1 (GitMetadata.mem_tagKeys_of_mem_tags he)
      rw [hvalue] at hkey
      exact hkey.symm
    · intro h key _
      cases hvalue : given.value? key with
      | none => rfl
      | some value => exact (h (key, value) (GitMetadata.mem_tags_iff.mpr hvalue)).symm

theorem carriedTags_retag_instrument_iff (hgit : i.effectiveGit.IsPlain)
    (hgiven : (GitMetadata.ofOverride sha url).IsPlain) (hskips : i.config.skips f = false) :
    (∀ key ∈ GitMetadata.tagKeys,
      ((i.instrument f).value.retag (.ofOverride sha url)).carriedTags.get? key =
        ((i.overrideGit sha url).instrument f).value.carriedTags.get? key) ↔
      i.OverrideCommutes f (.ofOverride sha url) := by
  have hgit' : (i.overrideGit sha url).effectiveGit.IsPlain := by
    rw [effectiveGit_overrideGit]
    exact hgiven.orElse hgit
  have hlate : (i.instrument f).value.carriedTags = i.tagsAfterAdd f :=
    carriedTags_instrument hgit hskips
  have hearly : ((i.overrideGit sha url).instrument f).value.carriedTags =
      (i.overrideGit sha url).tagsAfterAdd f := carriedTags_instrument hgit' hskips
  simp only [LambdaFunction.get?_carriedTags_retag hgiven, hlate, hearly, contains_tags_instrument hskips,
    get?_tagsAfterAdd_overrideGit]
  exact guarded_eq_iff ..

/-- An override after an addition and one before it leave the same on every function that was not
added. On an added one that was instrumented, they give the same commit and repository among its
tags exactly if the function carries a tag list after the addition just when the configuration
writes metadata, or if what the override gives stands there already. -/
theorem override_after_add_iff (hgit : i.effectiveGit.IsPlain)
    (hgiven : (GitMetadata.ofOverride sha url).IsPlain)
    (hadd : i.add functions = .ok found i') :
    ∃ j noted, (i.overrideGit sha url).add functions = .ok noted j ∧
      (∀ name, lastNamed name functions = none →
        (i'.overrideGit sha url).function? name = j.function? name) ∧
      ∀ name f, lastNamed name functions = some f → i.config.skips f = false →
        ∃ late early, (i'.overrideGit sha url).function? name = some late ∧
          j.function? name = some early ∧
          ((∀ key ∈ GitMetadata.tagKeys,
              late.carriedTags.get? key = early.carriedTags.get? key) ↔
            i.OverrideCommutes f (.ofOverride sha url)) := by
  have hchecks := (add_eq_ok_iff.mp hadd).1
  obtain ⟨j, noted, hj⟩ : ∃ j noted, (i.overrideGit sha url).add functions = .ok noted j :=
    ⟨_, _, add_eq_ok_iff.mpr ⟨hchecks, rfl, rfl⟩⟩
  refine ⟨j, noted, hj, ?others, ?added⟩
  case others =>
    intro name hnone
    rw [function?_overrideGit, function?_of_add hadd, function?_of_add hj, hnone,
      function?_overrideGit]
    rfl
  case added =>
    intro name f hlast hskips
    refine ⟨(i.instrument f).value.retag (.ofOverride sha url),
      ((i.overrideGit sha url).instrument f).value, ?_, ?_,
      carriedTags_retag_instrument_iff hgit hgiven hskips⟩
    · rw [function?_overrideGit, function?_of_add hadd, hlast]
      rfl
    · rw [function?_of_add hj, hlast]
      rfl

theorem override_after_add_of_detected_commit :
    ∃ i i' found,
      ofSettings { layers := { python := { version := some 100 } } } {} {} = .ok i ∧
      (i.setGit { commitSha := some "1111" }).add
        [.ofAccount "fn" "123456789012" "us-east-1" "python3.12" "app.run"] = .ok found i' ∧
      ∃ j noted late early,
        ((i.setGit { commitSha := some "1111" }).overrideGit "2222" none).add
          [.ofAccount "fn" "123456789012" "us-east-1" "python3.12" "app.run"] = .ok noted j ∧
        (i'.overrideGit "2222" none).function? "fn" = some late ∧
        j.function? "fn" = some early ∧
        ∀ key ∈ GitMetadata.tagKeys,
          late.carriedTags.get? key = early.carriedTags.get? key := by
  obtain ⟨i, hi⟩ : ∃ i,
      ofSettings { layers := { python := { version := some 100 } } } {} {} = .ok i := ⟨_, rfl⟩
  obtain ⟨i', found, hadd⟩ : ∃ i' found, (i.setGit { commitSha := some "1111" }).add
      [.ofAccount "fn" "123456789012" "us-east-1" "python3.12" "app.run"] = .ok found i' := by
    cases hi
    exact ⟨_, _, rfl⟩
  have hgit : (i.setGit { commitSha := some "1111" }).effectiveGit.IsPlain := by
    cases hi
    decide
  have hgiven : (GitMetadata.ofOverride "2222" none).IsPlain := by decide
  obtain ⟨j, noted, hj, -, hfn⟩ := override_after_add_iff hgit hgiven hadd
  obtain ⟨late, early, hlate, hearly, hiff⟩ := hfn "fn" _ rfl (by cases hi; decide)
  have hcommutes := hiff.mpr (.inl (by cases hi; decide))
  exact ⟨i, i', found, hi, hadd, j, noted, late, early, hj, hlate, hearly, hcommutes⟩

/-- With nothing detected beforehand, an override does not reach a function that was added without
tags, although one that comes first does. -/
theorem override_misses_function_without_tags :
    ∃ i, ofSettings { layers := { python := { version := some 100 } } } {} {} = .ok i ∧
      ∃ i' found j noted late early,
        i.add [.ofAccount "fn" "123456789012" "us-east-1" "python3.12" "app.run"] =
          .ok found i' ∧
        (i.overrideGit "2222" none).add
          [.ofAccount "fn" "123456789012" "us-east-1" "python3.12" "app.run"] = .ok noted j ∧
        (i'.overrideGit "2222" none).function? "fn" = some late ∧
        j.function? "fn" = some early ∧
        late.carriedTags.get? "git.commit.sha" = none ∧
        early.carriedTags.get? "git.commit.sha" = some (some "2222") :=
  ⟨_, rfl, _, _, _, _, _, _, rfl, rfl, rfl, rfl, by decide, by decide⟩

end TelemetryWiring.Lambda.Instrumenter
