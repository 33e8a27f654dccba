import TelemetryWiring.Proofs.Lambda.Owned

/-!
Adding the owned functions again. Each of them is a fixed point of instrumentation, so what is owned
stays as it is, and only the findings about missing layers come back.
-/
namespace TelemetryWiring.Lambda.Instrumenter

variable {i i' : Instrumenter} {functions : List LambdaFunction} {found : List Diagnostic}

/-- The owned copies of functions that were just added can be added again. Nothing that is owned
changes, nothing is reported as replaced, and the findings about layers are those of before. -/
theorem add_owned_again (hgit : i.effectiveGit.IsPlain) (hnames : (functions.map (·.name)).Nodup)
    (hadd : i.add functions = .ok found i') :
    ∃ owned i'' again,
      owned.map some = functions.map (fun f => i'.function? f.name) ∧
      i'.add owned = .ok again i'' ∧
      i''.functions = i'.functions ∧
      (∀ d ∈ again, d.isOverwrite = false) ∧
      again = found.filter (·.isLayerFinding) := by
  obtain ⟨hchecks, hfound, hi'⟩ := add_eq_ok_iff.mp hadd
  have howned (f : LambdaFunction) (hf : f ∈ functions) :
      i'.function? f.name = some (i.instrument f).value := by
    rw [function?_of_add hadd, lastNamed_of_nodup hnames hf]
    rfl
  have hagain (f : LambdaFunction) : i'.instrument (i.instrument f).value =
      ⟨(i.instrument f).value, (i.instrument f).diagnostics.filter (·.isLayerFinding)⟩ := by
    rw [instrument_of_add hadd, instrument_instrument hgit]
  have hfindings : (functions.map fun f => (i.instrument f).value).flatMap
      (fun g => (i'.instrument g).diagnostics) = found.filter (·.isLayerFinding) := by
    rw [hfound, List.filter_flatMap, List.flatMap_map]
    simp only [hagain]
  refine ⟨functions.map fun f => (i.instrument f).value, _, _, ?_,
    add_eq_ok_iff.mpr ⟨?_, rfl, rfl⟩, ?_, ?_, hfindings⟩
  · rw [List.map_map]
    apply List.map_congr_left
    intro f hf
    exact (howned f hf).symm
  · intro g hg
    obtain ⟨f, hf, rfl⟩ := List.mem_map.mp hg
    have hsame := i.sameIdentity_instrument f
    have htransport : i'.transport = i.transport := by rw [hi']
    rw [htransport, check_congr hsame.name hsame.runtime]
    exact hchecks f hf
  · -- storing again what is owned under its name leaves the list as it is
    apply storeAll_of_find?
    intro g hg
    obtain ⟨g', hg', rfl⟩ := List.mem_map.mp hg
    obtain ⟨f, hf, rfl⟩ := List.mem_map.mp hg'
    have hname : (i.instrument f).value.name = f.name := (i.sameIdentity_instrument f).name
    rw [hagain]
    change i'.function? (i.instrument f).value.name = some (i.instrument f).value
    rw [hname]
    exact howned f hf
  · rw [hfindings]
    intro d hd
    have hlayer : d.isLayerFinding = true := (List.mem_filter.mp hd).2
    cases d <;> first | rfl | cases hlayer

theorem add_owned_again_of_three_runtimes :
    ∃ i, ofSettings
        { layers := { python := { version := some 100 }, extension := { version := some 60 } }
          apiKeys := { plain := some "key" }
          identity := { env := some "live" }
          tags := some "stage:live" } {} {} = .ok i ∧
      (i.setGit { commitSha := some "1111" }).effectiveGit.IsPlain ∧
      ∃ i' found,
        (i.setGit { commitSha := some "1111" }).add
          [{ LambdaFunction.ofAccount "orders" "123456789012" "eu-west-1" "python3.12" "app.run" with
              environment := .ofList [("DD_TAGS", "team:shop legacy,git.commit.sha:0000")] },
           .ofAccount "thumbs" "123456789012" "eu-west-1" "nodejs20.x" "index.run",
           .ofAccount "old" "123456789012" "eu-west-1" "go1.x" "main"] = .ok found i' ∧
        ∃ owned i'' again,
          owned.map some = ["orders", "thumbs", "old"].map i'.function? ∧
          i'.add owned = .ok again i'' ∧
          i''.functions = i'.functions ∧
          (∀ d ∈ again, d.isOverwrite = false) ∧
          again = found.filter (·.isLayerFinding) := by
  refine ⟨_, rfl, by decide, ?_⟩
  apply Exists.imp
  · intro i'
    apply Exists.imp
    intro found hadd
    exact ⟨hadd, add_owned_again (by decide) (by decide) hadd⟩
  · exact ⟨_, _, rfl⟩

end TelemetryWiring.Lambda.Instrumenter
