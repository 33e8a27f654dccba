import TelemetryWiring.Proofs.Lambda.Owned

/-!
What an override of the source's metadata does to an instrumenter: it counts before everything known
so far, and it is written onto the owned functions that carry a tag list.
-/
namespace TelemetryWiring

/-- The metadata that an override gives; empty texts give nothing. -/
def GitMetadata.ofOverride (sha : String) (url : Option String) : GitMetadata where
  commitSha := if sha = "" then none else some sha
  repositoryUrl := url.filter (· ≠ "")

namespace LambdaFunction

/-- What an override does to a function that is owned already. -/
def retag (f : LambdaFunction) (given : GitMetadata) : LambdaFunction :=
  if f.environment.contains tagsVariable then f.writeGitTags given else f

theorem retag_eq (f : LambdaFunction) (given : GitMetadata) :
    f.retag given = { f with environment := (f.retag given).environment } := by
  unfold retag
  split
  · exact f.writeGitTags_eq given
  · rfl

theorem get?_retag_of_ne (f : LambdaFunction) (given : GitMetadata) {key : String}
    (hkey : key ≠ tagsVariable) :
    (f.retag given).environment.get? key = f.environment.get? key := by
  unfold retag
  split
  · exact f.get?_writeGitTags_of_ne given hkey
  · rfl

theorem retag_of_untagged {f : LambdaFunction} (h : f.environment.contains tagsVariable = false)
    (given : GitMetadata) : f.retag given = f := by simp [retag, h]

theorem retag_of_nothing_given {given : GitMetadata} (h : given.tags = []) (f : LambdaFunction) :
    f.retag given = f := by simp [retag, writeGitTags, h]

/-- The tags that are given stand over the tags of a function that carries a tag list. -/
theorem get?_carriedTags_retag {given : GitMetadata} (hgiven : given.IsPlain) (f : LambdaFunction)
    (key : String) :
    (f.retag given).carriedTags.get? key =
      if f.environment.contains tagsVariable then
        ((given.value? key).map some).or (f.carriedTags.get? key)
      else f.carriedTags.get? key := by
  unfold retag
  split
  · exact get?_carriedTags_writeGitTags hgiven key
  · rfl

/-- What the overrides of a list leave of a function, one after the other. -/
def retagAll (f : LambdaFunction) (overrides : List GitMetadata) : LambdaFunction :=
  overrides.foldl (·.retag ·) f

theorem retagAll_eq (f : LambdaFunction) (overrides : List GitMetadata) :
    f.retagAll overrides = { f with environment := (f.retagAll overrides).environment } := by
  induction overrides generalizing f with
  | nil => rfl
  | cons given overrides ih =>
    change (f.retag given).retagAll overrides =
      { f with environment := ((f.retag given).retagAll overrides).environment }
    rw [ih, retag_eq]

theorem get?_retagAll_of_ne (f : LambdaFunction) (overrides : List GitMetadata) {key : String}
    (hkey : key ≠ tagsVariable) :
    (f.retagAll overrides).environment.get? key = f.environment.get? key := by
  induction overrides generalizing f with
  | nil => rfl
  | cons given overrides ih => exact (ih (f.retag given)).trans (f.get?_retag_of_ne given hkey)

/-- Overrides that find no tag list, or give nothing, leave a function as it is. -/
theorem retagAll_of_untouched {f : LambdaFunction} {overrides : List GitMetadata}
    (h : f.environment.contains tagsVariable = false ∨ ∀ given ∈ overrides, given.tags = []) :
    f.retagAll overrides = f := by
  induction overrides with
  | nil => rfl
  | cons given overrides ih =>
    have hretag : f.retag given = f := by
      rcases h with h | h
      · exact retag_of_untagged h given
      · exact retag_of_nothing_given (h given List.mem_cons_self) f
    change (f.retag given).retagAll overrides = f
    rw [hretag]
    exact ih (h.imp_right fun h other hother => h other (List.mem_cons_of_mem _ hother))

end LambdaFunction

namespace Lambda.Instrumenter

theorem overrideGit_eq (i : Instrumenter) (sha : String) (url : Option String) :
    i.overrideGit sha url =
      { i with
        gitOverride := (GitMetadata.ofOverride sha url).orElse i.gitOverride
        functions := i.functions.map (·.retag (.ofOverride sha url)) } := rfl

theorem function?_overrideGit (i : Instrumenter) (sha : String) (url : Option String)
    (name : String) :
    (i.overrideGit sha url).function? name =
      (i.function? name).map (·.retag (.ofOverride sha url)) := by
  have hname : (fun f : LambdaFunction => f.name == name) ∘
      (fun f : LambdaFunction => f.retag (.ofOverride sha url)) = fun f => f.name == name := by
    funext f
    change ((f.retag (.ofOverride sha url)).name == name) = (f.name == name)
    rw [LambdaFunction.retag_eq]
  rw [overrideGit_eq]
  unfold function?
  rw [List.find?_map, hname]

theorem effectiveGit_overrideGit (i : Instrumenter) (sha : String) (url : Option String) :
    (i.overrideGit sha url).effectiveGit = (GitMetadata.ofOverride sha url).orElse i.effectiveGit := by
  rw [overrideGit_eq]
  simp only [effectiveGit, GitMetadata.orElse, Option.or_assoc]

end Lambda.Instrumenter
end TelemetryWiring
