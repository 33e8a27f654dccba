import TelemetryWiring.Proofs.Lambda.Skipped

/-!
Which commit and which repository a function is tagged with. Each of the two is remembered for
itself: the last override that gave one counts, then what was found last, and where neither has a
value the tags of the function stand as they would without. An override that gives a commit alone
thus keeps an older one's repository, while a new finding replaces both.
-/
namespace TelemetryWiring.Lambda

namespace Request

/-- The metadata that a request sets over what is found, by itself or from a context. -/
def given : Request → GitMetadata
  | .overrideGit sha url => .ofOverride sha url
  | .applyContext context =>
    match context.get? "datadog-lambda.git-commit-sha-override" with
    | some sha => .ofOverride sha none
    | none => {}
  | .add _ | .setGit _ => {}

/-- The metadata that a request says was found. -/
def found? : Request → Option GitMetadata
  | .setGit git => some git
  | .add _ | .overrideGit .. | .applyContext _ => none

/-- A request whose metadata has no commas and no blanks. -/
def IsPlain (request : Request) : Prop :=
  request.given.IsPlain ∧ ∀ git ∈ request.found?, git.IsPlain

instance (request : Request) : Decidable request.IsPlain :=
  inferInstanceAs (Decidable (_ ∧ ∀ git ∈ request.found?, git.IsPlain))

end Request

/-- The last value of one kind that requests set over what is found. -/
def lastGiven (read : GitMetadata → Option String) (requests : List Request) : Option String :=
  (requests.filterMap fun request => read request.given).getLast?

/-- What was found last. -/
def lastFound (requests : List Request) : GitMetadata :=
  ((requests.filterMap Request.found?).getLast?).getD {}

/-- A function with its tags after requests, and what it carried before. -/
structure HasPrecedence (c : Config) (requests : List Request) (before after : LambdaFunction) :
    Prop where
  commit : after.carriedTags.get? "git.commit.sha" =
    (((lastGiven (·.commitSha) requests).or (lastFound requests).commitSha).map some).or
      ((c.configuredTags.get? "git.commit.sha").or (before.carriedTags.get? "git.commit.sha"))
  repository : after.carriedTags.get? "git.repository_url" =
    (((lastGiven (·.repositoryUrl) requests).or (lastFound requests).repositoryUrl).map some).or
      ((c.configuredTags.get? "git.repository_url").or
        (before.carriedTags.get? "git.repository_url"))
  others : ∀ key, key ≠ "git.commit.sha" → key ≠ "git.repository_url" →
    after.carriedTags.get? key =
      (c.configuredTags.get? key).or (before.carriedTags.get? key)

namespace Instrumenter

variable {i : Instrumenter}

theorem gitOverride_serve (i : Instrumenter) (request : Request) :
    (i.serve request).gitOverride = request.given.orElse i.gitOverride := by
  cases request with
  | add functions =>
    rw [serve_add_eq]
    rfl
  | overrideGit sha url => rfl
  | applyContext context =>
    simp only [serve, applyContext, Request.given, shaContextKey]
    cases context.get? "datadog-lambda.git-commit-sha-override" <;> rfl
  | setGit git => rfl

theorem git_serve (i : Instrumenter) (request : Request) :
    (i.serve request).git = request.found?.getD i.git := by
  cases request with
  | add functions =>
    rw [serve_add_eq]
    rfl
  | overrideGit sha url => rfl
  | applyContext context =>
    simp only [serve, applyContext, Request.found?]
    split <;> rfl
  | setGit git => rfl

/-- An override is remembered value by value. -/
theorem gitOverride_run (read : GitMetadata → Option String)
    (hread : ∀ a b : GitMetadata, read (a.orElse b) = (read a).or (read b))
    (i : Instrumenter) (requests : List Request) :
    read (i.run requests).gitOverride =
      (lastGiven read requests).or (read i.gitOverride) := by
  induction requests generalizing i with
  | nil => rfl
  | cons request requests ih =>
    change read ((i.serve request).run requests).gitOverride = _
    rw [ih, gitOverride_serve, hread, ← Option.or_assoc, lastGiven, lastGiven,
      getLast?_filterMap_cons]

theorem git_run (i : Instrumenter) (requests : List Request) :
    (i.run requests).git = ((requests.filterMap Request.found?).getLast?).getD i.git := by
  induction requests generalizing i with
  | nil => rfl
  | cons request requests ih =>
    change ((i.serve request).run requests).git = _
    rw [ih, git_serve, getLast?_filterMap_cons, Option.getD_or]

/-- Plain requests leave an instrumenter that was plain with plain metadata. -/
theorem isPlain_run (hgit : i.git.IsPlain) (hoverride : i.gitOverride.IsPlain)
    {requests : List Request} (hplain : ∀ request ∈ requests, request.IsPlain) :
    (i.run requests).git.IsPlain ∧ (i.run requests).gitOverride.IsPlain := by
  induction requests generalizing i with
  | nil => exact ⟨hgit, hoverride⟩
  | cons request requests ih =>
    obtain ⟨hgiven, hfound⟩ := hplain request List.mem_cons_self
    apply ih
    · rw [git_serve]
      cases h : request.found? with
      | none => exact hgit
      | some git => exact hfound git h
    · rw [gitOverride_serve]
      exact hgiven.orElse hoverride
    · intro other hother
      exact hplain other (List.mem_cons_of_mem _ hother)

/-- What a new instrumenter knows after requests. -/
theorem effectiveGit_run (hgit : i.git = {}) (hoverride : i.gitOverride = {})
    (requests : List Request) :
    (i.run requests).effectiveGit =
      { commitSha := (lastGiven (·.commitSha) requests).or (lastFound requests).commitSha
        repositoryUrl :=
          (lastGiven (·.repositoryUrl) requests).or (lastFound requests).repositoryUrl } := by
  have hcommit := gitOverride_run (·.commitSha) (fun _ _ => rfl) i requests
  have hrepository := gitOverride_run (·.repositoryUrl) (fun _ _ => rfl) i requests
  rw [hoverride, Option.or_none] at hcommit hrepository
  rw [effectiveGit, GitMetadata.orElse, hcommit, hrepository, git_run, hgit]
  rfl

theorem git_of_ofSettings {settings defaults : Settings} {options : ValidationOptions}
    (h : ofSettings settings defaults options = .ok i) : i.git = {} ∧ i.gitOverride = {} := by
  obtain ⟨resolved, -, h⟩ := bind_eq_ok_iff.mp h
  cases h
  exact ⟨rfl, rfl⟩

/-- A function that is not skipped is tagged with the metadata in force where the configuration lets
metadata in. -/
theorem get?_carriedTags_instrument (hintegration : i.config.sourceCodeIntegration = true)
    (hgit : i.effectiveGit.IsPlain) {f : LambdaFunction} (hskips : i.config.skips f = false)
    (key : String) :
    (i.instrument f).value.carriedTags.get? key =
      ((i.effectiveGit.value? key).map some).or
        ((i.config.configuredTags.get? key).or (f.carriedTags.get? key)) := by
  rw [carriedTags_instrument hgit hskips, writtenGit, if_pos hintegration, LambdaFunction.tagsWith,
    Tags.get?_setAll_git, Tags.get?_merge]

/-- Whatever plain metadata an instrumenter was given and found, and whatever was added before, a
function that an addition accepts and does not skip is tagged with the commit and the repository in
force, over the configured tags and its own. It is what is owned under its name unless the addition
gives that name to a later function. -/
theorem hasPrecedence_of_add {settings defaults : Settings} {options : ValidationOptions}
    (h : ofSettings settings defaults options = .ok i)
    (hintegration : i.config.sourceCodeIntegration = true)
    {requests : List Request} (hplain : ∀ request ∈ requests, request.IsPlain)
    {functions : List LambdaFunction} {i' : Instrumenter} {found : List Diagnostic}
    (hadd : (i.run requests).add functions = .ok found i') :
    ∀ f ∈ functions, (∀ d ∈ ((i.run requests).instrument f).diagnostics, d.isMissingLayer = false) →
      HasPrecedence i.config requests f ((i.run requests).instrument f).value ∧
      (lastNamed f.name functions = some f →
        i'.function? f.name = some ((i.run requests).instrument f).value) := by
  intro f _ hwired
  have hconfig : (i.run requests).config = i.config := (tracks_run h requests).config
  obtain ⟨hgit, hoverride⟩ := git_of_ofSettings h
  have heffective := effectiveGit_run hgit hoverride requests
  have hnothing : ({} : GitMetadata).IsPlain := by decide
  obtain ⟨hfound, hgiven⟩ := isPlain_run (hgit ▸ hnothing) (hoverride ▸ hnothing) hplain
  have htag (key : String) := get?_carriedTags_instrument (hconfig ▸ hintegration)
    (hgiven.orElse hfound) (skips_eq_false_iff.mpr hwired) key
  rw [hconfig, heffective] at htag
  constructor
  · constructor
    case commit => rw [htag, GitMetadata.value?_commit]
    case repository => rw [htag, GitMetadata.value?_repository]
    case others =>
      intro key hcommit hrepository
      have hkey : key ∉ GitMetadata.tagKeys := by simp [GitMetadata.tagKeys, hcommit, hrepository]
      rw [htag, GitMetadata.value?_of_not_mem _ hkey]
      rfl
  · intro hlast
    rw [function?_of_add hadd, hlast]
    rfl

/-- A commit from a context over what was found after it, a repository from an older override, and
tags of a function of which one is configured otherwise. -/
theorem hasPrecedence_of_add_of_context :
    ∃ i, ofSettings
        { apiKeys := { plain := some "1234" }
          tags := some "team:b"
          layers := { python := { version := some 100 }, extension := { version := some 65 } } }
        {} {} = .ok i ∧
      ∃ requests : List Request, requests =
          [.overrideGit "1111" (some "github.com/shop"),
            .applyContext (.ofList [("datadog-lambda.git-commit-sha-override", "2222")]),
            .add [.ofAccount "old" "123456789012" "us-east-1" "python3.12" "app.run"],
            .overrideGit "" none,
            .setGit { commitSha := some "3333" }] ∧
        (∀ request ∈ requests, request.IsPlain) ∧
        ∃ f, f = { LambdaFunction.ofAccount "fn" "123456789012" "us-east-1" "python3.12" "app.run"
            with environment := .ofList [("DD_TAGS", "team:a,stage:x,git.commit.sha:0000")] } ∧
          ∃ i' found, (i.run requests).add [f] = .ok found i' ∧
            ∃ g, i'.function? "fn" = some g ∧
              g.carriedTags.get? "git.commit.sha" = some (some "2222") ∧
              g.carriedTags.get? "git.repository_url" = some (some "github.com/shop") ∧
              g.carriedTags.get? "team" = some (some "b") ∧
              g.carriedTags.get? "stage" = some (some "x") := by
  refine ⟨_, (fun hnew => ⟨hnew, _, rfl, by decide, _, rfl, ?_⟩) rfl⟩
  refine ⟨_, _, (fun hadd => ⟨hadd, ?_⟩) rfl⟩
  obtain ⟨htags, howned⟩ := hasPrecedence_of_add hnew rfl (by decide) hadd _
    (List.mem_singleton_self _) (by decide)
  exact ⟨_, howned rfl, htags.commit.trans (by decide), htags.repository.trans (by decide),
    (htags.others "team" (by decide) (by decide)).trans (by decide),
    (htags.others "stage" (by decide) (by decide)).trans (by decide)⟩

end Instrumenter
end TelemetryWiring.Lambda
