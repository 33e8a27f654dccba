import TelemetryWiring.Proofs.Lambda.TagList

/-!
The source's metadata among a function's tags. Its values are written as they are, and what stands in
them between commas and blanks is read as tags of its own: the metadata comes back, and leaves the
other tags alone, exactly if none of its values has such a character (`CarriesOver.isPlain`,
`carriesOver_writeGitTags`).
-/
namespace TelemetryWiring

namespace LambdaFunction

/-- A function that carries metadata among its tags and is otherwise the one that it was. -/
structure CarriesOver (git : GitMetadata) (before after : LambdaFunction) : Prop where
  commit : ∀ sha, git.commitSha = some sha →
    after.carriedTags.get? "git.commit.sha" = some (some sha)
  repository : ∀ url, git.repositoryUrl = some url →
    after.carriedTags.get? "git.repository_url" = some (some url)
  otherTags : ∀ key, key ∉ git.tags.map (·.1) →
    after.carriedTags.get? key = before.carriedTags.get? key
  otherVariables : ∀ key, key ≠ tagsVariable →
    after.environment.get? key = before.environment.get? key
  otherFields : after = { before with environment := after.environment }

variable {f g : LambdaFunction} {git : GitMetadata}

/-- What is read from a text has no separators, so metadata that comes back has none. -/
theorem CarriesOver.isPlain (h : CarriesOver git f g) : git.IsPlain := by
  intro e he
  have hread : g.carriedTags.get? e.1 = some (some e.2) := by
    have hvalue := GitMetadata.mem_tags_iff.mp he
    rcases List.mem_cons.mp (GitMetadata.mem_tagKeys_of_mem_tags he) with hkey | hkey
    · rw [hkey, GitMetadata.value?_commit] at hvalue
      rw [hkey]
      exact h.commit e.2 hvalue
    · have hkey : e.1 = "git.repository_url" := List.mem_singleton.mp hkey
      rw [hkey, GitMetadata.value?_repository] at hvalue
      rw [hkey]
      exact h.repository e.2 hvalue
  exact g.isPlain_carriedTags.isPlainText_of_get? hread

theorem carriesOver_writeGitTags (hgit : git.IsPlain) (f : LambdaFunction) :
    CarriesOver git f (f.writeGitTags git) := by
  constructor
  case commit =>
    intro sha hsha
    rw [get?_carriedTags_writeGitTags hgit, GitMetadata.value?_commit, hsha]
    rfl
  case repository =>
    intro url hurl
    rw [get?_carriedTags_writeGitTags hgit, GitMetadata.value?_repository, hurl]
    rfl
  case otherTags =>
    intro key hkey
    have hnone : git.value? key = none := lastValue_eq_none_iff.mpr hkey
    rw [get?_carriedTags_writeGitTags hgit, hnone]
    rfl
  case otherVariables =>
    intro key hkey
    exact f.get?_writeGitTags_of_ne git hkey
  case otherFields => exact f.writeGitTags_eq git

/-- Metadata that is written onto a function can be read from its tags, beside exactly the tags that
were there, if and only if no value of it has a comma or a blank. -/
theorem carriesOver_writeGitTags_iff (f : LambdaFunction) (git : GitMetadata) :
    CarriesOver git f (f.writeGitTags git) ↔ git.IsPlain :=
  ⟨CarriesOver.isPlain, fun hgit => carriesOver_writeGitTags hgit f⟩

/-- An address with a comma loses what stands behind it, which replaces another tag, also when
further metadata is written. -/
theorem repository_with_comma_replaces_other_tag :
    ∃ f g h : LambdaFunction,
      f = { LambdaFunction.ofAccount "fn" "123456789012" "us-east-1" "python3.12" "app.run" with
        environment := .ofList [("DD_TAGS", "team:a")] } ∧
      f.writeGitTags { repositoryUrl := some "/srv/git/shop,team:b" } = g ∧
      g.writeGitTags { commitSha := some "1111" } = h ∧
      f.carriedTags.get? "team" = some (some "a") ∧
      g.carriedTags.get? "team" = some (some "b") ∧
      g.carriedTags.get? "git.repository_url" = some (some "/srv/git/shop") ∧
      h.environment.get? "DD_TAGS" =
        some "team:b,git.repository_url:/srv/git/shop,git.commit.sha:1111" ∧
      ¬CarriesOver { repositoryUrl := some "/srv/git/shop,team:b" } f g := by
  refine ⟨_, _, _, rfl, rfl, rfl, by decide +kernel, by decide +kernel, by decide +kernel,
    by decide +kernel, ?_⟩
  intro h
  have hread := h.repository _ rfl
  revert hread
  decide +kernel

end LambdaFunction
end TelemetryWiring
