import TelemetryWiring.Lambda.Environment
import TelemetryWiring.Proofs.Git
import TelemetryWiring.Proofs.Lambda.Function

/-!
The tag list in a function's environment. Instrumentation writes the tags carried before, the
configured ones and the source's metadata, in this order, and reading the variable gives them back
as long as the metadata can stand in a tag list at all.
-/
namespace TelemetryWiring

/-- The environment variable of the tag list. -/
def tagsVariable : String := "DD_TAGS"

/-- The configured tags that are written, which only the extension reads. -/
def Lambda.Config.configuredTags (c : Lambda.Config) : Tags :=
  if c.usesExtension then Tags.parse (c.tags.getD "") else .empty

namespace LambdaFunction

/-- The tags that instrumentation gives a function. -/
def tagsWith (f : LambdaFunction) (c : Lambda.Config) (git : GitMetadata) : Tags :=
  (f.carriedTags.merge c.configuredTags).setAll git.tags

theorem tagsWith_eq_putAll (f : LambdaFunction) (c : Lambda.Config) (git : GitMetadata) :
    f.tagsWith c git =
      f.carriedTags.putAll
        (c.configuredTags.entries ++ git.tags.map fun e => (e.1, some e.2)) := by
  rw [tagsWith, Tags.setAll_eq_putAll, Tags.merge_eq_putAll, Tags.putAll_append]

variable {f : LambdaFunction} {c : Lambda.Config} {git : GitMetadata}

theorem writeTags_eq (f : LambdaFunction) (c : Lambda.Config) (git : GitMetadata) :
    f.writeTags c git =
      if (f.tagsWith c git).isEmpty then f
      else f.setVariable tagsVariable (f.tagsWith c git).render := rfl

theorem carriedTags_congr {g : LambdaFunction}
    (h : g.environment.get? tagsVariable = f.environment.get? tagsVariable) :
    g.carriedTags = f.carriedTags := by
  unfold tagsVariable at h
  rw [carriedTags, carriedTags, h]

theorem tagsWith_congr {g : LambdaFunction}
    (h : g.environment.get? tagsVariable = f.environment.get? tagsVariable) :
    g.tagsWith c git = f.tagsWith c git := by
  rw [tagsWith, tagsWith, carriedTags_congr h]

theorem isPlain_carriedTags (f : LambdaFunction) : f.carriedTags.IsPlain := by
  unfold carriedTags
  split
  · exact Tags.isPlain_parse _
  · exact Tags.isPlain_empty

theorem isPlain_tagsWith (hgit : git.IsPlain) : (f.tagsWith c git).IsPlain := by
  apply Tags.IsPlain.setAll_git _ hgit
  apply f.isPlain_carriedTags.merge
  unfold Lambda.Config.configuredTags
  split
  · exact Tags.isPlain_parse _
  · exact Tags.isPlain_empty

/-- Plain tags that are written are carried afterwards. -/
theorem carriedTags_setVariable {tags : Tags} (h : tags.IsPlain) :
    (f.setVariable tagsVariable tags.render).carriedTags = tags := by
  have hget : (f.setVariable tagsVariable tags.render).environment.get? "DD_TAGS" =
      some tags.render := by
    simp [setVariable, tagsVariable]
  unfold carriedTags
  rw [hget]
  exact Tags.parse_render h

theorem carriedTags_eq_empty (h : f.tagsWith c git = .empty) : f.carriedTags = .empty := by
  rw [tagsWith_eq_putAll] at h
  exact Tags.eq_empty_of_putAll h

theorem carriedTags_writeTags (hgit : git.IsPlain) :
    (f.writeTags c git).carriedTags = f.tagsWith c git := by
  rw [writeTags_eq]
  split
  · rename_i h
    have hempty : f.tagsWith c git = .empty := Tags.isEmpty_iff.mp h
    rw [hempty, carriedTags_eq_empty hempty]
  · exact carriedTags_setVariable (isPlain_tagsWith hgit)

/-- The tags of a function whose tags were written already are the same ones. -/
theorem tagsWith_writeTags (hgit : git.IsPlain) :
    (f.writeTags c git).tagsWith c git = f.tagsWith c git := by
  rw [tagsWith_eq_putAll, carriedTags_writeTags hgit, tagsWith_eq_putAll, Tags.putAll_putAll]

theorem get?_writeTags (f : LambdaFunction) (c : Lambda.Config) (git : GitMetadata) (key : String) :
    (f.writeTags c git).environment.get? key =
      if key = tagsVariable ∧ (f.tagsWith c git).isEmpty = false then
        some (f.tagsWith c git).render
      else f.environment.get? key := by
  rw [writeTags_eq]
  by_cases h : (f.tagsWith c git).isEmpty = true
  · simp [h]
  · rw [if_neg h]
    by_cases hkey : key = tagsVariable <;> simp [setVariable, hkey, h, eq_comm]

/-- Afterwards there is a tag list if there was one before or there are tags to write. -/
theorem contains_writeTags (f : LambdaFunction) (c : Lambda.Config) (git : GitMetadata) :
    (f.writeTags c git).environment.contains tagsVariable =
      (f.environment.contains tagsVariable || !(f.tagsWith c git).isEmpty) := by
  unfold Dict.contains
  rw [get?_writeTags]
  cases (f.tagsWith c git).isEmpty <;> simp

/-- Writing the tags of a function again changes nothing. -/
theorem writeTags_of_present
    (h : (f.tagsWith c git).isEmpty = false →
      f.environment.get? tagsVariable = some (f.tagsWith c git).render) :
    f.writeTags c git = f := by
  rw [writeTags_eq]
  by_cases hempty : (f.tagsWith c git).isEmpty = true
  · rw [if_pos hempty]
  · rw [if_neg hempty, setVariable, Dict.insert_of_get? (h (Bool.not_eq_true _ ▸ hempty))]

theorem writeGitTags_eq (f : LambdaFunction) (git : GitMetadata) :
    f.writeGitTags git = { f with environment := (f.writeGitTags git).environment } := by
  unfold writeGitTags
  split <;> rfl

theorem get?_writeGitTags_of_ne (f : LambdaFunction) (git : GitMetadata) {key : String}
    (hkey : key ≠ tagsVariable) :
    (f.writeGitTags git).environment.get? key = f.environment.get? key := by
  unfold writeGitTags
  split
  · rfl
  · rw [get?_setVariable]
    exact if_neg (Ne.symm hkey)

/-- Metadata that is written onto a function stands over the tags it carries. -/
theorem get?_carriedTags_writeGitTags (hgit : git.IsPlain) (key : String) :
    (f.writeGitTags git).carriedTags.get? key =
      ((git.value? key).map some).or (f.carriedTags.get? key) := by
  unfold writeGitTags
  split
  · rename_i h
    have hnil : git.tags = [] := List.isEmpty_iff.mp h
    simp [GitMetadata.value?, hnil, lastValue]
  · have hplain : (f.carriedTags.setAll git.tags).IsPlain := f.isPlain_carriedTags.setAll_git hgit
    change (f.setVariable tagsVariable (f.carriedTags.setAll git.tags).render).carriedTags.get? key =
      _
    rw [carriedTags_setVariable hplain, Tags.get?_setAll_git]

end LambdaFunction
end TelemetryWiring
