import TelemetryWiring.Git
import TelemetryWiring.Proofs.Tags.Codec

/-!
The source's metadata among tags. Metadata is described by the value that it has for each tag key,
and tags that it is set on are plain as long as its own values are.
-/
namespace TelemetryWiring

namespace GitMetadata

/-- The keys that the tags of metadata can have. -/
def tagKeys : List String := ["git.commit.sha", "git.repository_url"]

/-- Metadata whose values have no commas and no blanks. -/
def IsPlain (git : GitMetadata) : Prop := ∀ e ∈ git.tags, Tags.IsPlainText e.2

instance (git : GitMetadata) : Decidable git.IsPlain :=
  List.decidableBAll (fun e : String × String => Tags.IsPlainText e.2) git.tags

/-- The value that the metadata has for a tag. -/
def value? (git : GitMetadata) (key : String) : Option String := lastValue key git.tags

theorem keys_tags (git : GitMetadata) : (git.tags.map (·.1)).Sublist tagKeys := by
  rcases git with ⟨_ | sha, _ | url⟩ <;> simp [tags, tagKeys]

theorem mem_tagKeys_of_mem_tags {git : GitMetadata} {e : String × String} (he : e ∈ git.tags) :
    e.1 ∈ tagKeys := git.keys_tags.subset (List.mem_map_of_mem he)

theorem mem_tags_iff {git : GitMetadata} {key value : String} :
    (key, value) ∈ git.tags ↔ git.value? key = some value := by
  have hkeys : (git.tags.map (·.1)).Nodup := git.keys_tags.nodup (by decide)
  constructor
  · exact lastValue_of_isConsistent (isConsistent_of_nodup hkeys)
  · exact mem_of_lastValue

theorem value?_commit (git : GitMetadata) : git.value? "git.commit.sha" = git.commitSha := by
  rcases git with ⟨_ | sha, _ | url⟩ <;> simp [value?, tags, lastValue]

theorem value?_repository (git : GitMetadata) :
    git.value? "git.repository_url" = git.repositoryUrl := by
  rcases git with ⟨_ | sha, _ | url⟩ <;> simp [value?, tags, lastValue]

theorem value?_of_not_mem (git : GitMetadata) {key : String} (h : key ∉ tagKeys) :
    git.value? key = none :=
  lastValue_eq_none_iff.mpr fun hmem => h (git.keys_tags.subset hmem)

/-- Where the first metadata has no value, the second counts. -/
theorem value?_orElse (a b : GitMetadata) (key : String) :
    (a.orElse b).value? key = (a.value? key).or (b.value? key) := by
  by_cases hkey : key ∈ tagKeys
  · rcases List.mem_cons.mp hkey with rfl | hkey
    · rw [value?_commit, value?_commit, value?_commit]
      rfl
    · rw [List.mem_singleton.mp hkey, value?_repository, value?_repository, value?_repository]
      rfl
  · rw [value?_of_not_mem _ hkey, value?_of_not_mem _ hkey, value?_of_not_mem _ hkey]
    rfl

theorem IsPlain.orElse {a b : GitMetadata} (ha : a.IsPlain) (hb : b.IsPlain) :
    (a.orElse b).IsPlain := by
  intro e he
  have hvalue := mem_tags_iff.mp he
  rw [value?_orElse, Option.or_eq_some_iff] at hvalue
  rcases hvalue with h | ⟨-, h⟩
  · exact ha e (mem_tags_iff.mpr h)
  · exact hb e (mem_tags_iff.mpr h)

theorem isPlainEntry_of_mem_tags {git : GitMetadata} (h : git.IsPlain) {e : String × String}
    (he : e ∈ git.tags) : Tags.IsPlainEntry (e.1, some e.2) := by
  have hkeys : ∀ key ∈ tagKeys, key ≠ "" ∧ Tags.IsPlainText key ∧ ':' ∉ key.toList := by decide
  obtain ⟨hne, hplain, hcolon⟩ := hkeys e.1 (mem_tagKeys_of_mem_tags he)
  have hvalue := h e he
  exact ⟨hne, hplain, hcolon, by simpa using hvalue⟩

end GitMetadata

namespace Tags

theorem get?_setAll_git (tags : Tags) (git : GitMetadata) (key : String) :
    (tags.setAll git.tags).get? key = ((git.value? key).map some).or (tags.get? key) := by
  have hlast (l : List (String × String)) :
      lastValue key (l.map fun e => (e.1, some e.2)) = (lastValue key l).map some := by
    induction l with
    | nil => rfl
    | cons e l ih =>
      rw [List.map_cons, lastValue, lastValue, ih, Option.map_or]
      split <;> rfl
  rw [setAll_eq_putAll, get?_putAll, hlast]
  rfl

theorem IsPlain.setAll_git {tags : Tags} (ht : tags.IsPlain) {git : GitMetadata}
    (h : git.IsPlain) : (tags.setAll git.tags).IsPlain := by
  rw [setAll_eq_putAll]
  apply ht.putAll
  intro e he
  obtain ⟨pair, hpair, rfl⟩ := List.mem_map.mp he
  exact GitMetadata.isPlainEntry_of_mem_tags h hpair

end Tags
end TelemetryWiring
