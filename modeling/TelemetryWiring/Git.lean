import TelemetryWiring.Text.Affix

/-!
Where the deployed source comes from, and the addresses of its repository.
-/
namespace TelemetryWiring

/-- Commit and repository of the deployed source. -/
structure GitMetadata where
  commitSha : Option String := none
  repositoryUrl : Option String := none
  deriving DecidableEq, Repr, Inhabited

namespace GitMetadata

/-- The first metadata, with gaps filled from the second. -/
def orElse (a b : GitMetadata) : GitMetadata where
  commitSha := a.commitSha.or b.commitSha
  repositoryUrl := a.repositoryUrl.or b.repositoryUrl

/-- The tags that carry the metadata. -/
def tags (git : GitMetadata) : List (String × String) :=
  [("git.commit.sha", git.commitSha), ("git.repository_url", git.repositoryUrl)].filterMap
    fun (key, value) => value.map fun v => (key, v)

end GitMetadata

/-- An address without the credentials before the host. The authority lies between the first `://`
and the next slash, and credentials reach to its last `@`. -/
def withoutCredentials (url : String) : String :=
  match Text.cut? "://".toList url.toList with
  | none => url
  | some (scheme, rest) =>
    match Text.afterLast? '@' (rest.takeWhile (· ≠ '/')) with
    | none => url
    | some host => .ofList (scheme ++ "://".toList ++ host ++ rest.dropWhile (· ≠ '/'))

example : withoutCredentials "https://us@er:pw@host/x" = "https://host/x" := by decide

end TelemetryWiring
