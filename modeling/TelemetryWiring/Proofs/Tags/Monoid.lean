import TelemetryWiring.Proofs.Tags.Merge

/-!
Tag lists under merging. A merge is known by its keys and its look-ups, and putting an entry into
what is merged is putting it into the result; from this a merge can be grouped in any way, and a text
of tags can be cut at any comma and its parts read one by one (`parse_append_comma`).
-/
namespace TelemetryWiring.Tags

theorem get?_merge (t u : Tags) (key : String) :
    (t.merge u).get? key = (u.get? key).or (t.get? key) := by
  rw [merge_eq_putAll, get?_putAll, ← get?_eq_lastValue]

theorem keys_merge_eq_foldl (t u : Tags) : (t.merge u).keys = u.keys.foldl addOnce t.keys := by
  rw [merge_eq_putAll, keys_putAll]
  rfl

/-- Keys that are there stay where they are, the others follow in the order of the merged list. -/
theorem keys_merge (t u : Tags) : (t.merge u).keys = t.keys ++ u.keys.filter (· ∉ t.keys) := by
  have hdistinct : u.keys.Nodup := u.distinct
  rw [keys_merge_eq_foldl, foldl_addOnce_of_nodup hdistinct]
  simp

@[simp] theorem merge_empty (t : Tags) : t.merge empty = t := rfl

@[simp] theorem empty_merge (t : Tags) : empty.merge t = t := by
  apply ext_get?
  · rw [keys_merge]
    simp [empty, keys]
  · intro key
    rw [get?_merge]
    exact Option.or_none

theorem merge_put (t u : Tags) (key : String) (value : Option String) :
    t.merge (u.put key value) = (t.merge u).put key value := by
  apply ext_get?
  · rw [keys_put, keys_merge_eq_foldl, keys_merge_eq_foldl, keys_put, foldl_addOnce_addOnce]
  · intro other
    rw [get?_merge, get?_put, get?_put, get?_merge]
    split <;> rfl

theorem merge_putAll (t u : Tags) (l : List (String × Option String)) :
    t.merge (u.putAll l) = (t.merge u).putAll l := by
  induction l generalizing u with
  | nil => rfl
  | cons e l ih =>
    change t.merge ((u.put e.1 e.2).putAll l) = ((t.merge u).put e.1 e.2).putAll l
    rw [ih, merge_put]

theorem merge_assoc (t u v : Tags) : (t.merge u).merge v = t.merge (u.merge v) :=
  (t.merge_putAll u v.entries).symm

/-- What was merged last changes nothing when it is merged again. -/
theorem merge_merge_self (t u : Tags) : (t.merge u).merge u = t.merge u := putAll_putAll t u.entries

theorem merge_self (t : Tags) : t.merge t = t := by
  have h := merge_merge_self empty t
  rwa [empty_merge] at h

/-- A text of tags can be read part by part. -/
theorem parse_append_comma (s t : String) : parse (s ++ "," ++ t) = (parse s).merge (parse t) := by
  have hparts : parse (s ++ "," ++ t) = (parse s).putAll ((words t).filterMap entryOfWord?) := by
    rw [parse_eq_putAll, words_append_comma, List.filterMap_append, putAll_append]
    rfl
  rw [hparts, parse_eq_putAll t, merge_putAll, merge_empty]

theorem parse_append_comma_blank (s t : String) :
    parse (s ++ ", " ++ t) = (parse s).merge (parse t) := by
  have hcut : ", " = "," ++ " " := by decide
  have hblank : parse (" " ++ t) = parse t := by
    rw [parse_eq_putAll, words_blank_append, ← parse_eq_putAll]
  rw [hcut, ← String.append_assoc, String.append_assoc, parse_append_comma, hblank]

/-- The laws of merging: a monoid in which tags absorb themselves, known by its keys and look-ups. -/
structure MergeLaws (merge : Tags → Tags → Tags) (empty : Tags) : Prop where
  assoc : ∀ t u v, merge (merge t u) v = merge t (merge u v)
  empty_left : ∀ t, merge empty t = t
  empty_right : ∀ t, merge t empty = t
  self : ∀ t, merge t t = t
  again : ∀ t u, merge (merge t u) u = merge t u
  /-- Keys that are there stay where they are, the others follow in the order of the merged list. -/
  order : ∀ t u, (merge t u).keys = t.keys ++ u.keys.filter (· ∉ t.keys)
  /-- The later entry of a key counts, also where it is a bare key over a value. -/
  entry : ∀ t u key, (merge t u).get? key = (u.get? key).or (t.get? key)

/-- Parsing takes texts joined by a comma to tags merged in the same order, and merging follows its
laws. -/
theorem mergeLaws_and_parse_joined :
    MergeLaws merge empty ∧
      ∀ s t : String, parse (s ++ "," ++ t) = (parse s).merge (parse t) := by
  refine ⟨?_, parse_append_comma⟩
  exact {
    assoc := merge_assoc
    empty_left := empty_merge
    empty_right := merge_empty
    self := merge_self
    again := merge_merge_self
    order := keys_merge
    entry := get?_merge }

example : ((parse "team:a,env:x").merge (parse "canary,team")).entries =
    [("team", none), ("env", some "x"), ("canary", none)] := by decide

end TelemetryWiring.Tags
