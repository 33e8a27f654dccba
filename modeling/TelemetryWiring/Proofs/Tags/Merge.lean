import TelemetryWiring.Proofs.AddOnce
import TelemetryWiring.Proofs.Tags.Words
import TelemetryWiring.Proofs.Writes

/-!
What tag lists hold after entries were put into them. Parsing, merging and setting all put a list
of entries one after the other, so one operation, `putAll`, is described here by its keys and its
look-ups, and these two determine the tags. What is written of tags to a resource is known by its
look-ups as well.
-/
namespace TelemetryWiring

variable {α : Type}

theorem lookup_upsert (key other : String) (value : α) (l : List (String × α)) :
    (upsert key value l).lookup other = if key = other then some value else l.lookup other := by
  induction l with
  | nil => rw [upsert, lookup_cons_eq_ite]
  | cons e l ih =>
    rw [upsert]
    by_cases hk : e.1 = key
    · rw [if_pos hk, lookup_cons_eq_ite, lookup_cons_eq_ite, hk]
      by_cases h : key = other <;> simp [h]
    · rw [if_neg hk, lookup_cons_eq_ite, lookup_cons_eq_ite, ih]
      by_cases h : key = other
      · have hother : e.1 ≠ other := h ▸ hk
        simp [h, hother]
      · simp [h]

namespace Tags

/-- The keys in order. -/
def keys (tags : Tags) : List String := tags.entries.map (·.1)

/-- Puts entries one after the other. -/
def putAll (tags : Tags) (entries : List (String × Option String)) : Tags :=
  entries.foldl (fun t e => t.put e.1 e.2) tags

theorem parse_eq_putAll (text : String) :
    parse text = empty.putAll ((words text).filterMap entryOfWord?) := rfl

theorem merge_eq_putAll (tags other : Tags) : tags.merge other = tags.putAll other.entries := rfl

theorem setAll_eq_putAll (tags : Tags) (pairs : List (String × String)) :
    tags.setAll pairs = tags.putAll (pairs.map fun e => (e.1, some e.2)) := by
  unfold setAll putAll
  rw [List.foldl_map]
  rfl

theorem get?_eq_lastValue (tags : Tags) (key : String) :
    tags.get? key = lastValue key tags.entries := lookup_eq_lastValue tags.distinct key

theorem putAll_append (tags : Tags) (l m : List (String × Option String)) :
    tags.putAll (l ++ m) = (tags.putAll l).putAll m := List.foldl_append

theorem keys_put (tags : Tags) (key : String) (value : Option String) :
    (tags.put key value).keys = addOnce tags.keys key := by
  change (upsert key value tags.entries).map (·.1) = addOnce (tags.entries.map (·.1)) key
  rw [keys_upsert]
  unfold addOnce
  by_cases h : key ∈ tags.entries.map (·.1)
  · rw [if_pos h, if_pos (List.contains_iff_mem.mpr h)]
  · rw [if_neg h, if_neg (fun hc => h (List.contains_iff_mem.mp hc))]

theorem get?_put (tags : Tags) (key other : String) (value : Option String) :
    (tags.put key value).get? other = if key = other then some value else tags.get? other :=
  lookup_upsert key other value tags.entries

/-- Tags with the same keys in the same order and the same look-ups are equal. -/
theorem ext_get? {t u : Tags} (hkeys : t.keys = u.keys) (h : ∀ key, t.get? key = u.get? key) :
    t = u := by
  -- the entries are the keys, each with what a look-up of it sees
  have hpairs (tags : Tags) :
      tags.entries.map some = tags.keys.map fun k => (tags.get? k).map fun v => (k, v) := by
    unfold keys
    rw [List.map_map]
    apply List.map_congr_left
    intro e he
    have hlookup : tags.get? e.1 = some e.2 := by
      rw [get?_eq_lastValue]
      exact lastValue_of_isConsistent (isConsistent_of_nodup tags.distinct) he
    simp [hlookup]
  have hsome : t.entries.map some = u.entries.map some := by
    rw [hpairs t, hpairs u, hkeys]
    simp only [h]
  have hentries : t.entries = u.entries := (List.map_inj_right fun _ _ => Option.some.inj).mp hsome
  cases t
  cases u
  cases hentries
  rfl

theorem keys_putAll (tags : Tags) (l : List (String × Option String)) :
    (tags.putAll l).keys = (l.map (·.1)).foldl addOnce tags.keys := by
  induction l generalizing tags with
  | nil => rfl
  | cons e l ih =>
    change ((tags.put e.1 e.2).putAll l).keys = _
    rw [ih, keys_put]
    rfl

/-- A key has the last value put under it, or else the one it had. -/
theorem get?_putAll (tags : Tags) (l : List (String × Option String)) (key : String) :
    (tags.putAll l).get? key = (lastValue key l).or (tags.get? key) := by
  induction l generalizing tags with
  | nil => rfl
  | cons e l ih =>
    change ((tags.put e.1 e.2).putAll l).get? key = _
    rw [ih, get?_put, lastValue, Option.or_assoc]
    by_cases h : e.1 = key <;> simp [h]

/-- Putting the same entries again changes nothing. -/
theorem putAll_putAll (tags : Tags) (l : List (String × Option String)) :
    (tags.putAll l).putAll l = tags.putAll l := by
  apply ext_get?
  · rw [keys_putAll, keys_putAll]
    apply foldl_addOnce_of_subset
    intro key hkey
    exact mem_foldl_addOnce.mpr (.inr hkey)
  · intro key
    rw [get?_putAll, get?_putAll, ← Option.or_assoc, Option.or_self]

theorem isEmpty_iff {tags : Tags} : tags.isEmpty = true ↔ tags = empty := by
  constructor
  · intro h
    have hnil : tags.entries = [] := List.isEmpty_iff.mp h
    cases tags
    cases hnil
    rfl
  · rintro rfl
    rfl

/-- Tags that are empty after entries were put into them were empty before. -/
theorem eq_empty_of_putAll {tags : Tags} {l : List (String × Option String)}
    (h : tags.putAll l = empty) : tags = empty := by
  have hkeys : (l.map (·.1)).foldl addOnce tags.keys = [] := by
    rw [← keys_putAll, h]
    rfl
  have hnil : tags.keys = [] := by
    rw [List.eq_nil_iff_forall_not_mem] at hkeys ⊢
    intro key hkey
    exact hkeys key (mem_foldl_addOnce.mpr (.inl hkey))
  exact isEmpty_iff.mp (List.isEmpty_iff.mpr (List.map_eq_nil_iff.mp hnil))

theorem keys_valued_sublist (tags : Tags) :
    (tags.valued.map (·.1)).Sublist (tags.entries.map (·.1)) := by
  have hkeys : tags.toList.map (·.1) = tags.entries.map (·.1) := List.map_map
  rw [← hkeys]
  exact List.filter_sublist.map _

theorem nodup_keys_valued (tags : Tags) : (tags.valued.map (·.1)).Nodup :=
  tags.distinct.sublist tags.keys_valued_sublist

theorem mem_valued_iff {tags : Tags} {key value : String} :
    (key, value) ∈ tags.valued ↔ (key, some value) ∈ tags.entries ∧ value ≠ "" := by
  unfold valued toList
  rw [List.mem_filter, List.mem_map]
  constructor
  · rintro ⟨⟨⟨k, v⟩, hmem, he⟩, hvalue⟩
    cases he
    cases v with
    | none => simp at hvalue
    | some v => exact ⟨hmem, by simpa using hvalue⟩
  · rintro ⟨hmem, hvalue⟩
    exact ⟨⟨_, hmem, rfl⟩, by simpa using hvalue⟩

/-- What is written for a key is its value, unless that is empty or missing. -/
theorem lastValue_valued_eq_some_iff {tags : Tags} {key value : String} :
    lastValue key tags.valued = some value ↔ tags.get? key = some (some value) ∧ value ≠ "" := by
  rw [lastValue_eq_some_iff_of_nodup tags.nodup_keys_valued, mem_valued_iff, get?_eq_lastValue,
    lastValue_eq_some_iff_of_nodup tags.distinct]

end Tags
end TelemetryWiring
