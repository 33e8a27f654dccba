import TelemetryWiring.Dict
import TelemetryWiring.Proofs.Writes

/-!
Maps after many writes: a look-up sees the last value written under its key, or else the old one.
-/
namespace TelemetryWiring.Dict

variable {α : Type}

theorem get?_insertMany (d : Dict α) (pairs : List (String × α)) (key : String) :
    (d.insertMany pairs).get? key = (lastValue key pairs).or (d.get? key) := by
  induction pairs generalizing d with
  | nil => rfl
  | cons e pairs ih =>
    change ((d.insert e.1 e.2).insertMany pairs).get? key = _
    rw [ih, get?_insert, lastValue, Option.or_assoc]
    by_cases h : e.1 = key <;> simp [h]

/-- Writing the same pairs again changes nothing. -/
theorem insertMany_insertMany (d : Dict α) (pairs : List (String × α)) :
    (d.insertMany pairs).insertMany pairs = d.insertMany pairs := by
  apply ext_get?
  intro key
  rw [get?_insertMany, get?_insertMany, ← Option.or_assoc, Option.or_self]

theorem lookup_eq (key : String) (l : List (String × α)) : lookup key l = l.lookup key := by
  induction l with
  | nil => rfl
  | cons e l ih => rw [lookup, ih, lookup_cons_eq_ite]

theorem nodup_keys (d : Dict α) : d.keys.Nodup := by
  refine List.pairwise_map.mpr (d.sorted.imp ?_)
  intro a b hlt heq
  exact String.lt_irrefl b.1 (heq ▸ hlt)

theorem get?_eq_lastValue (d : Dict α) (key : String) : d.get? key = lastValue key d.entries := by
  rw [get?, lookup_eq, lookup_eq_lastValue d.nodup_keys]

theorem get?_eq_some_iff {d : Dict α} {key : String} {value : α} :
    d.get? key = some value ↔ (key, value) ∈ d.entries := by
  rw [get?_eq_lastValue]
  exact lastValue_eq_some_iff_of_nodup d.nodup_keys

@[simp] theorem get?_ofList (pairs : List (String × α)) (key : String) :
    (ofList pairs).get? key = lastValue key pairs := by
  rw [ofList, get?_insertMany, get?_empty, Option.or_none]

/-- A map is the map of its own entries. -/
theorem ofList_entries (d : Dict α) : ofList d.entries = d := by
  apply ext_get?
  intro key
  rw [get?_ofList, get?_eq_lastValue]

/-- In merged maps the upper one's values stand before the lower one's. -/
theorem get?_merge (d upper : Dict α) (key : String) :
    (d.merge upper).get? key = (upper.get? key).or (d.get? key) := by
  rw [upper.get?_eq_lastValue]
  exact get?_insertMany d upper.entries key

theorem mem_keys_iff {d : Dict α} {key : String} : key ∈ d.keys ↔ (d.get? key).isSome = true := by
  rw [get?_eq_lastValue, isSome_lastValue_iff, keys]

theorem mem_keys_insertMany {d : Dict α} {pairs : List (String × α)} {key : String} :
    key ∈ (d.insertMany pairs).keys ↔ key ∈ d.keys ∨ key ∈ pairs.map (·.1) := by
  rw [mem_keys_iff, get?_insertMany, Option.isSome_or, Bool.or_eq_true, isSome_lastValue_iff,
    ← mem_keys_iff, or_comm]

theorem get?_mapValues {β : Type} (change : α → β) (d : Dict α) (key : String) :
    (d.mapValues change).get? key = (d.get? key).map change := by
  rw [get?_eq_lastValue, get?_eq_lastValue]
  exact lastValue_map change key d.entries

/-- Maps that have no key in common. -/
def Apart {β : Type} (d : Dict α) (e : Dict β) : Prop := ∀ key ∈ d.keys, key ∉ e.keys

instance {β : Type} (d : Dict α) (e : Dict β) : Decidable (d.Apart e) :=
  inferInstanceAs (Decidable (∀ key ∈ d.keys, key ∉ e.keys))

/-- Writes keep maps apart exactly if none of them writes a key of the other map. -/
theorem apart_insertMany_iff {β : Type} {d : Dict α} {e : Dict β} {pairs : List (String × α)}
    (h : d.Apart e) :
    (d.insertMany pairs).Apart e ↔ ∀ key ∈ pairs.map (·.1), key ∉ e.keys := by
  constructor
  · intro happart key hkey
    exact happart key (mem_keys_insertMany.mpr (.inr hkey))
  · intro hpairs key hkey
    rcases mem_keys_insertMany.mp hkey with hold | hnew
    · exact h key hold
    · exact hpairs key hnew

theorem insertMany_append (d : Dict α) (l m : List (String × α)) :
    d.insertMany (l ++ m) = (d.insertMany l).insertMany m := List.foldl_append

theorem contains_eq_true_iff {d : Dict α} {key : String} : d.contains key = true ↔ key ∈ d.keys :=
  mem_keys_iff.symm

theorem get?_eq_none_iff {d : Dict α} {key : String} : d.get? key = none ↔ key ∉ d.keys := by
  rw [mem_keys_iff, Bool.not_eq_true, Option.isSome_eq_false_iff, Option.isNone_iff_eq_none]

/-- A write of a new key adds that key alone. -/
theorem keys_insert_perm {d : Dict α} {key : String} (h : key ∉ d.keys) (value : α) :
    (d.insert key value).keys.Perm (key :: d.keys) := by
  rw [List.perm_ext_iff_of_nodup (nodup_keys _) (List.nodup_cons.mpr ⟨h, d.nodup_keys⟩)]
  intro other
  change other ∈ (d.insertMany [(key, value)]).keys ↔ _
  rw [mem_keys_insertMany, List.map_singleton, List.mem_singleton, List.mem_cons, or_comm]

/-- Removing a key undoes the write that brought it. -/
theorem erase_insert {d : Dict α} {key : String} (h : key ∉ d.keys) (value : α) :
    (d.insert key value).erase key = d := by
  apply ext_get?
  intro other
  rw [get?_erase, get?_insert]
  by_cases hkey : key = other
  · rw [if_pos hkey, ← hkey, get?_eq_none_iff.mpr h]
  · rw [if_neg hkey, if_neg hkey]

/-- Writing a value back undoes its removal. -/
theorem insert_erase {d : Dict α} {key : String} {value : α} (h : d.get? key = some value) :
    (d.erase key).insert key value = d := by
  apply ext_get?
  intro other
  rw [get?_insert, get?_erase]
  by_cases hkey : key = other
  · rw [if_pos hkey, ← hkey, h]
  · rw [if_neg hkey, if_neg hkey]

theorem mem_keys_erase {d : Dict α} {key other : String} :
    other ∈ (d.erase key).keys ↔ other ≠ key ∧ other ∈ d.keys := by
  rw [mem_keys_iff, get?_erase, mem_keys_iff]
  by_cases hkey : key = other
  · simp [hkey]
  · simp [hkey, Ne.symm hkey]

/-- Writing the value that is there already changes nothing. -/
theorem insert_of_get? {d : Dict α} {key : String} {value : α} (h : d.get? key = some value) :
    d.insert key value = d := by
  apply ext_get?
  intro other
  rw [get?_insert]
  by_cases hkey : key = other
  · rw [if_pos hkey, ← hkey, h]
  · rw [if_neg hkey]

/-- The map with the value under one key changed. -/
def mapAt (key : String) (change : α → α) (d : Dict α) : Dict α :=
  ⟨d.entries.map fun e => (e.1, if e.1 = key then change e.2 else e.2),
    List.pairwise_map.mpr d.sorted⟩

@[simp] theorem get?_mapAt (key other : String) (change : α → α) (d : Dict α) :
    (d.mapAt key change).get? other =
      if other = key then (d.get? other).map change else d.get? other := by
  obtain ⟨entries, sorted⟩ := d
  change lookup other (entries.map _) = if other = key then (lookup other entries).map change
    else lookup other entries
  clear sorted
  induction entries with
  | nil => simp [lookup]
  | cons e entries ih =>
    rw [List.map_cons, lookup, lookup, ih]
    by_cases h : e.1 = other
    · subst h
      by_cases hkey : e.1 = key <;> simp [hkey]
    · simp [h]

theorem contains_mapAt (key other : String) (change : α → α) (d : Dict α) :
    (d.mapAt key change).contains other = d.contains other := by
  rw [contains, contains, get?_mapAt]
  split
  · exact Option.isSome_map
  · rfl

/-- A change under one key goes through a write of any key. -/
theorem mapAt_insert (key other : String) (change : α → α) (d : Dict α) (value : α) :
    (d.insert other value).mapAt key change =
      (d.mapAt key change).insert other (if other = key then change value else value) := by
  apply ext_get?
  intro k
  rw [get?_mapAt, get?_insert, get?_insert, get?_mapAt]
  by_cases h : other = k
  · subst h
    by_cases hkey : other = key <;> simp [hkey]
  · simp [h]

theorem mapAt_insertMany (key : String) (change : α → α) (d : Dict α)
    (pairs : List (String × α)) :
    (d.insertMany pairs).mapAt key change =
      (d.mapAt key change).insertMany
        (pairs.map fun e => (e.1, if e.1 = key then change e.2 else e.2)) := by
  induction pairs generalizing d with
  | nil => rfl
  | cons e pairs ih =>
    change ((d.insert e.1 e.2).insertMany pairs).mapAt key change = _
    rw [ih, mapAt_insert]
    rfl

end TelemetryWiring.Dict
