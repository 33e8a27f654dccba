/-!
Lists of writes to keys, as maps and tag lists receive them: a later write of a key replaces an
earlier one, so what counts is the last value that the list gives the key.
-/
namespace TelemetryWiring

variable {α : Type}

/-- The last value that a list of writes gives a key. -/
def lastValue (key : String) : List (String × α) → Option α
  | [] => none
  | (k, v) :: rest => (lastValue key rest).or (if k = key then some v else none)

/-- Writes that never give one key two different values. -/
def IsConsistent (writes : List (String × α)) : Prop :=
  ∀ a ∈ writes, ∀ b ∈ writes, a.1 = b.1 → a.2 = b.2

theorem IsConsistent.tail {e : String × α} {l : List (String × α)} (h : IsConsistent (e :: l)) :
    IsConsistent l :=
  fun a ha b hb => h a (List.mem_cons_of_mem _ ha) b (List.mem_cons_of_mem _ hb)

theorem lastValue_eq_none_iff {key : String} {l : List (String × α)} :
    lastValue key l = none ↔ key ∉ l.map (·.1) := by
  induction l with
  | nil => simp [lastValue]
  | cons e l ih =>
    have hmem : key ∈ (e :: l).map (·.1) ↔ e.1 = key ∨ key ∈ l.map (·.1) := by
      rw [List.map_cons, List.mem_cons, eq_comm]
    rw [lastValue, Option.or_eq_none_iff, ih, hmem, not_or, and_comm]
    by_cases h : e.1 = key <;> simp [h]

theorem lastValue_eq_none {key : String} {l : List (String × α)} (h : ∀ e ∈ l, e.1 ≠ key) :
    lastValue key l = none := by
  rw [lastValue_eq_none_iff]
  intro hmem
  obtain ⟨e, he, hkey⟩ := List.mem_map.mp hmem
  exact h e he hkey

theorem isSome_lastValue_iff {key : String} {l : List (String × α)} :
    (lastValue key l).isSome = true ↔ key ∈ l.map (·.1) := by
  rw [Option.isSome_iff_ne_none, ne_eq, lastValue_eq_none_iff, Decidable.not_not]

theorem lastValue_append (key : String) (a b : List (String × α)) :
    lastValue key (a ++ b) = (lastValue key b).or (lastValue key a) := by
  induction a with
  | nil => rw [List.nil_append, lastValue, Option.or_none]
  | cons e a ih => rw [List.cons_append, lastValue, lastValue, ih, Option.or_assoc]

/-- A write that may be left out. -/
theorem lastValue_ite {p : Prop} [Decidable p] (key written : String) (value : α) :
    lastValue key (if p then [(written, value)] else []) =
      if p ∧ written = key then some value else none := by
  by_cases h : p <;> simp [lastValue, h]

/-- A write of a value that may be missing. -/
theorem lastValue_toList (key written : String) (value : Option α) :
    lastValue key (value.map fun v => (written, v)).toList =
      if written = key then value else none := by
  cases value <;> simp [lastValue]

/-- Writes that may be left out. -/
theorem keys_ite (p : Prop) [Decidable p] (l : List (String × α)) :
    ((if p then l else []).map (·.1)).Sublist (l.map (·.1)) := by
  split
  · exact .refl _
  · exact List.nil_sublist _

theorem keys_toList (written : String) (value : Option α) :
    ((value.map fun v => (written, v)).toList.map (·.1)).Sublist [written] := by
  cases value <;> simp

/-- Writes that are left out where they have no value, the first of them apart. -/
theorem lastValue_filterMap_cons (key written : String) (value : Option α)
    (l : List (String × Option α)) :
    lastValue key
        (((written, value) :: l).filterMap fun (key, value) => value.map fun v => (key, v)) =
      (lastValue key (l.filterMap fun (key, value) => value.map fun v => (key, v))).or
        (if written = key then value else none) := by
  cases value <;> simp [lastValue]

/-- A change of the values alone changes the last one. -/
theorem lastValue_map {β : Type} (change : α → β) (key : String) (l : List (String × α)) :
    lastValue key (l.map fun e => (e.1, change e.2)) = (lastValue key l).map change := by
  induction l with
  | nil => rfl
  | cons e l ih =>
    rw [List.map_cons, lastValue, lastValue, ih, Option.map_or]
    split <;> rfl

theorem mem_of_lastValue {key : String} {value : α} {l : List (String × α)}
    (h : lastValue key l = some value) : (key, value) ∈ l := by
  induction l with
  | nil => cases h
  | cons e l ih =>
    rw [lastValue, Option.or_eq_some_iff] at h
    rcases h with h | ⟨-, h⟩
    · exact List.mem_cons_of_mem _ (ih h)
    · split at h
      · rename_i hkey
        have hvalue : e.2 = value := Option.some.inj h
        have he : e = (key, value) := Prod.ext hkey hvalue
        simp [he]
      · cases h

/-- Every write of a consistent list is the last one of its key. -/
theorem lastValue_of_isConsistent {l : List (String × α)} (hl : IsConsistent l) {e : String × α}
    (he : e ∈ l) : lastValue e.1 l = some e.2 := by
  cases h : lastValue e.1 l with
  | none =>
    have hmem : e.1 ∈ l.map (·.1) := List.mem_map_of_mem he
    exact absurd hmem (lastValue_eq_none_iff.mp h)
  | some value => exact congrArg some (hl _ (mem_of_lastValue h) e he rfl)

theorem isConsistent_of_nodup {l : List (String × α)} (h : (l.map (·.1)).Nodup) :
    IsConsistent l := by
  induction l with
  | nil => simp [IsConsistent]
  | cons e l ih =>
    obtain ⟨hfresh, hrest⟩ := List.nodup_cons.mp h
    have hother (b : String × α) (hb : b ∈ l) : e.1 ≠ b.1 := by
      intro hkey
      have hmem : e.1 ∈ l.map (·.1) := hkey ▸ List.mem_map_of_mem hb
      exact hfresh hmem
    intro a ha b hb hkey
    rcases List.mem_cons.mp ha with hae | hal <;> rcases List.mem_cons.mp hb with hbe | hbl
    · rw [hae, hbe]
    · subst hae
      exact absurd hkey (hother b hbl)
    · subst hbe
      exact absurd hkey.symm (hother a hal)
    · exact ih hrest a hal b hbl hkey

/-- Where keys are not repeated, every write counts. -/
theorem lastValue_eq_some_iff_of_nodup {l : List (String × α)} (h : (l.map (·.1)).Nodup)
    {key : String} {value : α} : lastValue key l = some value ↔ (key, value) ∈ l :=
  ⟨mem_of_lastValue, lastValue_of_isConsistent (isConsistent_of_nodup h)⟩

/-- How often a list of writes gives a key a value. -/
def timesWritten (key : String) (writes : List (String × α)) : Nat :=
  (writes.map (·.1)).count key

theorem timesWritten_append (key : String) (a b : List (String × α)) :
    timesWritten key (a ++ b) = timesWritten key a + timesWritten key b := by
  rw [timesWritten, List.map_append, List.count_append]
  rfl

theorem timesWritten_singleton (key : String) (e : String × α) :
    timesWritten key [e] = if e.1 = key then 1 else 0 := by
  by_cases h : e.1 = key <;> simp [timesWritten, h]

theorem isSome_lastValue_eq (key : String) (l : List (String × α)) :
    (lastValue key l).isSome = decide (1 ≤ timesWritten key l) := by
  rw [Bool.eq_iff_iff, isSome_lastValue_iff, decide_eq_true_iff]
  exact List.count_pos_iff.symm

/-- A key is written at most once where keys are not repeated. -/
theorem timesWritten_of_nodup {l : List (String × α)} (h : (l.map (·.1)).Nodup)
    (key : String) : timesWritten key l = if (lastValue key l).isSome then 1 else 0 := by
  rw [timesWritten, h.count]
  simp only [isSome_lastValue_iff]

theorem lookup_cons_eq_ite (key : String) (e : String × α) (l : List (String × α)) :
    (e :: l).lookup key = if e.1 = key then some e.2 else l.lookup key := by
  rw [List.lookup_cons]
  by_cases h : e.1 = key
  · simp [h]
  · have hne : (key == e.1) = false := by simp [Ne.symm h]
    rw [hne, if_neg h]

/-- Where keys are not repeated, the first value of a key is its last. -/
theorem lookup_eq_lastValue {l : List (String × α)} (h : (l.map (·.1)).Nodup) (key : String) :
    l.lookup key = lastValue key l := by
  induction l with
  | nil => rfl
  | cons e l ih =>
    obtain ⟨hfresh, hrest⟩ := List.nodup_cons.mp h
    rw [lookup_cons_eq_ite, lastValue, ih hrest]
    by_cases hkey : e.1 = key
    · have hnone : lastValue key l = none := lastValue_eq_none_iff.mpr (hkey ▸ hfresh)
      simp [hkey, hnone]
    · simp [hkey]

/-- The last value that elements of a list have. -/
theorem getLast?_filterMap_cons {β : Type} (read : α → Option β) (a : α) (l : List α) :
    ((a :: l).filterMap read).getLast? = ((l.filterMap read).getLast?).or (read a) := by
  cases h : read a with
  | none => rw [List.filterMap_cons_none h, Option.or_none]
  | some b =>
    rw [List.filterMap_cons_some h, List.getLast?_cons]
    cases (l.filterMap read).getLast? <;> rfl

end TelemetryWiring
