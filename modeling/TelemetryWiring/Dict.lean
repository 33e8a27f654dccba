/-!
Finite maps keyed by strings. A map is its list of entries in strictly increasing key order, so
two maps with the same look-ups are equal (`Dict.ext_get?`), and each operation is described by
what a look-up sees afterwards.
-/
namespace TelemetryWiring

/-- A finite map from strings, held as its entries in increasing order of their keys. -/
structure Dict (α : Type) where
  entries : List (String × α)
  sorted : entries.Pairwise (fun a b => a.1 < b.1)
  deriving DecidableEq, Repr

namespace Dict

variable {α β : Type}

/-- The first value stored under a key in a list of entries. -/
def lookup (key : String) : List (String × α) → Option α
  | [] => none
  | (k, v) :: rest => if k = key then some v else lookup key rest

/-- Places an entry in key order, replacing the one that had its key. -/
def place (key : String) (value : α) : List (String × α) → List (String × α)
  | [] => [(key, value)]
  | (k, v) :: rest =>
    if key < k then (key, value) :: (k, v) :: rest
    else if k = key then (key, value) :: rest
    else (k, v) :: place key value rest

theorem mem_place {key : String} {value : α} {e : String × α} {l : List (String × α)}
    (h : e ∈ place key value l) : e = (key, value) ∨ e ∈ l := by
  induction l with
  | nil => simpa [place] using h
  | cons head tail ih =>
    obtain ⟨k, v⟩ := head
    rw [place] at h
    split at h
    · simpa using h
    · split at h
      · simp only [List.mem_cons] at h ⊢
        exact h.imp_right .inr
      · simp only [List.mem_cons] at h ⊢
        rcases h with h | h
        · exact .inr (.inl h)
        · exact (ih h).imp_right .inr

/-- Placing an entry keeps the keys in increasing order. -/
theorem pairwise_place (key : String) (value : α) {l : List (String × α)}
    (h : l.Pairwise (fun a b => a.1 < b.1)) :
    (place key value l).Pairwise (fun a b => a.1 < b.1) := by
  induction l with
  | nil => simp [place]
  | cons head tail ih =>
    obtain ⟨k, v⟩ := head
    obtain ⟨hhead, htail⟩ := List.pairwise_cons.1 h
    rw [place]
    split
    · rename_i hlt
      refine List.pairwise_cons.2 ⟨fun e he => ?_, h⟩
      rcases List.mem_cons.1 he with rfl | he
      · exact hlt
      · exact String.lt_trans hlt (hhead e he)
    · rename_i hnlt
      split
      · rename_i heq
        subst heq
        exact List.pairwise_cons.2 ⟨hhead, htail⟩
      · rename_i hne
        refine List.pairwise_cons.2 ⟨fun e he => ?_, ih htail⟩
        rcases mem_place he with rfl | he
        · refine Decidable.byContradiction fun hle => hne ?_
          exact String.le_antisymm (String.not_lt.1 hnlt) (String.not_lt.1 hle)
        · exact hhead e he

/-- The map without entries. -/
def empty : Dict α := ⟨[], .nil⟩

instance : EmptyCollection (Dict α) := ⟨empty⟩
instance : Inhabited (Dict α) := ⟨empty⟩

/-- The value stored under a key. -/
def get? (d : Dict α) (key : String) : Option α := lookup key d.entries

/-- Whether a key has a value. -/
def contains (d : Dict α) (key : String) : Bool := (d.get? key).isSome

/-- Stores a value under a key; the last write wins. -/
def insert (d : Dict α) (key : String) (value : α) : Dict α :=
  ⟨place key value d.entries, pairwise_place key value d.sorted⟩

/-- Removes a key and its value. -/
def erase (d : Dict α) (key : String) : Dict α :=
  ⟨d.entries.filter (·.1 ≠ key), d.sorted.sublist List.filter_sublist⟩

/-- Stores every pair of a list in turn, so that later pairs win. -/
def insertMany (d : Dict α) (pairs : List (String × α)) : Dict α :=
  pairs.foldl (fun d e => d.insert e.1 e.2) d

/-- The map of a list of pairs, later pairs winning. -/
def ofList (pairs : List (String × α)) : Dict α := empty.insertMany pairs

/-- The entries in increasing key order. -/
def toList (d : Dict α) : List (String × α) := d.entries

/-- The keys in increasing order. -/
def keys (d : Dict α) : List String := d.entries.map (·.1)

/-- Whether the map has no entries. -/
def isEmpty (d : Dict α) : Bool := d.entries.isEmpty

/-- Every entry of the second map over the first. -/
def merge (d other : Dict α) : Dict α := d.insertMany other.entries

/-- Applies a function to each value. -/
def mapValues (f : α → β) (d : Dict α) : Dict β :=
  ⟨d.entries.map fun e => (e.1, f e.2), List.pairwise_map.2 d.sorted⟩

theorem lookup_place (key other : String) (value : α) (l : List (String × α)) :
    lookup other (place key value l) = if key = other then some value else lookup other l := by
  induction l with
  | nil => simp [place, lookup]
  | cons head tail ih =>
    obtain ⟨k, v⟩ := head
    rw [place]
    split
    · simp [lookup]
    · split
      · rename_i h
        subst h
        by_cases h : k = other <;> simp [lookup, h]
      · rename_i h
        by_cases hk : k = other
        · subst hk
          simp [lookup, Ne.symm h]
        · simp [lookup, hk, ih]

theorem lookup_filter_ne (key other : String) (l : List (String × α)) :
    lookup other (l.filter (·.1 ≠ key)) = if key = other then none else lookup other l := by
  induction l with
  | nil => simp [lookup]
  | cons head tail ih =>
    obtain ⟨k, v⟩ := head
    by_cases h : k = key
    · subst h
      by_cases hk : k = other <;> simp_all [lookup]
    · by_cases hk : k = other
      · subst hk
        simp [lookup, h, Ne.symm h]
      · simp_all [lookup]

@[simp] theorem get?_empty (key : String) : (empty : Dict α).get? key = none := rfl

/-- A look-up after a write sees the written value under its key and the old values elsewhere. -/
@[simp] theorem get?_insert (d : Dict α) (key other : String) (value : α) :
    (d.insert key value).get? other = if key = other then some value else d.get? other :=
  lookup_place key other value d.entries

/-- A look-up after a removal sees nothing under the removed key and the old values elsewhere. -/
@[simp] theorem get?_erase (d : Dict α) (key other : String) :
    (d.erase key).get? other = if key = other then none else d.get? other :=
  lookup_filter_ne key other d.entries

theorem lookup_eq_none_of_lt {key : String} {l : List (String × α)}
    (h : ∀ e ∈ l, key < e.1) : lookup key l = none := by
  induction l with
  | nil => rfl
  | cons head tail ih =>
    have hne : head.1 ≠ key := fun e => String.lt_irrefl key (e ▸ h head (by simp))
    simp [lookup, hne, ih fun e he => h e (by simp [he])]

theorem eq_of_lookup_eq {l m : List (String × α)}
    (hl : l.Pairwise (fun a b => a.1 < b.1)) (hm : m.Pairwise (fun a b => a.1 < b.1))
    (h : ∀ key, lookup key l = lookup key m) : l = m := by
  induction l generalizing m with
  | nil =>
    cases m with
    | nil => rfl
    | cons head tail => simpa [lookup] using h head.1
  | cons a l ih =>
    cases m with
    | nil => simpa [lookup] using h a.1
    | cons b m =>
      obtain ⟨ha, hl⟩ := List.pairwise_cons.1 hl
      obtain ⟨hb, hm⟩ := List.pairwise_cons.1 hm
      have hkey : a.1 = b.1 := by
        refine String.le_antisymm (String.not_lt.1 fun hlt => ?_) (String.not_lt.1 fun hlt => ?_)
        · have hab : a.1 ≠ b.1 := fun e => String.lt_irrefl _ (e ▸ hlt)
          have hnone := lookup_eq_none_of_lt fun e he => String.lt_trans hlt (ha e he)
          have := h b.1
          simp [lookup, hab, hnone] at this
        · have hab : b.1 ≠ a.1 := fun e => String.lt_irrefl _ (e ▸ hlt)
          have hnone := lookup_eq_none_of_lt fun e he => String.lt_trans hlt (hb e he)
          have := h a.1
          simp [lookup, hab, hnone] at this
      have hvalue : a.2 = b.2 := by
        have := h a.1
        simpa [lookup, hkey] using this
      have htail : l = m := by
        refine ih hl hm fun key => ?_
        by_cases hk : a.1 = key
        · subst hk
          rw [lookup_eq_none_of_lt ha, lookup_eq_none_of_lt (hkey ▸ hb)]
        · have := h key
          simpa [lookup, hk, hkey ▸ hk] using this
      rw [htail, Prod.ext hkey hvalue]

/-- Maps with the same look-ups are equal. -/
theorem ext_get? {d e : Dict α} (h : ∀ key, d.get? key = e.get? key) : d = e := by
  have := eq_of_lookup_eq d.sorted e.sorted h
  cases d
  cases e
  simpa using this

example : (ofList [("b", 1), ("a", 2), ("b", 3)]).toList = [("a", 2), ("b", 3)] := by decide

end Dict
end TelemetryWiring
