import TelemetryWiring.Text.Affix
import TelemetryWiring.Text.Blank

/-!
Tag lists as they stand in one environment variable: `key:value` pairs and bare keys in order,
each key once. Parsing adds the words of a text one after the other, a later word replacing the
entry of its key in place.
-/
namespace TelemetryWiring

/-- Places an entry where its key stands, or at the end. -/
def upsert {α : Type} (key : String) (value : α) : List (String × α) → List (String × α)
  | [] => [(key, value)]
  | (k, v) :: rest => if k = key then (key, value) :: rest else (k, v) :: upsert key value rest

theorem keys_upsert {α : Type} (key : String) (value : α) (l : List (String × α)) :
    (upsert key value l).map (·.1) =
      if key ∈ l.map (·.1) then l.map (·.1) else l.map (·.1) ++ [key] := by
  induction l with
  | nil => simp [upsert]
  | cons head tail ih =>
    obtain ⟨k, v⟩ := head
    by_cases h : k = key
    · simp [upsert, h]
    · rw [upsert, if_neg h, List.map_cons, ih]
      by_cases hm : key ∈ tail.map (·.1) <;> simp [hm, Ne.symm h]

theorem nodup_keys_upsert {α : Type} (key : String) (value : α) {l : List (String × α)}
    (h : (l.map (·.1)).Nodup) : ((upsert key value l).map (·.1)).Nodup := by
  rw [keys_upsert]
  split
  · exact h
  · rename_i hk
    exact List.nodup_append.2 ⟨h, by simp, fun a ha b hb => by
      rw [List.mem_singleton.1 hb]
      rintro rfl
      exact hk ha⟩

/-- Tags in order; a bare key has no value. -/
structure Tags where
  entries : List (String × Option String)
  distinct : (entries.map (·.1)).Nodup
  deriving DecidableEq, Repr

namespace Tags

def empty : Tags := ⟨[], .nil⟩

instance : Inhabited Tags := ⟨empty⟩

/-- Replaces the entry of a key in place, or appends one. -/
def put (tags : Tags) (key : String) (value : Option String) : Tags :=
  ⟨upsert key value tags.entries, nodup_keys_upsert key value tags.distinct⟩

/-- Sets a key to a value. -/
def set (tags : Tags) (key value : String) : Tags := tags.put key (some value)

/-- Puts every entry of the second list over the first, in order. -/
def merge (tags other : Tags) : Tags :=
  other.entries.foldl (fun t (key, value) => t.put key value) tags

/-- Sets each key of a list of pairs. -/
def setAll (tags : Tags) (pairs : List (String × String)) : Tags :=
  pairs.foldl (fun t (key, value) => t.set key value) tags

/-- The entry that a word writes: what stands before its first colon and what follows it, or a
bare key. A word that begins with a colon writes none. -/
def entryOfWord? (word : String) : Option (String × Option String) :=
  match Text.cut? [':'] word.toList with
  | some ([], _) => none
  | some (key, value) => some (.ofList key, some (.ofList value))
  | none => some (word, none)

/-- Reads the entries of a text whose words are separated by commas and blanks. -/
def parse (text : String) : Tags :=
  ((Text.words (Text.replaceChar ',' ' ' text)).filterMap entryOfWord?).foldl
    (fun t (key, value) => t.put key value) empty

def renderEntry : String × Option String → String
  | (key, some value) => key ++ ":" ++ value
  | (key, none) => key

/-- The entries separated by commas. -/
def render (tags : Tags) : String := String.intercalate "," (tags.entries.map renderEntry)

/-- The entries in order, bare keys with an empty value. -/
def toList (tags : Tags) : List (String × String) :=
  tags.entries.map fun (key, value) => (key, value.getD "")

/-- The entries whose value is not empty. -/
def valued (tags : Tags) : List (String × String) :=
  tags.toList.filter fun (_, value) => value != ""

def isEmpty (tags : Tags) : Bool := tags.entries.isEmpty

/-- The value of a key, `none` inside for a bare key. -/
def get? (tags : Tags) (key : String) : Option (Option String) := tags.entries.lookup key

end Tags
end TelemetryWiring
