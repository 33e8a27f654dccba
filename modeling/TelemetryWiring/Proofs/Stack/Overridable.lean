import TelemetryWiring.Proofs.Shape.Lawful
import TelemetryWiring.Proofs.Stack.Ordered
import TelemetryWiring.Proofs.Stack.Override
import TelemetryWiring.Proofs.Stack.TextFields

/-!
What comes of a word that is put at the path of a text of a record. The keys of the path arrive in
lower case. If they are the record's own keys, the text is replaced, and a word that is no text is
refused; if not, the record does not read what was put there.
-/
namespace TelemetryWiring

open Override (isWord writeAt)

/-- Whether the objects around the end of a path are there. -/
def Json.encloses : List String → Json → Bool
  | [_], .obj _ => true
  | key :: path, .obj fields => (Dict.lookup key fields).any (encloses path)
  | _, _ => false

theorem Json.exists_dict_of_encloses {value : Json} (hvalue : value.Ordered) {path : List String}
    (h : value.encloses path = true) :
    ∃ e : Dict Json, value = ofDict e ∧ HasOrderedValues e.entries := by
  cases value with
  | obj fields => exact hvalue.exists_dict
  | _ => simp [encloses] at h

/-- Behind the first key of a longer path stands an object around its end. -/
theorem Json.encloses_cons {d : Dict Json} (hd : HasOrderedValues d.entries) {key next : String}
    {path : List String} (h : (ofDict d).encloses (key :: next :: path) = true) :
    ∃ e : Dict Json, d.get? key = some (ofDict e) ∧ HasOrderedValues e.entries ∧
      (ofDict e).encloses (next :: path) = true := by
  have hany : (d.get? key).any (encloses (next :: path)) = true := h
  cases hget : d.get? key with
  | none =>
    rw [hget] at hany
    cases hany
  | some value =>
    rw [hget] at hany
    obtain ⟨e, rfl, he⟩ := exists_dict_of_encloses (hd.ordered_of_get? hget) hany
    exact ⟨e, rfl, he, hany⟩

/-- A record read from its fields. -/
def readRecord (α : Type) [Decode α] (fields : Dict Json) : Option α := decode? (.ofDict fields)

variable {α β : Type}

/-- A record with a field under a key: a value that is put there becomes the field, and the record
is refused if the value is. -/
def HasField [Decode β] (read : Dict Json → Option α) (key : String) (set : β → α → α) : Prop :=
  ∀ d a, read d = some a → ∀ value : Json, value ≠ .null →
    read (d.insert key value) = (decode? value).map (set · a)

/-- A record that is read in the same way whatever stands under a key. -/
def Ignores (read : Dict Json → Option α) (key : String) : Prop :=
  ∀ d value, read (d.insert key value) = read d

/-- A record that reads what stands under certain keys alone. -/
def ReadsOnly (read : Dict Json → Option α) (known : List String) : Prop :=
  ∀ key, key ∉ known → Ignores read key

section Change

variable {read : Dict Json → Option α} (other : String) (change : Json → Json)

/-- What stands under one key may be changed before it is read. -/
theorem ReadsOnly.mapAt {known : List String} (h : ReadsOnly read known) :
    ReadsOnly (fun d => read (d.mapAt other change)) known := by
  intro key hkey d value
  change read ((d.insert key value).mapAt other change) = _
  rw [Dict.mapAt_insert, h _ hkey]

theorem HasField.mapAt [Decode β] {key : String} {set : β → α → α} (h : HasField read key set)
    (hkey : key ≠ other) : HasField (fun d => read (d.mapAt other change)) key set := by
  intro d a ha value hvalue
  change read ((d.insert key value).mapAt other change) = _
  rw [Dict.mapAt_insert, if_neg hkey]
  exact h _ a ha value hvalue

end Change

namespace TextField

/-- What a word does to a record that arrives in lower case at the path of the text: nothing if that
is another path, and otherwise it is the text or is refused. -/
def change? (f : TextField α) (word : Json) : Option (α → α) :=
  if f.isLowerCase then word.str?.map f.set else some id

/-- A word at the path of the text does to the record what it should. -/
def IsOverridable (read : Dict Json → Option α) (f : TextField α) : Prop :=
  ∀ d a word, Json.HasOrderedValues d.entries → (Json.ofDict d).encloses f.keys = true →
    isWord word = true → read d = some a →
      read (writeAt d (Text.lowerCase f.key) (f.path.map Text.lowerCase) word) =
        (f.change? word).map (· a)

variable {read : Dict Json → Option α} {f : TextField α}

theorem isLowerCase_iff :
    f.isLowerCase = true ↔
      Text.lowerCase f.key = f.key ∧ ∀ key ∈ f.path, Text.lowerCase key = key := by
  simp [isLowerCase, keys]

/-- A text whose first key has a letter in upper case cannot be replaced. -/
theorem isOverridable_of_ignored {known : List String} (hread : ReadsOnly read known)
    (hkey : Text.lowerCase f.key ≠ f.key) (hknown : Text.lowerCase f.key ∉ known) :
    f.IsOverridable read := by
  intro d a word _ _ _ ha
  have hlower : f.isLowerCase = false := by
    rw [← Bool.not_eq_true, isLowerCase_iff]
    exact fun h => hkey h.1
  rw [writeAt, hread _ hknown, ha, change?, hlower]
  rfl

theorem isOverridable_of_hasField (hfield : HasField read f.key f.set)
    (hkey : Text.lowerCase f.key = f.key) (hpath : f.path = []) : f.IsOverridable read := by
  intro d a word _ _ hword ha
  have hlower : f.isLowerCase = true := by simp [isLowerCase_iff, hkey, hpath]
  have hne : word ≠ .null := by
    rintro rfl
    cases hword
  rw [hpath, List.map_nil, Override.writeAt_nil _ _ hword, hkey, hfield d a ha word hne, change?,
    if_pos hlower, Option.map_map]
  rfl

/-- A text of a record inside the record can be replaced as it can in the inner one. -/
theorem IsOverridable.under [Decode β] {g : TextField β} (hg : g.IsOverridable (readRecord β))
    {key : String} {set : β → α → α} (hfield : HasField read key set)
    {modify : (β → β) → α → α} (hmodify : ∀ change b a, modify change (set b a) = set (change b) a)
    (hkey : Text.lowerCase key = key) : (g.under key modify).IsOverridable read := by
  intro d a word hd hencloses hword ha
  have hkeys : (Json.ofDict d).encloses (key :: g.key :: g.path) = true := hencloses
  obtain ⟨e, hget, he, hinner⟩ := Json.encloses_cons hd hkeys
  have hput (fields : Dict Json) :
      read (d.insert key (.ofDict fields)) = (readRecord β fields).map (set · a) :=
    hfield d a ha _ nofun
  have hself : (readRecord β e).map (set · a) = some a := by
    rw [← hput, Dict.insert_of_get? hget, ha]
  obtain ⟨b, hb, hset⟩ := Option.map_eq_some_iff.mp hself
  have hlower : (g.under key modify).isLowerCase = g.isLowerCase := by
    simp [isLowerCase, TextField.under, keys, hkey]
  change read (writeAt d (Text.lowerCase key) (Text.lowerCase g.key :: g.path.map _) word) = _
  rw [hkey, Override.writeAt_cons hget, hput, hg e b word he hinner hword hb, change?, change?,
    hlower]
  cases g.isLowerCase with
  | false => exact congrArg some hset
  | true =>
    cases word.str? with
    | none => rfl
    | some v =>
      have hv : modify (g.set v) a = set (g.set v b) a := by
        rw [← hmodify, hset]
      exact congrArg some hv.symm

/-- The texts of a record that reads certain keys alone: it is enough to look at the ones whose
first key arrives as it is. -/
theorem isOverridable_of_mem {known : List String} {fields : List (TextField α)}
    (hread : ReadsOnly read known)
    (hupper : ∀ f ∈ fields, Text.lowerCase f.key ≠ f.key → Text.lowerCase f.key ∉ known)
    (hlower : ∀ f ∈ fields.filter fun f => Text.lowerCase f.key = f.key, f.IsOverridable read) :
    ∀ f ∈ fields, f.IsOverridable read := by
  intro f hf
  by_cases hkey : Text.lowerCase f.key = f.key
  · exact hlower f (List.mem_filter.mpr ⟨hf, decide_eq_true hkey⟩)
  · exact isOverridable_of_ignored hread hkey (hupper f hf hkey)

end TextField

/-! Records are read field after field. What stands under a key comes to the field with that key,
and from there into the record, past all others. -/

section Fields

variable {γ : Type} {first : Dict Json → Option γ} {rest : γ → Dict Json → Option α}
  {key other : String}

theorem Ignores.bind (hfirst : Ignores first key) (hrest : ∀ c, Ignores (rest c) key) :
    Ignores (fun d => first d >>= fun c => rest c d) key := by
  intro d value
  change (first (d.insert key value) >>= _) = _
  rw [hfirst d value]
  exact bind_congr fun c => hrest c d value

theorem ignores_pure (a : α) : Ignores (fun _ => pure a) key := fun _ _ => rfl

theorem ignores_optional [Decode α] (h : key ≠ other) :
    Ignores (fun d => d.optional (α := α) other) key := by
  intro d value
  simp only [Dict.optional_eq, Dict.get?_insert, if_neg h]

theorem ignores_orElse [Decode α] {default : α} (h : key ≠ other) :
    Ignores (fun d => d.orElse other default) key := by
  intro d value
  simp only [Dict.orElse_eq, Dict.get?_insert, if_neg h]

/-- A field that may be missing. -/
theorem hasField_optional [Decode β] :
    HasField (fun d => d.optional (α := β) key) key fun new _ => some new := by
  intro d a _ value hvalue
  simp only [Dict.optional_eq, Dict.get?_insert, if_true]
  cases value with
  | null => exact absurd rfl hvalue
  | _ => rfl

/-- A field that may be missing, which then has a value of its own. -/
theorem hasField_orElse [Decode β] {default : β} :
    HasField (fun d => d.orElse key default) key fun new _ => new := by
  intro d a _ value _
  simp only [Dict.orElse_eq, Dict.get?_insert, if_true]
  exact Option.map_id'.symm

/-- The field is not among those that are read first. -/
theorem HasField.of_rest [Decode β] {set : β → α → α} (hfirst : Ignores first key)
    (hrest : ∀ c, HasField (rest c) key set) :
    HasField (fun d => first d >>= fun c => rest c d) key set := by
  intro d a ha value hvalue
  obtain ⟨c, hc, ha⟩ := Option.bind_eq_some_iff.mp ha
  change (first (d.insert key value) >>= _) = _
  rw [hfirst d value, hc]
  exact hrest c d a ha value hvalue

/-- The field is among those that are read first, and the others hand it on. -/
theorem HasField.of_first [Decode β] {put : β → γ → γ} {set : β → α → α}
    (hfirst : HasField first key put)
    (hrest : ∀ new c d value, rest (put new c) (d.insert key value) = (rest c d).map (set new)) :
    HasField (fun d => first d >>= fun c => rest c d) key set := by
  intro d a ha value hvalue
  obtain ⟨c, hc, ha⟩ := Option.bind_eq_some_iff.mp ha
  change (first (d.insert key value) >>= _) = _
  rw [hfirst d c hc value hvalue]
  cases decode? (α := β) value with
  | none => rfl
  | some new => exact (hrest new c d value).trans (congrArg (·.map (set new)) ha)

/-- What follows the field is read as before and goes into the changed record. -/
theorem bind_eq_map_bind {x y : Option γ} {f g : γ → Option α} {change : α → α} (hxy : x = y)
    (h : ∀ c, f c = (g c).map change) : (x >>= f) = (y >>= g).map change := by
  rw [hxy]
  cases y with
  | none => rfl
  | some c => exact h c

variable [Decode α] {read : Dict Json → Option α}

theorem readRecord_eq (h : ∀ j : Json, decode? j = j.fields? >>= read) : readRecord α = read := by
  funext d
  rw [readRecord, h, Json.fields?_ofDict]
  rfl

theorem ReadsOnly.record {known : List String} (hread : ∀ j : Json, decode? j = j.fields? >>= read)
    (h : ReadsOnly read known) : ReadsOnly (readRecord α) known := by
  rwa [readRecord_eq hread]

theorem HasField.record [Decode β] {set : β → α → α}
    (hread : ∀ j : Json, decode? j = j.fields? >>= read) (h : HasField read key set) :
    HasField (readRecord α) key set := by
  rwa [readRecord_eq hread]

end Fields

end TelemetryWiring
