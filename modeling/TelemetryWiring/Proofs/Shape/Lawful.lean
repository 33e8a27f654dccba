import TelemetryWiring.Json.Codec
import TelemetryWiring.Proofs.Dict

/-!
JSON forms that can be read back. A value is lawfully written if reading what was written gives it
back; nothing is written as null then, which stands for what is missing. Records are read key by
key, and what stands under a key is the last field of that name, which may have been left out.
-/
namespace TelemetryWiring

/-- A form from which every value can be read back. -/
class LawfulCodec (α : Type) [Decode α] [Encode α] : Prop where
  decode_encode : ∀ v : α, decode? (encode v) = some v
  encode_ne_null : ∀ v : α, encode v ≠ .null

export LawfulCodec (decode_encode encode_ne_null)

attribute [simp] decode_encode encode_ne_null

variable {α : Type}

instance : LawfulCodec String := ⟨fun _ => rfl, nofun⟩
instance : LawfulCodec Bool := ⟨fun _ => rfl, nofun⟩

theorem Json.natBelow?_ofNat {bound n : Nat} (h : n < bound) :
    (Json.ofNat n).natBelow? bound = some n := by
  simp [Json.natBelow?, Json.ofNat, h]

instance : LawfulCodec UInt16 where
  decode_encode n := by
    change ((Json.ofNat n.toNat).natBelow? UInt16.size).map UInt16.ofNat = some n
    rw [Json.natBelow?_ofNat n.toNat_lt]
    simp
  encode_ne_null := nofun

instance : LawfulCodec UInt32 where
  decode_encode n := by
    change ((Json.ofNat n.toNat).natBelow? UInt32.size).map UInt32.ofNat = some n
    rw [Json.natBelow?_ofNat n.toNat_lt]
    simp
  encode_ne_null := nofun

instance : LawfulCodec UInt64 where
  decode_encode n := by
    change ((Json.ofNat n.toNat).natBelow? UInt64.size).map UInt64.ofNat = some n
    rw [Json.natBelow?_ofNat n.toNat_lt]
    simp
  encode_ne_null := nofun

/-- The values of an enumeration are told apart by their names. -/
theorem LawfulCodec.byName {name : α → String} {values : List α}
    (h : ∀ v, values.find? (fun other => name other == name v) = some v) :
    @LawfulCodec α (Decode.byName name values) ⟨fun v => encode (name v)⟩ :=
  @LawfulCodec.mk α (Decode.byName name values) ⟨fun v => encode (name v)⟩ h nofun

section Containers

variable [Decode α] [Encode α] [LawfulCodec α]

theorem mapM_decode_encode (items : List α) : (items.map encode).mapM decode? = some items := by
  induction items with
  | nil => rfl
  | cons item items ih =>
    rw [List.map_cons, List.mapM_cons, decode_encode, ih]
    rfl

instance : LawfulCodec (List α) := ⟨mapM_decode_encode, nofun⟩

@[simp] theorem Json.fields?_ofDict (d : Dict Json) : (Json.ofDict d).fields? = some d := by
  change some (Dict.ofList d.entries) = some d
  rw [Dict.ofList_entries]

@[simp] theorem Json.fields?_object (fields : List (String × Json)) :
    (Json.object fields).fields? = some (.ofList fields) := Json.fields?_ofDict _

theorem Json.object_ne_null (fields : List (String × Json)) : Json.object fields ≠ .null := nofun

instance : LawfulCodec (Dict α) where
  decode_encode d := by
    have hpairs : (d.entries.map fun e => (e.1, encode e.2)).mapM
        (fun (key, value) => (decode? value).map fun v : α => (key, v)) = some d.entries := by
      induction d.entries with
      | nil => rfl
      | cons e entries ih =>
        rw [List.map_cons, List.mapM_cons, ih]
        simp
    change ((Json.ofDict (d.mapValues encode)).fields?.bind _) = some d
    rw [Json.fields?_ofDict]
    change ((d.entries.map fun e => (e.1, encode e.2)).mapM _ >>= fun pairs =>
      some (Dict.ofList pairs)) = some d
    rw [hpairs]
    exact congrArg some d.ofList_entries
  encode_ne_null := nofun

end Containers

/-- A record is read back if each of its fields is found again under its key. -/
theorem LawfulCodec.ofFields [Decode α] [Encode α] {read : Dict Json → Option α}
    {write : α → List (String × Json)} (hread : ∀ j : Json, decode? j = j.fields? >>= read)
    (hwrite : ∀ v, encode v = Json.object (write v))
    (h : ∀ v (fields : Dict Json), (∀ key, fields.get? key = lastValue key (write v)) →
      read fields = some v) : LawfulCodec α where
  decode_encode v := by
    rw [hread, hwrite, Json.fields?_object]
    exact h v _ fun key => Dict.get?_ofList _ key
  encode_ne_null v := by
    rw [hwrite]
    exact Json.object_ne_null _

/-! Fields of records: what is written under a key, and how it is read. -/

section Fields

variable [Decode α]

/-- A field that must be there, read from what stands under its key. -/
def readRequired (found : Option Json) : Option α := found.bind decode?

/-- A field that may be missing or null. -/
def readOptional : Option Json → Option (Option α)
  | none | some .null => some none
  | some value => (decode? value).map some

/-- A field that may be missing, which then has a value of its own. -/
def readOrElse (default : α) (found : Option Json) : Option α := found.elim (some default) decode?

@[simp] theorem Dict.required_eq (fields : Dict Json) (key : String) :
    fields.required (α := α) key = readRequired (fields.get? key) := by
  unfold Dict.required readRequired
  cases fields.get? key <;> rfl

@[simp] theorem Dict.optional_eq (fields : Dict Json) (key : String) :
    fields.optional (α := α) key = readOptional (fields.get? key) := by
  unfold Dict.optional readOptional
  cases fields.get? key with
  | none => rfl
  | some value => cases value <;> rfl

@[simp] theorem Dict.orElse_eq (fields : Dict Json) (key : String) (default : α) :
    fields.orElse key default = readOrElse default (fields.get? key) := by
  unfold Dict.orElse readOrElse
  cases fields.get? key <;> rfl

end Fields

section Fields

variable [Encode α]

@[simp] theorem lastValue_present (key written : String) (value : Option α) :
    lastValue key (Json.present written value) =
      if written = key then value.map encode else none := by
  cases value <;> simp [Json.present, lastValue]

@[simp] theorem lastValue_nonemptyList (key written : String) (items : List α) :
    lastValue key (Json.nonemptyList written items) =
      if written = key then if items = [] then none else some (encode items) else none := by
  unfold Json.nonemptyList
  cases items <;> simp [lastValue]

@[simp] theorem lastValue_nonemptyDict (key written : String) (items : Dict α) :
    lastValue key (Json.nonemptyDict written items) =
      if written = key then if items.isEmpty then none else some (encode items) else none := by
  unfold Json.nonemptyDict
  cases items.isEmpty <;> simp [lastValue]

variable [Decode α] [LawfulCodec α]

@[simp] theorem readRequired_encode (value : α) :
    readRequired (some (encode value)) = some value := decode_encode value

@[simp] theorem readOrElse_encode (default value : α) :
    readOrElse default (some (encode value)) = some value := decode_encode value

/-- A value that may be missing is read back where null was written for it. -/
@[simp] theorem readOptional_encode (value : Option α) :
    readOptional (some (encode value)) = some value := by
  cases value with
  | none => rfl
  | some value =>
    have hread : readOptional (α := α) (some (encode value)) =
        (decode? (encode value)).map some := by
      unfold readOptional
      split
      · rename_i h
        cases h
      · rename_i h
        exact absurd (Option.some.inj h) (encode_ne_null value)
      · rename_i h
        rw [← Option.some.inj h]
    change readOptional (some (encode value)) = _
    rw [hread, decode_encode]
    rfl

/-- It is read back where it was left out. -/
@[simp] theorem readOptional_map (value : Option α) :
    readOptional (value.map encode) = some value := by
  cases value with
  | none => rfl
  | some value => exact readOptional_encode (some value)

/-- An empty list is read back where it was left out. -/
@[simp] theorem readOrElse_nonemptyList (items : List α) :
    readOrElse [] (if items = [] then none else some (encode items)) = some items := by
  split
  · rename_i h
    rw [h]
    rfl
  · exact readOrElse_encode [] items

@[simp] theorem readOrElse_nonemptyDict (items : Dict α) :
    readOrElse .empty (if items.isEmpty then none else some (encode items)) = some items := by
  obtain ⟨entries, sorted⟩ := items
  cases entries with
  | nil => rfl
  | cons e entries => exact readOrElse_encode .empty _

end Fields
end TelemetryWiring
