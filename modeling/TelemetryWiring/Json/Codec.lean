import TelemetryWiring.Json.Value

/-!
Reading domain values out of JSON and writing them back. A reader answers nothing when the value
has not the expected shape; why it has not is never reported. Records are read out of objects alone,
see `Json.fields?`.
-/
namespace TelemetryWiring

/-- Types that can be read from JSON. -/
class Decode (α : Type) where
  decode? : Json → Option α

/-- Types that can be written as JSON. -/
class Encode (α : Type) where
  encode : α → Json

export Decode (decode?)
export Encode (encode)

variable {α : Type}

instance : Decode Json := ⟨some⟩
instance : Encode Json := ⟨id⟩

instance : Decode String := ⟨Json.str?⟩
instance : Encode String := ⟨.str⟩

instance : Decode Bool where
  decode?
    | .bool b => some b
    | _ => none

instance : Encode Bool := ⟨.bool⟩

/-- Reads a whole number below a bound. -/
def Json.natBelow? (bound : Nat) : Json → Option Nat
  | .num (.whole n) => if 0 ≤ n && n < bound then some n.toNat else none
  | _ => none

/-- A whole number. -/
def Json.ofNat (n : Nat) : Json := .num (.whole n)

instance : Decode UInt16 := ⟨fun j => (j.natBelow? UInt16.size).map UInt16.ofNat⟩
instance : Decode UInt32 := ⟨fun j => (j.natBelow? UInt32.size).map UInt32.ofNat⟩
instance : Decode UInt64 := ⟨fun j => (j.natBelow? UInt64.size).map UInt64.ofNat⟩
instance : Encode UInt16 := ⟨fun n => .ofNat n.toNat⟩
instance : Encode UInt32 := ⟨fun n => .ofNat n.toNat⟩
instance : Encode UInt64 := ⟨fun n => .ofNat n.toNat⟩

instance [Decode α] : Decode (List α) where
  decode?
    | .arr items => items.mapM decode?
    | _ => none

instance [Encode α] : Encode (List α) := ⟨fun items => .arr (items.map encode)⟩

instance [Decode α] : Decode (Dict α) where
  decode? j := do
    let fields ← j.fields?
    let pairs ← fields.toList.mapM fun (key, value) => (decode? value).map fun v => (key, v)
    return .ofList pairs

instance [Encode α] : Encode (Dict α) := ⟨fun d => .ofDict (d.mapValues encode)⟩

instance [Encode α] : Encode (Option α) where
  encode
    | some value => encode value
    | none => .null

/-- The name that stands for a value: a text, or the only key of an object with nothing under it. -/
def Json.name? : Json → Option String
  | .str s => some s
  | .obj [(key, .null)] => some key
  | _ => none

/-- Reads one of the values of an enumeration by its name. -/
abbrev Decode.byName (name : α → String) (values : List α) : Decode α :=
  ⟨fun j => do let s ← j.name?; values.find? fun v => name v == s⟩

namespace Dict

variable [Decode α]

/-- A field that must be there. -/
def required (fields : Dict Json) (key : String) : Option α := do decode? (← fields.get? key)

/-- A field that may be missing or null. -/
def optional (fields : Dict Json) (key : String) : Option (Option α) :=
  match fields.get? key with
  | none | some .null => some none
  | some value => (decode? value).map some

/-- A field that may be missing, which then has a value of its own. -/
def orElse (fields : Dict Json) (key : String) (default : α) : Option α :=
  match fields.get? key with
  | none => some default
  | some value => decode? value

end Dict

namespace Json

variable [Encode α]

/-- A field that is left out when there is no value. -/
def present (key : String) : Option α → List (String × Json)
  | some value => [(key, encode value)]
  | none => []

/-- A field that is left out when the list is empty. -/
def nonemptyList (key : String) (items : List α) : List (String × Json) :=
  if items.isEmpty then [] else [(key, encode items)]

/-- A field that is left out when the map is empty. -/
def nonemptyDict (key : String) (items : Dict α) : List (String × Json) :=
  if items.isEmpty then [] else [(key, encode items)]

end Json
end TelemetryWiring
