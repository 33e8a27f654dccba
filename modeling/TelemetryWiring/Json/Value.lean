import TelemetryWiring.Dict
import TelemetryWiring.Json.Number

/-!
Values of the data format in which stacks, settings and payloads are written. The fields of an
object stand in increasing key order without repetition when the object is built by `Json.object`
or `Json.ofDict`, which is how the readers build it; equal objects are then equal values.
-/
namespace TelemetryWiring

inductive Json where
  | null
  | bool (value : Bool)
  | num (value : Number)
  | str (value : String)
  | arr (items : List Json)
  | obj (fields : List (String × Json))
  deriving Repr, Inhabited

namespace Json

mutual

/-- Whether two values are the same tree. -/
def same : Json → Json → Bool
  | .null, .null => true
  | .bool a, .bool b => a == b
  | .num a, .num b => a == b
  | .str a, .str b => a == b
  | .arr a, .arr b => sameItems a b
  | .obj a, .obj b => sameFields a b
  | _, _ => false

def sameItems : List Json → List Json → Bool
  | [], [] => true
  | a :: as, b :: bs => same a b && sameItems as bs
  | _, _ => false

def sameFields : List (String × Json) → List (String × Json) → Bool
  | [], [] => true
  | (k, a) :: as, (l, b) :: bs => k == l && same a b && sameFields as bs
  | _, _ => false

end

mutual

theorem same_self : (a : Json) → same a a = true
  | .null => rfl
  | .bool _ => by simp [same]
  | .num _ => by simp [same]
  | .str _ => by simp [same]
  | .arr items => by simp [same, sameItems_self items]
  | .obj fields => by simp [same, sameFields_self fields]

theorem sameItems_self : (as : List Json) → sameItems as as = true
  | [] => rfl
  | a :: as => by simp [sameItems, same_self a, sameItems_self as]

theorem sameFields_self : (as : List (String × Json)) → sameFields as as = true
  | [] => rfl
  | (_, a) :: as => by simp [sameFields, same_self a, sameFields_self as]

end

mutual

theorem eq_of_same : (a b : Json) → same a b = true → a = b
  | .null, b, h => by cases b <;> simp_all [same]
  | .bool _, b, h => by cases b <;> simp_all [same]
  | .num _, b, h => by cases b <;> simp_all [same]
  | .str _, b, h => by cases b <;> simp_all [same]
  | .arr items, b, h => by
    cases b <;> simp only [same, Bool.false_eq_true] at h
    exact congrArg _ (eq_of_sameItems items _ h)
  | .obj fields, b, h => by
    cases b <;> simp only [same, Bool.false_eq_true] at h
    exact congrArg _ (eq_of_sameFields fields _ h)

theorem eq_of_sameItems : (as bs : List Json) → sameItems as bs = true → as = bs
  | [], bs, h => by cases bs <;> simp_all [sameItems]
  | a :: as, [], h => by simp [sameItems] at h
  | a :: as, b :: bs, h => by
    simp only [sameItems, Bool.and_eq_true] at h
    rw [eq_of_same a b h.1, eq_of_sameItems as bs h.2]

theorem eq_of_sameFields : (as bs : List (String × Json)) → sameFields as bs = true → as = bs
  | [], bs, h => by cases bs <;> simp_all [sameFields]
  | a :: as, [], h => by simp [sameFields] at h
  | (k, a) :: as, (l, b) :: bs, h => by
    simp only [sameFields, Bool.and_eq_true, beq_iff_eq] at h
    rw [h.1.1, eq_of_same a b h.1.2, eq_of_sameFields as bs h.2]

end

instance : DecidableEq Json := fun a b =>
  decidable_of_iff (same a b = true) ⟨eq_of_same a b, fun h => h ▸ same_self a⟩

/-- An object with the entries of a map. -/
def ofDict (d : Dict Json) : Json := .obj d.entries

/-- An object with the given fields, later ones winning. -/
def object (fields : List (String × Json)) : Json := ofDict (.ofList fields)

/-- The fields of an object. An array has none: that a record may also be written as an array, with
the values of its fields in their order, is left out. -/
def fields? : Json → Option (Dict Json)
  | .obj fields => some (.ofList fields)
  | _ => none

/-- The text of a string. -/
def str? : Json → Option String
  | .str s => some s
  | _ => none

mutual

/-- The value in the form in which it is kept for later: null for a number that is not finite, and
nothing where a whole number needs more than sixty-four bits. -/
def stored? : Json → Option Json
  | .num .nonFinite => some .null
  | .num (.whole n) => if Number.fitsWord n then some (.num (.whole n)) else none
  | .arr items => (storedItems? items).map .arr
  | .obj fields => (storedFields? fields).map .obj
  | j => some j

def storedItems? : List Json → Option (List Json)
  | [] => some []
  | item :: items => do return (← stored? item) :: (← storedItems? items)

def storedFields? : List (String × Json) → Option (List (String × Json))
  | [] => some []
  | (key, value) :: fields => do return (key, ← stored? value) :: (← storedFields? fields)

end

mutual

/-- Whether no whole number in a value needs more than sixty-four bits. -/
def fitsWords : Json → Bool
  | .num (.whole n) => Number.fitsWord n
  | .arr items => itemsFitWords items
  | .obj fields => fieldsFitWords fields
  | _ => true

def itemsFitWords : List Json → Bool
  | [] => true
  | item :: items => fitsWords item && itemsFitWords items

def fieldsFitWords : List (String × Json) → Bool
  | [] => true
  | (_, value) :: fields => fitsWords value && fieldsFitWords fields

end

/-- A value at the end of a path of keys. -/
def nest : List String → Json → Json
  | [], value => value
  | key :: path, value => .obj [(key, nest path value)]

/-- Applies a function to the field of an object under a key. -/
def mapField (key : String) (f : Json → Json) : Json → Json
  | .obj fields => .obj (fields.map fun (k, value) => (k, if k = key then f value else value))
  | j => j

/-- Applies a function to each item of an array. -/
def mapItems (f : Json → Json) : Json → Json
  | .arr items => .arr (items.map f)
  | j => j

end Json
end TelemetryWiring
