import TelemetryWiring.ApiKey
import TelemetryWiring.Identity

/-!
Records of settings laid over one another. What a layer leaves open lets the layer below show
through, leaf by leaf, and the leaves tell records apart. The laws of layers follow from these two
facts alone.
-/
namespace TelemetryWiring

/-- Which ways of reading a value off a record count as its leaves, for each type of value. -/
abbrev Leaves (S : Type) : Type 1 := (α : Type) → (S → Option α) → Prop

/-- Merging of records at whose leaves the upper record counts, and the lower one where the upper
one sets nothing. -/
structure IsLayering {S : Type} (Leaf : Leaves S) (merge : S → S → S) (empty : S) : Prop where
  read_merge : ∀ {α : Type} {read : S → Option α}, Leaf α read →
    ∀ lower upper, read (merge lower upper) = (read upper).or (read lower)
  read_empty : ∀ {α : Type} {read : S → Option α}, Leaf α read → read empty = none
  /-- A record is known from its leaves. -/
  ext : ∀ {a b : S}, (∀ (α : Type) (read : S → Option α), Leaf α read → read a = read b) → a = b

/-- Records of which the upper one sets every leaf that the lower one sets. -/
def Covers {S : Type} (Leaf : Leaves S) (upper lower : S) : Prop :=
  ∀ (α : Type) (read : S → Option α), Leaf α read → read upper = none → read lower = none

theorem Covers.exists_read {S : Type} {Leaf : Leaves S} {upper lower : S}
    (h : Covers Leaf upper lower) {α : Type} {read : S → Option α} (hleaf : Leaf α read) {a : α}
    (ha : read lower = some a) : ∃ b, read upper = some b := by
  rw [← Option.ne_none_iff_exists']
  intro hopen
  rw [h α read hleaf hopen] at ha
  cases ha

namespace IsLayering

variable {S : Type} {Leaf : Leaves S} {merge : S → S → S} {empty : S}

theorem merge_assoc (h : IsLayering Leaf merge empty) (a b c : S) :
    merge (merge a b) c = merge a (merge b c) := by
  apply h.ext
  intro α read hleaf
  simp only [h.read_merge hleaf, Option.or_assoc]

theorem empty_merge (h : IsLayering Leaf merge empty) (a : S) : merge empty a = a := by
  apply h.ext
  intro α read hleaf
  rw [h.read_merge hleaf, h.read_empty hleaf, Option.or_none]

theorem merge_empty (h : IsLayering Leaf merge empty) (a : S) : merge a empty = a := by
  apply h.ext
  intro α read hleaf
  rw [h.read_merge hleaf, h.read_empty hleaf, Option.none_or]

/-- A layer over one that it covers hides it. -/
theorem merge_of_covers (h : IsLayering Leaf merge empty) {lower upper : S}
    (hcovers : Covers Leaf upper lower) : merge lower upper = upper := by
  apply h.ext
  intro α read hleaf
  rw [h.read_merge hleaf]
  cases hread : read upper with
  | none => rw [hcovers α read hleaf hread, Option.or_none]
  | some value => rfl

theorem merge_self (h : IsLayering Leaf merge empty) (a : S) : merge a a = a :=
  h.merge_of_covers fun _ _ _ hopen => hopen

/-- What covers a merged record covers its lower layer. -/
theorem covers_lower (h : IsLayering Leaf merge empty) {a lower upper : S}
    (hcovers : Covers Leaf a (merge lower upper)) : Covers Leaf a lower := by
  intro α read hleaf hopen
  have hmerged := hcovers α read hleaf hopen
  rw [h.read_merge hleaf, Option.or_eq_none_iff] at hmerged
  exact hmerged.2

/-- Three layers together cover the lowest of them, whatever the upper two are. -/
theorem covers_lowest (h : IsLayering Leaf merge empty) (a b c : S) :
    Covers Leaf (merge (merge a b) c) a :=
  h.covers_lower (h.covers_lower fun _ _ _ hopen => hopen)

end IsLayering

/-- The laws of layers: merging is a monoid in which each record absorbs itself, and every leaf is
the upper record's where that sets it and the lower record's elsewhere. -/
structure LayerLaws {S : Type} (Leaf : Leaves S) (merge : S → S → S) (empty : S) : Prop
    extends IsLayering Leaf merge empty where
  merge_assoc : ∀ a b c, merge (merge a b) c = merge a (merge b c)
  empty_merge : ∀ a, merge empty a = a
  merge_empty : ∀ a, merge a empty = a
  merge_self : ∀ a, merge a a = a

theorem IsLayering.laws {S : Type} {Leaf : Leaves S} {merge : S → S → S} {empty : S}
    (h : IsLayering Leaf merge empty) : LayerLaws Leaf merge empty :=
  ⟨h, h.merge_assoc, h.empty_merge, h.merge_empty, h.merge_self⟩

attribute [ext] ServiceIdentity ApiKeySettings

inductive ServiceIdentity.Leaf : Leaves ServiceIdentity
  | env : Leaf String (·.env)
  | service : Leaf String (·.service)
  | version : Leaf String (·.version)

theorem ServiceIdentity.isLayering : IsLayering Leaf merge {} where
  read_merge h a b := by cases h <;> rfl
  read_empty h := by cases h <;> rfl
  ext h := ServiceIdentity.ext (h _ _ .env) (h _ _ .service) (h _ _ .version)

inductive ApiKeySettings.Leaf : Leaves ApiKeySettings
  | plain : Leaf String (·.plain)
  | secretArn : Leaf String (·.secretArn)
  | secret : Leaf SecretRef (·.secret)

theorem ApiKeySettings.isLayering : IsLayering Leaf merge {} where
  read_merge h a b := by cases h <;> rfl
  read_empty h := by cases h <;> rfl
  ext h := ApiKeySettings.ext (h _ _ .plain) (h _ _ .secretArn) (h _ _ .secret)

end TelemetryWiring
