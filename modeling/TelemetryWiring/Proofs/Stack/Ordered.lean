import TelemetryWiring.Proofs.Dict
import TelemetryWiring.Stack.Load

/-!
Values whose objects stand in increasing key order, the ones inside them too. A stack file describes
such values in either notation, so that a write into one of its objects is a write into a map.
-/
namespace TelemetryWiring

namespace Json

inductive Ordered : Json → Prop
  | null : Ordered .null
  | bool (value : Bool) : Ordered (.bool value)
  | num (value : Number) : Ordered (.num value)
  | str (value : String) : Ordered (.str value)
  | arr {items : List Json} (h : ∀ item ∈ items, Ordered item) : Ordered (.arr items)
  | obj {fields : List (String × Json)} (sorted : fields.Pairwise (fun a b => a.1 < b.1))
      (h : ∀ e ∈ fields, Ordered e.2) : Ordered (.obj fields)

/-- Fields in any order with ordered values. -/
def HasOrderedValues (fields : List (String × Json)) : Prop := ∀ e ∈ fields, e.2.Ordered

theorem hasOrderedValues_cons {key : String} {value : Json} {fields : List (String × Json)}
    (hvalue : value.Ordered) (hfields : HasOrderedValues fields) :
    HasOrderedValues ((key, value) :: fields) := by
  intro e he
  rcases List.mem_cons.mp he with rfl | he
  · exact hvalue
  · exact hfields e he

/-- An ordered object is the one of a map. -/
theorem Ordered.exists_dict {fields : List (String × Json)} (h : Ordered (.obj fields)) :
    ∃ d : Dict Json, .obj fields = ofDict d ∧ HasOrderedValues d.entries := by
  cases h with
  | obj sorted h => exact ⟨⟨fields, sorted⟩, rfl, h⟩

theorem HasOrderedValues.ordered_of_get? {d : Dict Json} (h : HasOrderedValues d.entries)
    {key : String} {value : Json} (hget : d.get? key = some value) : value.Ordered := by
  rw [Dict.get?_eq_lastValue] at hget
  exact h _ (mem_of_lastValue hget)

theorem hasOrderedValues_ofList {fields : List (String × Json)} (h : HasOrderedValues fields) :
    HasOrderedValues (Dict.ofList fields).entries := by
  intro e he
  have hget : (Dict.ofList fields).get? e.1 = some e.2 := by
    rw [Dict.get?_eq_lastValue]
    exact lastValue_of_isConsistent (isConsistent_of_nodup (Dict.nodup_keys _)) he
  rw [Dict.get?_ofList] at hget
  exact h _ (mem_of_lastValue hget)

theorem ordered_object {fields : List (String × Json)} (h : HasOrderedValues fields) :
    (object fields).Ordered := .obj (Dict.sorted _) (hasOrderedValues_ofList h)

theorem Ordered.nest {value : Json} (h : value.Ordered) (path : List String) :
    (nest path value).Ordered := by
  induction path with
  | nil => exact h
  | cons key path ih =>
    refine .obj (List.pairwise_singleton _ _) ?_
    exact hasOrderedValues_cons ih (by simp [HasOrderedValues])

/-- A rule by which fields with ordered values amount to an ordered value. -/
def FieldRule.KeepsOrder (rule : FieldRule) : Prop :=
  ∀ fields value, HasOrderedValues fields → rule fields = some value → value.Ordered

/-- A scalar token stands for an ordered value. -/
def Token.Ordered : Token → Prop
  | .scalar value => value.Ordered
  | _ => True

end Json

theorem keepsOrder_sourcedFields? : Json.FieldRule.KeepsOrder sourcedFields? := by
  intro fields value hfields h
  unfold sourcedFields? at h
  split at h
  · cases h
  · split at h
    · rename_i found hfound
      obtain ⟨before, after, hsplit, -⟩ := List.lookup_eq_some_iff.mp hfound
      have hmem : (sourcedValueKey, found) ∈ fields.reverse := by simp [hsplit]
      cases h
      exact hfields _ (List.mem_reverse.mp hmem)
    · cases h
      exact Json.ordered_object fun e he => hfields e (List.mem_filter.mp he).1

namespace Json

/-! The tokens of a text, and the values that tokens describe. -/

theorem ofMark?_ordered {c : Char} {mark : Token} (h : Token.ofMark? c = some mark) :
    mark.Ordered := by
  unfold Token.ofMark? at h
  split at h <;> cases h <;> trivial

theorem ofWord?_ordered {cs : List Char} {value : Json} (h : ofWord? cs = some value) :
    value.Ordered := by
  unfold ofWord? at h
  split at h
  · cases h
    exact .bool true
  · split at h
    · cases h
      exact .bool false
    · split at h
      · cases h
        exact .null
      · cases h

theorem tokens?_ordered {fuel : Nat} {cs : List Char} {tokens : List Token}
    (h : tokens? fuel cs = some tokens) : ∀ token ∈ tokens, token.Ordered := by
  induction fuel generalizing cs tokens with
  | zero =>
    cases cs with
    | nil =>
      cases h
      simp
    | cons c rest => cases h
  | succ fuel ih =>
    have hcons {first : Token} {rest : List Char} {more : List Token} (hfirst : first.Ordered)
        (hmore : tokens? fuel rest = some more) : ∀ token ∈ first :: more, token.Ordered :=
      List.forall_mem_cons.mpr ⟨hfirst, ih hmore⟩
    cases cs with
    | nil =>
      cases h
      simp
    | cons c rest =>
      rw [tokens?] at h
      split at h
      · exact ih h
      · split at h
        · rename_i mark hmark
          obtain ⟨more, hmore, rfl⟩ := Option.map_eq_some_iff.mp h
          exact hcons (ofMark?_ordered hmark) hmore
        · split at h
          · obtain ⟨⟨s, after⟩, -, h⟩ := Option.bind_eq_some_iff.mp h
            obtain ⟨more, hmore, h⟩ := Option.bind_eq_some_iff.mp h
            cases h
            exact hcons (.str s) hmore
          · split at h
            · obtain ⟨value, hvalue, h⟩ := Option.bind_eq_some_iff.mp h
              obtain ⟨more, hmore, h⟩ := Option.bind_eq_some_iff.mp h
              cases h
              exact hcons (ofWord?_ordered hvalue) hmore
            · obtain ⟨number, -, h⟩ := Option.bind_eq_some_iff.mp h
              obtain ⟨more, hmore, h⟩ := Option.bind_eq_some_iff.mp h
              cases h
              exact hcons (.num number) hmore

variable {rule : FieldRule}

/-- The readers with some fuel give ordered values, and tokens that stand for such are left. -/
structure ReadsOrdered (rule : FieldRule) (fuel : Nat) : Prop where
  value {tokens rest : List Token} {value : Json} (h : ∀ token ∈ tokens, token.Ordered)
    (hread : readValue rule fuel tokens = some (value, rest)) :
    value.Ordered ∧ ∀ token ∈ rest, token.Ordered
  items {tokens rest : List Token} {items : List Json} (h : ∀ token ∈ tokens, token.Ordered)
    (hread : readItems rule fuel tokens = some (items, rest)) :
    (∀ item ∈ items, item.Ordered) ∧ ∀ token ∈ rest, token.Ordered
  object {tokens rest : List Token} {fields : List (String × Json)}
    (h : ∀ token ∈ tokens, token.Ordered)
    (hread : readObject rule fuel tokens = some (fields, rest)) :
    HasOrderedValues fields ∧ ∀ token ∈ rest, token.Ordered
  fields {tokens rest : List Token} {fields : List (String × Json)}
    (h : ∀ token ∈ tokens, token.Ordered)
    (hread : readFields rule fuel tokens = some (fields, rest)) :
    HasOrderedValues fields ∧ ∀ token ∈ rest, token.Ordered

theorem ReadsOrdered.succ_value (hrule : rule.KeepsOrder) {fuel : Nat} (ih : ReadsOrdered rule fuel)
    {tokens rest : List Token} {value : Json} (h : ∀ token ∈ tokens, token.Ordered)
    (hread : readValue rule (fuel + 1) tokens = some (value, rest)) :
    value.Ordered ∧ ∀ token ∈ rest, token.Ordered := by
  unfold readValue at hread
  split at hread
  · cases hread
  · cases hread
    exact List.forall_mem_cons.mp h
  · cases hread
    refine ⟨.arr (by simp), fun token htoken => h token ?_⟩
    exact List.mem_cons_of_mem _ (List.mem_cons_of_mem _ htoken)
  · rename_i hfuel
    cases hfuel
    obtain ⟨⟨items, after⟩, hitems, hread⟩ := Option.map_eq_some_iff.mp hread
    cases hread
    obtain ⟨hitems, hrest⟩ := ih.items (List.forall_mem_cons.mp h).2 hitems
    exact ⟨.arr hitems, hrest⟩
  · rename_i hfuel
    cases hfuel
    obtain ⟨⟨fields, after⟩, hfields, hread⟩ := Option.bind_eq_some_iff.mp hread
    obtain ⟨value, hvalue, hread⟩ := Option.bind_eq_some_iff.mp hread
    cases hread
    obtain ⟨hfields, hrest⟩ := ih.object (List.forall_mem_cons.mp h).2 hfields
    exact ⟨hrule _ _ hfields hvalue, hrest⟩
  · cases hread

theorem ReadsOrdered.succ_items {fuel : Nat} (ih : ReadsOrdered rule fuel)
    {tokens rest : List Token} {items : List Json} (h : ∀ token ∈ tokens, token.Ordered)
    (hread : readItems rule (fuel + 1) tokens = some (items, rest)) :
    (∀ item ∈ items, item.Ordered) ∧ ∀ token ∈ rest, token.Ordered := by
  unfold readItems at hread
  obtain ⟨⟨item, after⟩, hfirst, hread⟩ := Option.bind_eq_some_iff.mp hread
  obtain ⟨hitem, hafter⟩ := ih.value h hfirst
  dsimp only at hread
  split at hread
  · obtain ⟨⟨items, after⟩, hitems, hread⟩ := Option.bind_eq_some_iff.mp hread
    cases hread
    obtain ⟨hitems, hrest⟩ := ih.items (List.forall_mem_cons.mp hafter).2 hitems
    exact ⟨List.forall_mem_cons.mpr ⟨hitem, hitems⟩, hrest⟩
  · cases hread
    exact ⟨by simpa using hitem, (List.forall_mem_cons.mp hafter).2⟩
  · cases hread

theorem ReadsOrdered.succ_object {fuel : Nat} (ih : ReadsOrdered rule fuel)
    {tokens rest : List Token} {fields : List (String × Json)}
    (h : ∀ token ∈ tokens, token.Ordered)
    (hread : readObject rule (fuel + 1) tokens = some (fields, rest)) :
    HasOrderedValues fields ∧ ∀ token ∈ rest, token.Ordered := by
  unfold readObject at hread
  split at hread
  · cases hread
  · cases hread
    exact ⟨by simp [HasOrderedValues], (List.forall_mem_cons.mp h).2⟩
  · rename_i hfuel _
    cases hfuel
    exact ih.fields h hread

theorem ReadsOrdered.succ_fields {fuel : Nat} (ih : ReadsOrdered rule fuel)
    {tokens rest : List Token} {fields : List (String × Json)}
    (h : ∀ token ∈ tokens, token.Ordered)
    (hread : readFields rule (fuel + 1) tokens = some (fields, rest)) :
    HasOrderedValues fields ∧ ∀ token ∈ rest, token.Ordered := by
  unfold readFields at hread
  split at hread
  · cases hread
  · rename_i hfuel
    cases hfuel
    obtain ⟨-, htokens⟩ := List.forall_mem_cons.mp h
    obtain ⟨key, -, hread⟩ := Option.bind_eq_some_iff.mp hread
    obtain ⟨⟨value, after⟩, hfirst, hread⟩ := Option.bind_eq_some_iff.mp hread
    obtain ⟨hvalue, hafter⟩ := ih.value (List.forall_mem_cons.mp htokens).2 hfirst
    dsimp only at hread
    split at hread
    · obtain ⟨⟨fields, after⟩, hfields, hread⟩ := Option.bind_eq_some_iff.mp hread
      cases hread
      obtain ⟨hfields, hrest⟩ := ih.fields (List.forall_mem_cons.mp hafter).2 hfields
      exact ⟨hasOrderedValues_cons hvalue hfields, hrest⟩
    · cases hread
      refine ⟨hasOrderedValues_cons hvalue (by simp [HasOrderedValues]), ?_⟩
      exact (List.forall_mem_cons.mp hafter).2
    · cases hread
  · cases hread

theorem readsOrdered (hrule : rule.KeepsOrder) (fuel : Nat) : ReadsOrdered rule fuel := by
  induction fuel with
  | zero => exact ⟨nofun, nofun, nofun, nofun⟩
  | succ fuel ih => exact ⟨ih.succ_value hrule, ih.succ_items, ih.succ_object, ih.succ_fields⟩

/-- The fields of a JSON text have ordered values. -/
theorem parseFields?_ordered (hrule : rule.KeepsOrder) {text : String}
    {fields : List (String × Json)} (h : parseFields? rule text = some fields) :
    HasOrderedValues fields := by
  obtain ⟨tokens, htokens, h⟩ := Option.bind_eq_some_iff.mp h
  unfold boundedTokens? at htokens
  obtain ⟨found, hfound, htokens⟩ := Option.bind_eq_some_iff.mp htokens
  split at htokens
  · cases htokens
    have hordered := tokens?_ordered hfound
    unfold fieldsOfTokens? at h
    split at h
    · split at h
      · rename_i hread
        cases h
        exact ((readsOrdered hrule _).object (List.forall_mem_cons.mp hordered).2 hread).1
      · cases h
    · cases h
  · cases htokens

end Json

namespace Yaml

/-! Nodes are read with a count of the references followed, which is of no account here. -/

section Reading

variable {α β : Type}

/-- Whatever a reader with a count gives satisfies a test. -/
def Gives (p : α → Prop) (m : StateT Nat Option α) : Prop :=
  ∀ count a next, m.run count = some (a, next) → p a

theorem Gives.pure {p : α → Prop} {a : α} (h : p a) : Gives p (pure a) := by
  intro count b next hrun
  cases hrun
  exact h

theorem Gives.lift {p : α → Prop} {x : Option α} (h : ∀ a, x = some a → p a) :
    Gives p (StateT.lift x) := by
  intro count a next hrun
  obtain ⟨b, hb, heq⟩ := Option.bind_eq_some_iff.mp hrun
  cases heq
  exact h _ hb

theorem gives_failure (p : α → Prop) : Gives p (failure : StateT Nat Option α) := nofun

theorem Gives.bind {p : α → Prop} {q : β → Prop} {m : StateT Nat Option α}
    {f : α → StateT Nat Option β} (hm : Gives p m) (hf : ∀ a, p a → Gives q (f a)) :
    Gives q (m >>= f) := by
  intro count b next hrun
  obtain ⟨⟨a, middle⟩, hfirst, hrest⟩ := Option.bind_eq_some_iff.mp hrun
  exact hf a (hm count a middle hfirst) middle b next hrest

/-- What is read first may be of no account. -/
theorem Gives.bind_any {q : β → Prop} {m : StateT Nat Option α} {f : α → StateT Nat Option β}
    (hf : ∀ a, Gives q (f a)) : Gives q (m >>= f) :=
  Gives.bind (p := fun _ => True) (fun _ _ _ _ => trivial) fun a _ => hf a

theorem Gives.mapM {p : β → Prop} {f : α → StateT Nat Option β} (h : ∀ a, Gives p (f a))
    (l : List α) : Gives (fun bs => ∀ b ∈ bs, p b) (l.mapM f) := by
  induction l with
  | nil =>
    rw [List.mapM_nil]
    exact .pure (by simp)
  | cons a l ih =>
    rw [List.mapM_cons]
    refine (h a).bind fun b hb => ih.bind fun bs hbs => ?_
    exact .pure (List.forall_mem_cons.mpr ⟨hb, hbs⟩)

end Reading

theorem ofPlain_ordered (text : String) : (ofPlain text).Ordered := by
  unfold ofPlain
  split
  · exact .null
  · split
    · exact .bool _
    · exact .num _
    · split
      · exact .str text
      · split
        · exact .num _
        · exact .str text

theorem ofUntagged_ordered (plain : Bool) (text : String) : (ofUntagged plain text).Ordered := by
  unfold ofUntagged
  split
  · exact ofPlain_ordered text
  · exact .str text

theorem ofScalar?_ordered {tag : Option (List UInt8)} {plain : Bool} {text : String} {value : Json}
    (h : ofScalar? tag plain text = some value) : value.Ordered := by
  cases tag with
  | none =>
    cases h
    exact ofUntagged_ordered plain text
  | some tag =>
    change ofTagged? tag plain text = some value at h
    unfold ofTagged? at h
    split at h
    · obtain ⟨b, -, rfl⟩ := Option.map_eq_some_iff.mp h
      exact .bool b
    · split at h
      · obtain ⟨n, -, rfl⟩ := Option.map_eq_some_iff.mp h
        exact .num n
      · split at h
        · obtain ⟨n, -, rfl⟩ := Option.map_eq_some_iff.mp h
          exact .num n
        · split at h
          · split at h <;> cases h
            exact .null
          · split at h <;> cases h
            · exact ofUntagged_ordered plain text
            · exact .str text

namespace Node

theorem named_ordered (p : Properties) {value : Json} (h : value.Ordered) :
    (named p value).Ordered := by
  unfold named
  split
  · exact h
  · exact h.nest _

variable {rule : Json.FieldRule} {r : References}

theorem fieldsWith_gives {value : Node → StateT Nat Option Json}
    (h : ∀ node, Gives Json.Ordered (value node)) (fields : List (Node × Node)) :
    Gives Json.HasOrderedValues (fieldsWith r value fields) := by
  refine Gives.mapM (p := fun e : String × Json => e.2.Ordered) (fun e => ?_) fields
  refine .bind_any fun key => .bind_any fun text => .bind_any fun node => ?_
  exact (h node).bind fun found hfound => .pure hfound

theorem value?_gives (hrule : rule.KeepsOrder) (depth : Nat) (node : Node) :
    Gives Json.Ordered (value? rule r depth node) := by
  induction depth generalizing node with
  | zero =>
    cases node with
    | reference number => exact gives_failure _
    | scalar p plain text =>
      refine (Gives.lift fun value hvalue => ofScalar?_ordered hvalue).bind fun value hvalue => ?_
      exact .pure (named_ordered p hvalue)
    | list p items => exact gives_failure _
    | map p fields => exact gives_failure _
  | succ depth ih =>
    cases node with
    | reference number => exact gives_failure _
    | scalar p plain text =>
      refine (Gives.lift fun value hvalue => ofScalar?_ordered hvalue).bind fun value hvalue => ?_
      exact .pure (named_ordered p hvalue)
    | list p items =>
      refine (Gives.mapM (fun item => .bind_any fun node => ih node) items).bind
        fun values hvalues => ?_
      exact .pure (named_ordered p (.arr hvalues))
    | map p fields =>
      refine (fieldsWith_gives ih fields).bind fun pairs hpairs => ?_
      refine (Gives.lift fun value hvalue => hrule _ value hpairs hvalue).bind
        fun value hvalue => ?_
      exact .pure (named_ordered p hvalue)

theorem document?_ordered (hrule : rule.KeepsOrder) {root : Node} {fields : List (String × Json)}
    (h : root.document? rule = some fields) : Json.HasOrderedValues fields := by
  unfold document? at h
  dsimp only at h
  split at h
  · obtain ⟨⟨pairs, next⟩, hpairs, rfl⟩ := Option.map_eq_some_iff.mp h
    exact fieldsWith_gives (value?_gives hrule _) _ _ _ _ hpairs
  · cases h
    simp [Json.HasOrderedValues]
  · cases h

end Node

/-- The fields of a YAML text have ordered values. -/
theorem parseFields?_ordered {rule : Json.FieldRule} (hrule : rule.KeepsOrder) {text : String}
    {fields : List (String × Json)} (h : parseFields? rule text = some fields) :
    Json.HasOrderedValues fields := by
  unfold parseFields? at h
  split at h
  · cases h
  · obtain ⟨tokens, -, h⟩ := Option.bind_eq_some_iff.mp h
    split at h
    · cases h
      simp [Json.HasOrderedValues]
    · obtain ⟨root, -, h⟩ := Option.bind_eq_some_iff.mp h
      exact Node.document?_ordered hrule h

end Yaml

/-- What a stack file describes is in key order throughout, in either notation. -/
theorem StackFormat.parse?_ordered {format : StackFormat} {text : String} {fields : Dict Json}
    (h : format.parse? text = some fields) : Json.HasOrderedValues fields.entries := by
  unfold parse? at h
  obtain ⟨pairs, hpairs, rfl⟩ := Option.map_eq_some_iff.mp h
  refine Json.hasOrderedValues_ofList ?_
  cases format with
  | json => exact Json.parseFields?_ordered keepsOrder_sourcedFields? hpairs
  | yaml => exact Yaml.parseFields?_ordered keepsOrder_sourcedFields? hpairs

end TelemetryWiring
