import TelemetryWiring.Proofs.Tags.Codec

/-!
The tags that parsing, merging and setting lead to. Plain entries are the invariant: parsing finds no
others, merging brings none in, and setting adds a plain one as long as key and value can stand in a
word. So whatever is reached is read back from its text.
-/
namespace TelemetryWiring.Tags

/-- Tags that are made of nothing but texts that were parsed, merges, and keys set to values without
separators. -/
inductive Reachable : Tags → Prop
  | empty : Reachable empty
  | parse (text : String) : Reachable (parse text)
  | merge {t u : Tags} (lower : Reachable t) (upper : Reachable u) : Reachable (t.merge u)
  | set {t : Tags} (tags : Reachable t) {key value : String} (key_ne_empty : key ≠ "")
      (colon_not_mem_key : ':' ∉ key.toList) (key_plain : IsPlainText key)
      (value_plain : IsPlainText value) : Reachable (t.set key value)

theorem Reachable.isPlain {tags : Tags} (h : Reachable tags) : tags.IsPlain := by
  induction h with
  | empty => exact isPlain_empty
  | parse text => exact isPlain_parse text
  | merge lower upper iht ihu => exact iht.merge ihu
  | set tags hne hcolon hkey hvalue ih =>
    apply ih.set
    exact ⟨hne, hkey, hcolon, by simpa using hvalue⟩

/-- Tags that are told by their text. -/
structure RoundTrips (tags : Tags) : Prop where
  keys_nodup : tags.keys.Nodup
  key_ne_empty : ∀ key ∈ tags.keys, key ≠ ""
  /-- The words of the text are the entries in order: a bare key as it is, and an empty value behind
  the colon of its key. -/
  words_render : words tags.render = tags.entries.map renderEntry
  parse_render : parse tags.render = tags

theorem IsPlain.roundTrips {tags : Tags} (h : tags.IsPlain) : RoundTrips tags := by
  constructor
  case keys_nodup => exact tags.distinct
  case key_ne_empty =>
    intro key hkey
    obtain ⟨e, he, rfl⟩ := List.mem_map.mp hkey
    exact (h e he).key_ne_empty
  case words_render => exact Tags.words_render h
  case parse_render => exact Tags.parse_render h

/-- Whatever tags are reached can be told from their text, so the text of parsed tags comes back when
it is parsed and written again. -/
theorem roundTrips_of_reachable :
    (∀ tags, Reachable tags → RoundTrips tags) ∧
      ∀ text, (parse (parse text).render).render = (parse text).render := by
  constructor
  · intro tags h
    exact h.isPlain.roundTrips
  · intro text
    rw [parse_render (isPlain_parse text)]

/-- A bare key, a value that was replaced, an empty value and a value with colons. -/
theorem roundTrips_of_merged_and_set :
    ∃ tags, tags =
        ((parse "a:1 b,,:c").merge (parse "b c:,a:2")).set "url" "https://host/x" ∧
      tags.render = "a:2,b,c:,url:https://host/x" ∧ RoundTrips tags := by
  refine ⟨_, rfl, by decide, roundTrips_of_reachable.1 _ ?_⟩
  exact .set (.merge (.parse _) (.parse _)) (by decide) (by decide) (by decide) (by decide)

end TelemetryWiring.Tags
