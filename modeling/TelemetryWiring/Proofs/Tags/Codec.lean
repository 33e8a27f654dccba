import TelemetryWiring.Proofs.Tags.Monoid
import TelemetryWiring.Proofs.Text.Affix

/-!
Writing tags as a text and reading them back. This works for tags whose entries are plain: the key
has neither colon nor separators, and neither has the value separators. What is read from any text
is plain, and so is what is put together from plain entries.
-/
namespace TelemetryWiring.Tags

/-- An entry that can be written as one word and read back. -/
structure IsPlainEntry (e : String × Option String) : Prop where
  key_ne_empty : e.1 ≠ ""
  key_plain : IsPlainText e.1
  colon_not_mem_key : ':' ∉ e.1.toList
  value_plain : ∀ v ∈ e.2, IsPlainText v

/-- Tags whose entries are all plain. -/
def IsPlain (tags : Tags) : Prop := ∀ e ∈ tags.entries, IsPlainEntry e

theorem isPlainText_renderEntry {e : String × Option String} (h : IsPlainEntry e) :
    IsPlainText (renderEntry e) ∧ renderEntry e ≠ "" := by
  obtain ⟨key, value⟩ := e
  cases value with
  | none => exact ⟨h.key_plain, h.key_ne_empty⟩
  | some value =>
    constructor
    · intro c hc
      have hmem : c ∈ key.toList ∨ c = ':' ∨ c ∈ value.toList := by
        simpa [renderEntry] using hc
      rcases hmem with hkey | rfl | hvalue
      · exact h.key_plain c hkey
      · decide
      · exact h.value_plain value rfl c hvalue
    · intro hempty
      have hcs : (key ++ ":" ++ value).toList = [] := congrArg String.toList hempty
      simp at hcs

/-- A plain entry is read back from its word. -/
theorem entryOfWord?_renderEntry {e : String × Option String} (h : IsPlainEntry e) :
    entryOfWord? (renderEntry e) = some e := by
  obtain ⟨key, value⟩ := e
  have hkey : key.toList ≠ [] := fun hnil => h.key_ne_empty (String.toList_eq_nil_iff.mp hnil)
  unfold entryOfWord? renderEntry
  cases value with
  | none => rw [Text.cut?_eq_none h.colon_not_mem_key]
  | some value =>
    have hcs : (key ++ ":" ++ value).toList = key.toList ++ ':' :: value.toList := by simp
    simp only [hcs, Text.cut?_append h.colon_not_mem_key]
    cases hlist : key.toList with
    | nil => exact absurd hlist hkey
    | cons c cs => simp [← hlist]

/-- What is read from a word without separators is plain. -/
theorem isPlainEntry_of_entryOfWord? {word : String} {e : String × Option String}
    (hword : IsPlainText word) (hne : word ≠ "") (h : entryOfWord? word = some e) :
    IsPlainEntry e := by
  unfold entryOfWord? at h
  split at h
  · cases h
  · rename_i key value hkey hcut
    cases h
    obtain ⟨hsplit, hcolon⟩ := Text.of_cut?_eq_some hcut
    constructor
    · intro hempty
      exact hkey (by simpa using congrArg String.toList hempty)
    · intro c hc
      apply hword
      rw [hsplit]
      simpa using Or.inl (by simpa using hc)
    · simpa using hcolon
    · intro v hv c hc
      cases hv
      apply hword
      rw [hsplit]
      simpa using Or.inr (Or.inr (by simpa using hc))
  · rename_i hcut
    cases h
    have hcolon : ':' ∉ word.toList := by
      intro hmem
      obtain ⟨before, after, hsplit, hbefore⟩ := List.eq_append_cons_of_mem hmem
      rw [hsplit, Text.cut?_append hbefore] at hcut
      cases hcut
    exact ⟨hne, hword, hcolon, by simp⟩

theorem mem_upsert {α : Type} {key : String} {value : α} {e : String × α} {l : List (String × α)}
    (h : e ∈ upsert key value l) : e = (key, value) ∨ e ∈ l := by
  induction l with
  | nil => exact .inl (List.mem_singleton.mp h)
  | cons a l ih =>
    rw [upsert] at h
    split at h
    · rcases List.mem_cons.mp h with rfl | h
      · exact .inl rfl
      · exact .inr (List.mem_cons_of_mem _ h)
    · rcases List.mem_cons.mp h with rfl | h
      · exact .inr List.mem_cons_self
      · exact (ih h).imp_right (List.mem_cons_of_mem _)

theorem isPlain_empty : empty.IsPlain := by simp [IsPlain, empty]

theorem IsPlain.putAll {tags : Tags} {l : List (String × Option String)} (ht : tags.IsPlain)
    (hl : ∀ e ∈ l, IsPlainEntry e) : (tags.putAll l).IsPlain := by
  induction l generalizing tags with
  | nil => exact ht
  | cons a l ih =>
    apply ih
    · intro e he
      rcases mem_upsert he with rfl | he
      · exact hl _ List.mem_cons_self
      · exact ht e he
    · intro e he
      exact hl e (List.mem_cons_of_mem _ he)

theorem IsPlain.set {tags : Tags} (ht : tags.IsPlain) {key value : String}
    (he : IsPlainEntry (key, some value)) : (tags.set key value).IsPlain := by
  have hput : tags.set key value = tags.putAll [(key, some value)] := rfl
  rw [hput]
  exact ht.putAll (by simpa using he)

theorem IsPlain.merge {t u : Tags} (ht : t.IsPlain) (hu : u.IsPlain) : (t.merge u).IsPlain :=
  ht.putAll hu

/-- What is read from a text is plain. -/
theorem isPlain_parse (text : String) : (parse text).IsPlain := by
  rw [parse_eq_putAll]
  apply isPlain_empty.putAll
  intro e he
  obtain ⟨word, hword, hentry⟩ := List.mem_filterMap.mp he
  obtain ⟨hplain, hne⟩ := isPlainText_of_mem_words hword
  exact isPlainEntry_of_entryOfWord? hplain hne hentry

/-- The words of written tags are the entries, in order and one word each. -/
theorem words_render {tags : Tags} (h : tags.IsPlain) :
    words tags.render = tags.entries.map renderEntry := by
  -- an entry is one word, and no word runs over a comma
  have hword (e : String × Option String) (he : e ∈ tags.entries) :
      words (renderEntry e) = [renderEntry e] := by
    obtain ⟨hplain, hne⟩ := isPlainText_renderEntry (h e he)
    exact words_of_isPlainText hplain hne
  rw [render, words_intercalate, List.flatMap_map, List.map_eq_flatMap]
  exact List.flatMap_congr hword

/-- Plain tags are read back from their text. -/
theorem parse_render {tags : Tags} (h : tags.IsPlain) : parse tags.render = tags := by
  have hentries : (tags.entries.map renderEntry).filterMap entryOfWord? = tags.entries := by
    rw [List.filterMap_map]
    refine (List.filterMap_congr fun e he => ?_).trans List.filterMap_some
    exact entryOfWord?_renderEntry (h e he)
  rw [parse_eq_putAll, words_render h, hentries]
  exact empty_merge tags

/-- A value among plain tags has no separators. -/
theorem IsPlain.isPlainText_of_get? {tags : Tags} (h : tags.IsPlain) {key value : String}
    (hget : tags.get? key = some (some value)) : IsPlainText value := by
  rw [get?_eq_lastValue] at hget
  exact (h _ (mem_of_lastValue hget)).value_plain value rfl

example : (parse (parse "a:1 b,, a:2,:c").render).entries = [("a", some "2"), ("b", none)] := by
  decide

end TelemetryWiring.Tags
