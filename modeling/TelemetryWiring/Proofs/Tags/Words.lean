import TelemetryWiring.Tags

/-!
The words of a text of tags. Commas and blanks alike stand between words, so every statement here
comes from one view of the words: the pieces between separators that are not empty.
-/
namespace TelemetryWiring.Tags

/-- Whether a character stands between the words of a text of tags. -/
def isSeparator (c : Char) : Bool := c == ',' || Text.isBlank c

/-- A text without separators. -/
def IsPlainText (s : String) : Prop := ∀ c ∈ s.toList, isSeparator c = false

instance (s : String) : Decidable (IsPlainText s) :=
  List.decidableBAll (fun c => isSeparator c = false) s.toList

/-- The words of a text, as `parse` finds them. -/
def words (text : String) : List String := Text.words (Text.replaceChar ',' ' ' text)

theorem splitOnP_replaced (cs : List Char) :
    (cs.map fun c => if c = ',' then ' ' else c).splitOnP Text.isBlank =
      cs.splitOnP isSeparator := by
  induction cs with
  | nil => rfl
  | cons c cs ih =>
    rw [List.map_cons, List.splitOnP_cons_eq_if_modifyHead, List.splitOnP_cons_eq_if_modifyHead, ih]
    by_cases hcomma : c = ','
    · subst hcomma
      rfl
    · have hsame : isSeparator c = Text.isBlank c := by simp [isSeparator, hcomma]
      rw [if_neg hcomma, hsame]

theorem words_eq (text : String) :
    words text = ((text.toList.splitOnP isSeparator).filter (!·.isEmpty)).map String.ofList := by
  unfold words Text.words Text.replaceChar
  rw [String.toList_ofList, splitOnP_replaced]

/-- At a comma the words fall apart into those before it and those behind it. -/
theorem words_append_comma (s t : String) : words (s ++ "," ++ t) = words s ++ words t := by
  have hcs : (s ++ "," ++ t).toList = s.toList ++ ',' :: t.toList := by simp
  rw [words_eq, words_eq, words_eq, hcs, List.splitOnP_append_cons _ _ (by decide),
    List.filter_append, List.map_append]

/-- A blank in front of a text belongs to no word. -/
theorem words_blank_append (t : String) : words (" " ++ t) = words t := by
  have hcs : (" " ++ t).toList = ' ' :: t.toList := by simp
  have hblank : isSeparator ' ' = true := by decide
  rw [words_eq, words_eq, hcs, List.splitOnP_cons_eq_if_modifyHead, if_pos hblank,
    List.filter_cons_of_neg (by simp)]

theorem words_of_isPlainText {s : String} (hs : IsPlainText s) (hne : s ≠ "") : words s = [s] := by
  have hcs : s.toList ≠ [] := fun h => hne (String.toList_eq_nil_iff.mp h)
  rw [words_eq, List.splitOnP_eq_singleton hs]
  simp [hcs]

theorem words_intercalate (parts : List String) :
    words (String.intercalate "," parts) = parts.flatMap words := by
  induction parts with
  | nil => rfl
  | cons s parts ih =>
    cases parts with
    | nil => simp
    | cons t parts =>
      have hjoin : String.intercalate "," (s :: t :: parts) =
          s ++ "," ++ String.intercalate "," (t :: parts) := String.intercalate_cons_cons
      rw [hjoin, words_append_comma, ih]
      rfl

theorem forall_splitOnP (cs : List Char) :
    ∀ piece ∈ cs.splitOnP isSeparator, ∀ c ∈ piece, isSeparator c = false := by
  induction cs with
  | nil => simp
  | cons a cs ih =>
    rw [List.splitOnP_cons_eq_if_modifyHead]
    cases hsplit : cs.splitOnP isSeparator with
    | nil => exact absurd hsplit (List.splitOnP_ne_nil isSeparator cs)
    | cons first rest =>
      rw [hsplit] at ih
      obtain ⟨hfirst, hrest⟩ := List.forall_mem_cons.mp ih
      by_cases ha : isSeparator a = true
      · simpa [ha] using ⟨hfirst, hrest⟩
      · simpa [ha] using ⟨hfirst, hrest⟩

/-- A word is not empty and has no separators. -/
theorem isPlainText_of_mem_words {word text : String} (h : word ∈ words text) :
    IsPlainText word ∧ word ≠ "" := by
  rw [words_eq] at h
  obtain ⟨piece, hpiece, rfl⟩ := List.mem_map.mp h
  obtain ⟨hpiece, hne⟩ := List.mem_filter.mp hpiece
  constructor
  · intro c hc
    rw [String.toList_ofList] at hc
    exact forall_splitOnP _ piece hpiece c hc
  · intro hempty
    have hnil : piece = [] := by simpa using congrArg String.toList hempty
    simp [hnil] at hne

end TelemetryWiring.Tags
