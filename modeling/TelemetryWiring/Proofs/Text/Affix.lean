import Mathlib.Data.List.DropRight
import Mathlib.Data.List.Infix
import TelemetryWiring.Text.Affix
import TelemetryWiring.Text.Blank

/-!
Beginnings that are dropped, ends that are trimmed, and cutting at a separator: the cut finds the
first place where the separator stands, and there is none exactly if it does not occur. A text put
together around a separator is cut there again if the separator cannot overlap with itself.
-/
namespace TelemetryWiring.Text

theorem dropStart?_eq_some_iff {α : Type} [BEq α] [LawfulBEq α] {start cs rest : List α} :
    dropStart? start cs = some rest ↔ cs = start ++ rest := by
  unfold dropStart?
  constructor
  · intro h
    split at h
    · rename_i hstart
      obtain ⟨after, rfl⟩ := List.isPrefixOf_iff_prefix.mp hstart
      rw [← Option.some.inj h, List.drop_left]
    · cases h
  · rintro rfl
    simp

theorem trimWhere_eq_self {α : Type} {p : α → Bool} {cs : List α} (h : ∀ c ∈ cs, p c = false) :
    trimWhere p cs = cs := by
  have hkeep {l : List α} (hl : ∀ c ∈ l, p c = false) : l.dropWhile p = l := by
    cases l with
    | nil => rfl
    | cons c l => rw [List.dropWhile_cons_of_neg (by simp [hl c])]
  rw [trimWhere, hkeep h, hkeep (by simpa using h), List.reverse_reverse]

/-- Trimming leaves a list alone exactly if neither of its ends is to go. -/
theorem trimWhere_eq_self_iff {α : Type} {p : α → Bool} {cs : List α} :
    trimWhere p cs = cs ↔ (∀ c ∈ cs.head?, p c = false) ∧ ∀ c ∈ cs.getLast?, p c = false := by
  have htrim : trimWhere p cs = (cs.dropWhile p).rdropWhile p := rfl
  have hfront : cs.dropWhile p = cs ↔ ∀ c ∈ cs.head?, p c = false := by
    cases cs with
    | nil => simp
    | cons c cs => simp [List.dropWhile_eq_self_iff]
  have hback : cs.rdropWhile p = cs ↔ ∀ c ∈ cs.getLast?, p c = false := by
    rcases cs.eq_nil_or_concat with rfl | ⟨cs, c, rfl⟩
    · simp
    · simp [List.rdropWhile_eq_self_iff]
  rw [htrim, ← hfront, ← hback]
  constructor
  · intro h
    have hlong : cs.length ≤ (cs.dropWhile p).length := by
      calc cs.length = ((cs.dropWhile p).rdropWhile p).length := by rw [h]
        _ ≤ (cs.dropWhile p).length := (List.rdropWhile_prefix p _).length_le
    have hkept : cs.dropWhile p = cs := (List.dropWhile_suffix p).eq_of_length_le hlong
    rw [hkept] at h
    exact ⟨hkept, h⟩
  · rintro ⟨hfront, hback⟩
    rw [hfront, hback]

/-- Whether a text begins or ends with a blank. -/
def HasBlankEnd (s : String) : Prop :=
  s.toList.head?.any isBlank = true ∨ s.toList.getLast?.any isBlank = true

instance (s : String) : Decidable (HasBlankEnd s) := inferInstanceAs (Decidable (_ ∨ _))

theorem trim_eq_self_iff {s : String} : trim s = s ↔ ¬HasBlankEnd s := by
  have hlists : trim s = s ↔ trimWhere isBlank s.toList = s.toList := by
    rw [← String.toList_inj, trim, String.toList_ofList]
  rw [hlists, trimWhere_eq_self_iff, HasBlankEnd]
  simp only [not_or, Bool.not_eq_true, Option.any_eq_false, Option.mem_def]

section

variable {α : Type} {separator : List α}

/-- A separator of which no proper ending is a beginning, so that its occurrences never overlap. -/
def IsUnbordered (separator : List α) : Prop :=
  ∀ l, l ≠ [] → l <:+ separator → l <+: separator → l = separator

theorem isUnbordered_singleton (a : α) : IsUnbordered [a] := by
  intro l hne hsuffix _
  rcases List.suffix_cons_iff.mp hsuffix with h | h
  · exact h
  · exact absurd (List.suffix_nil.mp h) hne

/-- Before the separator, a text without it has no place where an occurrence could begin. -/
theorem IsUnbordered.not_prefix (h : IsUnbordered separator) {l : List α} (hl : l ≠ [])
    (hfree : ¬separator <:+: l) (rest : List α) : ¬separator <+: l ++ (separator ++ rest) := by
  intro hprefix
  rcases List.prefix_or_prefix_of_prefix hprefix (List.prefix_append l _) with hshort | hlong
  · exact hfree hshort.isInfix
  · -- the occurrence would end inside the separator, so the separator would overlap with itself
    obtain ⟨overlap, rfl⟩ := hlong
    rw [List.prefix_append_right_inj] at hprefix
    have hbegins : overlap <+: l ++ overlap :=
      List.prefix_of_prefix_length_le hprefix (List.prefix_append _ _) (by simp)
    by_cases hempty : overlap = []
    · exact hfree (by simp [hempty])
    · have hwhole := h overlap hempty (List.suffix_append l overlap) hbegins
      exact hl (by simpa using hwhole)

variable [BEq α] [LawfulBEq α]

/-- A cut is made at the first place where the separator stands, if there is one. -/
theorem cut?_cases (hne : separator ≠ []) (cs : List α) :
    (cut? separator cs = none ∧ ¬separator <:+: cs) ∨
      ∃ before after, cut? separator cs = some (before, after) ∧
        cs = before ++ separator ++ after ∧ ¬separator <:+: before := by
  have hnil : ¬separator <:+: [] := fun h => hne (List.infix_nil.mp h)
  induction cs with
  | nil => exact .inl ⟨by simp [cut?, hne], hnil⟩
  | cons c cs ih =>
    rw [cut?]
    cases hstart : dropStart? separator (c :: cs) with
    | some after => exact .inr ⟨[], after, rfl, dropStart?_eq_some_iff.mp hstart, hnil⟩
    | none =>
      have hnot : ¬separator <+: c :: cs := by
        rintro ⟨after, hafter⟩
        rw [dropStart?_eq_some_iff.mpr hafter.symm] at hstart
        cases hstart
      rcases ih with ⟨hcut, hfree⟩ | ⟨before, after, hcut, rfl, hfree⟩
      · refine .inl ⟨by rw [hcut]; rfl, ?_⟩
        rw [List.infix_cons_iff]
        exact not_or.mpr ⟨hnot, hfree⟩
      · refine .inr ⟨c :: before, after, by rw [hcut]; rfl, rfl, ?_⟩
        rw [List.infix_cons_iff, not_or]
        refine ⟨fun hprefix => hnot ?_, hfree⟩
        exact hprefix.trans (by simp [List.append_assoc])

theorem cut?_append_append (hne : separator ≠ []) (h : IsUnbordered separator) {before : List α}
    (hfree : ¬separator <:+: before) (after : List α) :
    cut? separator (before ++ (separator ++ after)) = some (before, after) := by
  induction before with
  | nil =>
    obtain ⟨c, cs, rfl⟩ := List.exists_cons_of_ne_nil hne
    rw [List.nil_append, List.cons_append, cut?, ← List.cons_append,
      dropStart?_eq_some_iff.mpr rfl]
  | cons c before ih =>
    have hnone : dropStart? separator (c :: before ++ (separator ++ after)) = none := by
      by_contra hsome
      obtain ⟨rest, hrest⟩ := Option.ne_none_iff_exists'.mp hsome
      have hprefix : separator <+: c :: before ++ (separator ++ after) :=
        ⟨rest, (dropStart?_eq_some_iff.mp hrest).symm⟩
      exact h.not_prefix (List.cons_ne_nil c before) hfree after hprefix
    have hrest : ¬separator <:+: before := fun hinfix =>
      hfree (List.infix_cons_iff.mpr (.inr hinfix))
    rw [List.cons_append, cut?, ← List.cons_append, hnone]
    dsimp only
    rw [ih hrest]
    rfl

end

theorem cut?_append {separator : Char} {before : List Char} (h : separator ∉ before)
    (after : List Char) :
    cut? [separator] (before ++ separator :: after) = some (before, after) := by
  have hfree : ¬[separator] <:+: before := by rwa [List.singleton_infix_iff]
  exact cut?_append_append (List.cons_ne_nil _ _) (isUnbordered_singleton separator) hfree after

theorem cut?_eq_none {separator : Char} {cs : List Char} (h : separator ∉ cs) :
    cut? [separator] cs = none := by
  rcases cut?_cases (List.cons_ne_nil separator []) cs with ⟨hcut, -⟩ | ⟨before, after, -, rfl, -⟩
  · exact hcut
  · exact absurd (by simp) h

/-- A text is its cut put together again, and the part before has no separator. -/
theorem of_cut?_eq_some {separator : Char} {cs before after : List Char}
    (h : cut? [separator] cs = some (before, after)) :
    cs = before ++ separator :: after ∧ separator ∉ before := by
  rcases cut?_cases (List.cons_ne_nil separator []) cs with ⟨hcut, -⟩ | ⟨_, _, hcut, rfl, hfree⟩
  · cases hcut.symm.trans h
  · cases hcut.symm.trans h
    rw [List.singleton_infix_iff] at hfree
    exact ⟨by simp, hfree⟩

/-- What follows the last place of an element is the longest ending without it. -/
theorem afterLast?_eq (separator : Char) (cs : List Char) :
    afterLast? separator cs =
      if separator ∈ cs then some (cs.rtakeWhile (· ≠ separator)) else none := by
  have hother : (fun c => c != separator) = fun c => decide (c ≠ separator) := by
    funext c
    rw [Bool.eq_iff_iff]
    simp
  unfold afterLast? List.rtakeWhile
  simp only [hother, List.contains_iff_mem]

theorem rtakeWhile_append_cons {separator : Char} {after : List Char} (h : separator ∉ after)
    (before : List Char) :
    (before ++ separator :: after).rtakeWhile (· ≠ separator) = after := by
  have hkept : ∀ c ∈ after.reverse, decide (c ≠ separator) = true := by
    intro c hc
    exact decide_eq_true fun he => h (he ▸ List.mem_reverse.mp hc)
  rw [List.rtakeWhile, List.reverse_append, List.reverse_cons, List.append_assoc,
    List.takeWhile_append_of_pos hkept]
  simp

end TelemetryWiring.Text
