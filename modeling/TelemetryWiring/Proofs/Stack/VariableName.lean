import TelemetryWiring.Proofs.Text.Affix
import TelemetryWiring.Stack.Override

/-!
The names of the variables that are meant to replace values: the keys of a path in upper case with
double underscores between them. Such a name is read as the path with its keys in lower case.
-/
namespace TelemetryWiring

namespace Text

/-- A text with every letter a to z in upper case; other characters stay. -/
def upperCase (s : String) : String := .ofList (s.toList.map Char.toUpper)

section Intercalate

variable {α β : Type}

theorem forall_mem_intercalate {p : α → Prop} {separator : List α} {parts : List (List α)}
    (hseparator : ∀ a ∈ separator, p a) (h : ∀ part ∈ parts, ∀ a ∈ part, p a) :
    ∀ a ∈ separator.intercalate parts, p a := by
  induction parts with
  | nil => simp [List.intercalate_nil]
  | cons part parts ih =>
    obtain ⟨hpart, hparts⟩ := List.forall_mem_cons.mp h
    cases parts with
    | nil => simpa [List.intercalate_singleton] using hpart
    | cons next parts =>
      rw [List.intercalate_cons_cons]
      exact List.forall_mem_append.mpr
        ⟨List.forall_mem_append.mpr ⟨hpart, hseparator⟩, ih hparts⟩

theorem map_intercalate (f : α → β) (separator : List α) (parts : List (List α)) :
    (separator.intercalate parts).map f =
      (separator.map f).intercalate (parts.map fun part => part.map f) := by
  induction parts with
  | nil => rfl
  | cons part parts ih =>
    cases parts with
    | nil => simp [List.intercalate_singleton]
    | cons next parts =>
      rw [List.intercalate_cons_cons, List.map_append, ih]
      simp [List.intercalate_cons_cons]

end Intercalate

/-! Letters in upper and in lower case. -/

theorem toNat_lt_of_isAlpha {c : Char} (h : c.isAlpha = true) : c.toNat < 128 := by
  have hletter : c.isUpper = true ∨ c.isLower = true := (Bool.or_eq_true _ _).mp h
  rcases hletter with h | h
  · have hupper : c.val ≤ 'Z'.val := (of_decide_eq_true h).2
    exact Nat.lt_of_le_of_lt (UInt32.le_iff_toNat_le.mp hupper) (by decide)
  · have hlower : c.val ≤ 'z'.val := of_decide_eq_true ((Bool.and_eq_true _ _).mp h).2
    exact Nat.lt_of_le_of_lt (UInt32.le_iff_toNat_le.mp hlower) (by decide)

/-- What holds of the letters among the first characters holds of every letter. -/
theorem forall_isAlpha {p : Char → Prop}
    (h : ∀ n < 128, (Char.ofNat n).isAlpha = true → p (Char.ofNat n)) {c : Char}
    (hc : c.isAlpha = true) : p c := by
  have hself := h c.toNat (toNat_lt_of_isAlpha hc)
  rw [Char.ofNat_toNat] at hself
  exact hself hc

theorem toLower_toUpper {c : Char} (h : c.isAlpha = true) : c.toUpper.toLower = c.toLower :=
  forall_isAlpha (p := fun c => c.toUpper.toLower = c.toLower) (by decide) h

theorem isAlpha_toUpper {c : Char} (h : c.isAlpha = true) : c.toUpper.isAlpha = true :=
  forall_isAlpha (p := fun c => c.toUpper.isAlpha = true) (by decide) h

theorem isAlpha_toLower {c : Char} (h : c.isAlpha = true) : c.toLower.isAlpha = true :=
  forall_isAlpha (p := fun c => c.toLower.isAlpha = true) (by decide) h

theorem isBlank_of_isAlpha {c : Char} (h : c.isAlpha = true) : isBlank c = false :=
  forall_isAlpha (p := fun c => isBlank c = false) (by decide) h

end Text

namespace Override

/-- Whether a key is a word of letters. -/
def isWordKey (key : String) : Bool := key ≠ "" && key.toList.all Char.isAlpha

theorem isWordKey_iff {key : String} :
    isWordKey key = true ↔ key ≠ "" ∧ ∀ c ∈ key.toList, c.isAlpha = true := by
  simp [isWordKey]

/-- The name of the variable that is meant for a path. -/
def variableName (path : List String) : String :=
  "DD_CDK_" ++ "__".intercalate (path.map Text.upperCase)

/-- The letters of the keys of a path in lower case. -/
def lowerWords (path : List String) : List (List Char) :=
  path.map fun key => key.toList.map Char.toLower

theorem toList_variableName (path : List String) :
    (variableName path).toList = "DD_CDK_".toList ++
      ['_', '_'].intercalate (path.map fun key => key.toList.map Char.toUpper) := by
  rw [variableName, String.toList_append, String.toList_intercalate, List.map_map]
  congr 3
  funext key
  exact String.toList_ofList

/-- Double underscores become points; there are no others among letters. -/
theorem withPoints_intercalate {words : List (List Char)} (h : ∀ word ∈ words, '_' ∉ word) :
    withPoints (['_', '_'].intercalate words) = ['.'].intercalate words := by
  have happend {word : List Char} (hword : '_' ∉ word) (rest : List Char) :
      withPoints (word ++ rest) = word ++ withPoints rest := by
    induction word with
    | nil => rfl
    | cons c word ih =>
      rw [List.mem_cons, not_or] at hword
      obtain ⟨hc, hword⟩ := hword
      rw [List.cons_append, withPoints, ih hword]
      · rfl
      · intro rest heq
        exact absurd heq (Ne.symm hc)
  induction words with
  | nil => rfl
  | cons word words ih =>
    obtain ⟨hword, hwords⟩ := List.forall_mem_cons.mp h
    cases words with
    | nil =>
      have hself := happend hword []
      rw [List.append_nil] at hself
      rw [List.intercalate_singleton, List.intercalate_singleton, hself]
      exact List.append_nil word
    | cons next words =>
      rw [List.intercalate_cons_cons, List.intercalate_cons_cons, List.append_assoc,
        happend hword, ← ih hwords, List.append_assoc]
      rfl

section Path

variable {path : List String} (h : ∀ key ∈ path, isWordKey key = true)

include h

theorem isAlpha_of_mem_lowerWords : ∀ word ∈ lowerWords path, ∀ c ∈ word, c.isAlpha = true := by
  refine List.forall_mem_map.mpr fun key hkey => List.forall_mem_map.mpr fun c hc => ?_
  exact Text.isAlpha_toLower ((isWordKey_iff.mp (h key hkey)).2 c hc)

theorem trim_variableName : Text.trim (variableName path) = variableName path := by
  have hblank : ∀ c ∈ (variableName path).toList, Text.isBlank c = false := by
    rw [toList_variableName]
    refine List.forall_mem_append.mpr ⟨by simp [Text.isBlank], ?_⟩
    refine Text.forall_mem_intercalate (by simp [Text.isBlank]) ?_
    refine List.forall_mem_map.mpr fun key hkey => List.forall_mem_map.mpr fun c hc => ?_
    exact Text.isBlank_of_isAlpha
      (Text.isAlpha_toUpper ((isWordKey_iff.mp (h key hkey)).2 c hc))
  rw [Text.trim, Text.trimWhere_eq_self hblank, String.ofList_toList]

theorem toList_lowerCase_variableName :
    (Text.lowerCase (variableName path)).toList =
      nameStart ++ ['_', '_'].intercalate (lowerWords path) := by
  have hwords : (path.map fun key => key.toList.map Char.toUpper).map (·.map Char.toLower) =
      lowerWords path := by
    rw [List.map_map]
    refine List.map_congr_left fun key hkey => ?_
    rw [Function.comp_apply, List.map_map]
    refine List.map_congr_left fun c hc => ?_
    exact Text.toLower_toUpper ((isWordKey_iff.mp (h key hkey)).2 c hc)
  rw [Text.lowerCase, String.toList_ofList, toList_variableName, List.map_append,
    Text.map_intercalate, hwords]
  rfl

theorem withPoints_lowerWords :
    withPoints (['_', '_'].intercalate (lowerWords path)) = ['.'].intercalate (lowerWords path) :=
  withPoints_intercalate fun word hword hmem =>
    absurd (isAlpha_of_mem_lowerWords h word hword '_' hmem) (by decide)

/-- A name that is meant for something else has a single underscore. -/
theorem not_mem_otherNames :
    String.ofList (['_', '_'].intercalate (lowerWords path)) ∉ otherNames := by
  intro hmem
  have hunderscore : ∀ name ∈ otherNames, '_' ∈ withPoints name.toList := by decide
  have hnone : ∀ c ∈ ['.'].intercalate (lowerWords path), c ≠ '_' := by
    refine Text.forall_mem_intercalate (by simp) ?_
    rintro word hword c hc rfl
    exact absurd (isAlpha_of_mem_lowerWords h word hword '_' hc) (by decide)
  have hsome := hunderscore _ hmem
  rw [String.toList_ofList, withPoints_lowerWords h] at hsome
  exact hnone '_' hsome rfl

theorem trimWhere_lowerWords :
    Text.trimWhere Text.isBlank (['.'].intercalate (lowerWords path)) =
      ['.'].intercalate (lowerWords path) := by
  refine Text.trimWhere_eq_self (Text.forall_mem_intercalate (by simp [Text.isBlank]) ?_)
  intro word hword c hc
  exact Text.isBlank_of_isAlpha (isAlpha_of_mem_lowerWords h word hword c hc)

theorem splitOn_lowerWords (hne : path ≠ []) :
    (['.'].intercalate (lowerWords path)).splitOn '.' = lowerWords path := by
  refine List.splitOn_intercalate '.' (fun word hword hmem => ?_) (by simpa [lowerWords] using hne)
  exact absurd (isAlpha_of_mem_lowerWords h word hword '.' hmem) (by decide)

/-- The name of a variable is read as the keys of its path in lower case. -/
theorem path?_variableName (hne : path ≠ []) :
    path? (variableName path) = some (path.map Text.lowerCase) := by
  have hempty : (lowerWords path).any (·.isEmpty) = false := by
    simpa [lowerWords] using fun key hkey => (isWordKey_iff.mp (h key hkey)).1
  have hother : otherNames.contains
      (.ofList (['_', '_'].intercalate (lowerWords path))) = false := by
    simpa using not_mem_otherNames h
  have hstart := Text.dropStart?_eq_some_iff.mpr (toList_lowerCase_variableName h)
  rw [path?, trim_variableName h, hstart]
  simp only [Option.bind_eq_bind, Option.bind_some, withPoints_lowerWords h,
    trimWhere_lowerWords h, splitOn_lowerWords h hne, hother, hempty,
    Bool.false_eq_true, if_false]
  rw [lowerWords, List.map_map]
  rfl

end Path

end Override
end TelemetryWiring
