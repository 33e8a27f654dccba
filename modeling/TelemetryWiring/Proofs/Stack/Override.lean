import Mathlib.Data.List.TakeWhile
import TelemetryWiring.Proofs.Dict
import TelemetryWiring.Proofs.Text.Affix
import TelemetryWiring.Stack.Override

/-!
What one variable of the environment does to a description: where in it a value is put, and what its
text stands for.
-/
namespace TelemetryWiring.Override

/-! A value over an object, at the end of a path into it. -/

/-- Whether a value is one of those that a bare word stands for. -/
def isWord : Json → Bool
  | .bool _ | .num _ | .str _ => true
  | _ => false

theorem overlay_of_isWord (base : Json) {leaf : Json} (h : isWord leaf = true) :
    overlay base leaf = leaf := by
  cases leaf with
  | obj fields => cases h
  | _ => rfl

/-- The fields of an object after a value was put at the end of a path into it, given by its first
key and the others. -/
def writeAt (d : Dict Json) (key : String) (path : List String) (leaf : Json) : Dict Json :=
  d.insert key <| match d.get? key with
    | some old => overlay old (.nest path leaf)
    | none => .nest path leaf

theorem overlay_nest (d : Dict Json) (key : String) (path : List String) (leaf : Json) :
    overlay (.ofDict d) (.nest (key :: path) leaf) = .ofDict (writeAt d key path leaf) := by
  change Json.obj (overlayFields d.entries [(key, .nest path leaf)]) = _
  rw [overlayFields, overlayFields]
  rfl

/-- At the end of the path the value stands for itself. -/
theorem writeAt_nil (d : Dict Json) (key : String) {leaf : Json} (h : isWord leaf = true) :
    writeAt d key [] leaf = d.insert key leaf := by
  unfold writeAt
  cases d.get? key with
  | none => rfl
  | some old => exact congrArg (d.insert key) (overlay_of_isWord old h)

/-- Before the end, what is put changes the object under the first key. -/
theorem writeAt_cons {d e : Dict Json} {key : String} (h : d.get? key = some (.ofDict e))
    (next : String) (path : List String) (leaf : Json) :
    writeAt d key (next :: path) leaf = d.insert key (.ofDict (writeAt e next path leaf)) := by
  unfold writeAt
  rw [h]
  exact congrArg (d.insert key) (overlay_nest e next path leaf)

/-! The environment with one variable that replaces a value. -/

section Skipping

variable {β : Type} {step : β → String × String → β} {entries : List (String × String)}
  (h : ∀ e ∈ entries, ∀ values, step values e = values)

include h

theorem foldl_of_skipped (values : β) : entries.foldl step values = values := by
  induction entries with
  | nil => rfl
  | cons e entries ih =>
    obtain ⟨hskip, hrest⟩ := List.forall_mem_cons.mp h
    rw [List.foldl_cons, hskip]
    exact ih hrest

/-- Where every other variable is skipped, the one that is put among them counts alone. -/
theorem foldl_place_of_skipped (name text : String) (values : β) :
    (Dict.place name text entries).foldl step values = step values (name, text) := by
  induction entries with
  | nil => rfl
  | cons e entries ih =>
    obtain ⟨hskip, hrest⟩ := List.forall_mem_cons.mp h
    rw [Dict.place]
    split
    · rw [List.foldl_cons, foldl_of_skipped h]
    · split
      · rw [List.foldl_cons, foldl_of_skipped hrest]
      · rw [List.foldl_cons, hskip]
        exact ih hrest

end Skipping

section Environment

variable {environment : Dict String} (h : ∀ name ∈ environment.keys, path? name = none)

include h

theorem path?_of_mem_entries {e : String × String} (he : e ∈ environment.entries) :
    path? e.1 = none := h _ (List.mem_map_of_mem he)

theorem given_of_none : given environment = .obj [] := by
  refine foldl_of_skipped (fun e he values => ?_) _
  simp only [path?_of_mem_entries h he]

theorem given_insert {name key : String} {path : List String}
    (hname : path? name = some (key :: path)) (text : String) :
    given (environment.insert name text) = .nest (key :: path) (ofText text) := by
  refine (foldl_place_of_skipped (fun e he values => ?_) name text _).trans ?_
  · simp only [path?_of_mem_entries h he]
  · simp only [hname]
    rfl

/-- A description stays as it is where no variable replaces a value. -/
theorem apply_of_none (d : Dict Json) : apply (.ofDict d) environment = .ofDict d := by
  rw [apply, given_of_none h]
  rfl

theorem apply_insert (d : Dict Json) {name key : String} {path : List String}
    (hname : path? name = some (key :: path)) (text : String) :
    apply (.ofDict d) (environment.insert name text) =
      .ofDict (writeAt d key path (ofText text)) := by
  rw [apply, given_insert h hname, overlay_nest]

end Environment

/-! What the text of a variable stands for, if it is one plain word. -/

/-- Whether a character is part of a word wherever it stands: it separates nothing and quotes
nothing. -/
def isPlain (c : Char) : Bool :=
  !isSeparator c && !Text.isBlank c && c ≠ '"' && c ≠ '\''

/-- Whether a word looks like a number: a fraction with a point, or a whole number of sixty-four
bits. -/
def looksNumeric (text : String) : Bool :=
  (text.toList.contains '.' && (Number.fraction? text.toList).isSome) ||
    (Number.wholeText? text.toList).isSome

/-- Whether a plain word stands for itself. -/
def readsAsText (text : String) : Bool :=
  text ≠ "true" && text ≠ "false" && !looksNumeric text

/-- Letters, digits, points and dashes are plain. -/
example : "azAZ09.-é".toList.all isPlain = true := by decide

theorem isPlain_iff {c : Char} :
    isPlain c = true ↔ isSeparator c = false ∧ Text.isBlank c = false ∧ c ≠ '"' ∧ c ≠ '\'' := by
  simp [isPlain, and_assoc]

theorem isBlank_of_isSpace {c : Char} (h : isSpace c = true) : Text.isBlank c = true := by
  simp only [isSpace, List.contains_iff_mem, List.mem_cons, List.not_mem_nil, or_false] at h
  rcases h with rfl | rfl | rfl | rfl | rfl <;> decide

/-- A word that begins with none of the characters of a number is a text. -/
theorem ofWord_of_letter {c : Char} (hdigit : c.isDigit = false) (hminus : c ≠ '-')
    (hplus : c ≠ '+') (hpoint : c ≠ '.') (rest : List Char) :
    ofWord (c :: rest) = .str (.ofList (c :: rest)) := by
  have hsign : Number.sign (c :: rest) = (false, c :: rest) := by
    unfold Number.sign
    split <;> simp_all
  have hspan : Number.spanDigits (c :: rest) = ([], c :: rest) := by
    simp [Number.spanDigits, hdigit]
  have hfraction : Number.fraction? (c :: rest) = none := by
    simp [Number.fraction?, hsign, hspan, hpoint]
  have hwhole : Number.wholeText? (c :: rest) = none := by
    simp [Number.wholeText?, hsign, hdigit]
  simp [ofWord, hfraction, hwhole]

section Plain

variable {cs : List Char} (h : ∀ c ∈ cs, isPlain c = true)

include h

theorem dropWhile_isSpace_of_plain : cs.dropWhile isSpace = cs := by
  rw [List.dropWhile_eq_self_iff]
  intro hne hspace
  obtain ⟨-, hblank, -⟩ := isPlain_iff.mp (h _ (List.getElem_mem hne))
  rw [isBlank_of_isSpace hspace] at hblank
  cases hblank

theorem trimWhere_of_plain : Text.trimWhere Text.isBlank cs = cs :=
  Text.trimWhere_eq_self fun c hc => (isPlain_iff.mp (h c hc)).2.1

/-- A plain word that does not begin as a truth value is read as a whole. -/
theorem item?_of_plain (fuel : Nat) (htrue : Text.dropStart? "true".toList cs = none)
    (hfalse : Text.dropStart? "false".toList cs = none) :
    item? (fuel + 1) cs = some (ofWord cs, []) := by
  have hseparator : ∀ c ∈ cs, (!isSeparator c) = true := fun c hc => by
    simp [(isPlain_iff.mp (h c hc)).1]
  have htake : (cs.takeWhile fun c => !isSeparator c) = cs :=
    List.takeWhile_eq_self_iff.mpr hseparator
  have hdrop : (cs.dropWhile fun c => !isSeparator c) = [] :=
    List.dropWhile_eq_nil_iff.mpr hseparator
  rw [item?, htrue, hfalse]
  · simp only [htake, hdrop, trimWhere_of_plain h]
  all_goals
    rintro rest rfl
    simp [isPlain, isSeparator] at h

end Plain

theorem value?_of_item? {fuel : Nat} {cs rest : List Char} {value : Json}
    (hcs : ∀ c ∈ cs, isPlain c = true) (hrest : ∀ c ∈ rest, isPlain c = true)
    (h : item? fuel cs = some (value, rest)) : value? (fuel + 1) cs = some (value, rest) := by
  rw [value?, dropWhile_isSpace_of_plain hcs, h]
  change some (value, rest.dropWhile isSpace) = _
  rw [dropWhile_isSpace_of_plain hrest]

/-- A text that begins as a value of its own and goes on behind it stands for itself. -/
theorem ofText_of_start {start text : String} {rest : List Char} {value : Json}
    (h : ∀ c ∈ text.toList, isPlain c = true) (htext : text.toList = start.toList ++ rest)
    (hitem : item? (2 * text.length + 1) text.toList = some (value, rest)) :
    ofText text = if text = start then value else .str text := by
  have hrest : ∀ c ∈ rest, isPlain c = true := fun c hc => h c (by simp [htext, hc])
  have hwhole : text = start ↔ rest = [] := by
    rw [← String.toList_inj, htext, List.append_right_eq_self]
  rw [ofText, value?_of_item? h hrest hitem]
  cases rest with
  | nil => rw [if_pos (hwhole.mpr rfl)]
  | cons c rest => rw [if_neg fun heq => List.cons_ne_nil c rest (hwhole.mp heq)]

/-- A plain word stands for a truth value if it names one, for a number if it looks like one, and
otherwise for itself. -/
theorem ofText_of_plain {text : String} (h : ∀ c ∈ text.toList, isPlain c = true) :
    ofText text =
      if text = "true" then .bool true
      else if text = "false" then .bool false
      else ofWord text.toList := by
  have hself : Json.str (.ofList text.toList) = .str text := by rw [String.ofList_toList]
  cases htrue : Text.dropStart? "true".toList text.toList with
  | some rest =>
    have htext := Text.dropStart?_eq_some_iff.mp htrue
    have hword : ofWord text.toList = .str text := by
      rw [← hself, htext]
      exact ofWord_of_letter (by decide) (by decide) (by decide) (by decide) _
    have hfalse : text ≠ "false" := by
      rintro rfl
      cases htext
    have hitem (fuel : Nat) : item? (fuel + 1) text.toList = some (.bool true, rest) := by
      simp only [item?, htrue]
    rw [ofText_of_start h htext (hitem _), if_neg hfalse, hword]
  | none =>
    have hne : text ≠ "true" := by
      rintro rfl
      cases htrue
    rw [if_neg hne]
    cases hfalse : Text.dropStart? "false".toList text.toList with
    | some rest =>
      have htext := Text.dropStart?_eq_some_iff.mp hfalse
      have hword : ofWord text.toList = .str text := by
        rw [← hself, htext]
        exact ofWord_of_letter (by decide) (by decide) (by decide) (by decide) _
      have hitem (fuel : Nat) : item? (fuel + 1) text.toList = some (.bool false, rest) := by
        simp only [item?, htrue, hfalse]
      rw [ofText_of_start h htext (hitem _), hword]
    | none =>
      have hne : text ≠ "false" := by
        rintro rfl
        cases hfalse
      rw [if_neg hne, ofText, value?_of_item? h (by simp) (item?_of_plain h _ htrue hfalse)]

theorem isWord_ofWord (cs : List Char) : isWord (ofWord cs) = true := by
  unfold ofWord
  split
  · rfl
  · split <;> rfl

/-- What a plain word stands for is no object and not null. -/
theorem isWord_ofText {text : String} (h : ∀ c ∈ text.toList, isPlain c = true) :
    isWord (ofText text) = true := by
  rw [ofText_of_plain h]
  split
  · rfl
  · split
    · rfl
    · exact isWord_ofWord _

theorem str?_ofWord (text : String) :
    (ofWord text.toList).str? = if looksNumeric text then none else some text := by
  unfold ofWord looksNumeric
  split
  · rename_i number hnumber
    split at hnumber
    · simp_all [Json.str?]
    · cases hnumber
  · split
    · simp_all [Json.str?]
    · simp_all [Json.str?]

/-- A plain word is given as a text exactly if it reads as one. -/
theorem str?_ofText {text : String} (h : ∀ c ∈ text.toList, isPlain c = true) :
    (ofText text).str? = if readsAsText text then some text else none := by
  rw [ofText_of_plain h, readsAsText]
  by_cases htrue : text = "true"
  · simp [htrue, Json.str?]
  · by_cases hfalse : text = "false"
    · simp [hfalse, Json.str?]
    · rw [if_neg htrue, if_neg hfalse, str?_ofWord]
      cases looksNumeric text <;> simp [htrue, hfalse]

end TelemetryWiring.Override
