import Mathlib.Data.List.Induction
import Mathlib.Data.List.Nodup
import Mathlib.Data.List.Perm.Subperm

/-!
Lists to which an element is added at the end unless it is there already. Mounts, dependencies,
volumes and grants all grow this way, so adding again what was added changes nothing.
-/
namespace TelemetryWiring

variable {α : Type} [BEq α] [LawfulBEq α]

/-- A list with an element at its end, unless the list holds it already. -/
def addOnce (l : List α) (a : α) : List α := if l.contains a then l else l ++ [a]

@[simp] theorem mem_addOnce {l : List α} {a b : α} : b ∈ addOnce l a ↔ b ∈ l ∨ b = a := by
  unfold addOnce
  split
  · rename_i h
    have ha : a ∈ l := List.contains_iff_mem.mp h
    constructor
    · exact Or.inl
    · rintro (hb | rfl)
      · exact hb
      · exact ha
  · simp

theorem addOnce_of_mem {l : List α} {a : α} (h : a ∈ l) : addOnce l a = l := by
  unfold addOnce
  rw [if_pos (List.contains_iff_mem.mpr h)]

theorem addOnce_of_not_mem {l : List α} {a : α} (h : a ∉ l) : addOnce l a = l ++ [a] := by
  unfold addOnce
  rw [if_neg (fun hc => h (List.contains_iff_mem.mp hc))]

@[simp] theorem mem_foldl_addOnce {l m : List α} {b : α} :
    b ∈ m.foldl addOnce l ↔ b ∈ l ∨ b ∈ m := by
  induction m generalizing l with
  | nil => simp
  | cons a m ih => rw [List.foldl_cons, ih, mem_addOnce, List.mem_cons, or_assoc]

theorem foldl_addOnce_of_subset {l m : List α} (h : ∀ a ∈ m, a ∈ l) : m.foldl addOnce l = l := by
  induction m with
  | nil => rfl
  | cons a m ih =>
    rw [List.foldl_cons, addOnce_of_mem (h a (by simp))]
    exact ih fun b hb => h b (by simp [hb])

/-- Adding the elements of a list without repetitions appends those that are not there yet. -/
theorem foldl_addOnce_of_nodup {l m : List α} (hm : m.Nodup) :
    m.foldl addOnce l = l ++ m.filter (!l.contains ·) := by
  induction m generalizing l with
  | nil => simp
  | cons a m ih =>
    obtain ⟨ha, hm⟩ := List.nodup_cons.mp hm
    rw [List.foldl_cons, ih hm]
    by_cases hmem : a ∈ l
    · rw [addOnce_of_mem hmem, List.filter_cons_of_neg (by simp [hmem])]
    · have hsame : m.filter (!(l ++ [a]).contains ·) = m.filter (!l.contains ·) := by
        apply List.filter_congr
        intro b hb
        have hne : b ≠ a := fun h => ha (h ▸ hb)
        simp [hne]
      rw [addOnce_of_not_mem hmem, hsame, List.filter_cons_of_pos (by simp [hmem])]
      simp

theorem foldl_addOnce_of_disjoint {l m : List α} (hm : m.Nodup) (h : ∀ a ∈ m, a ∉ l) :
    m.foldl addOnce l = l ++ m := by
  have hall : m.filter (!l.contains ·) = m := by
    apply List.filter_eq_self.mpr
    intro a ha
    simp [h a ha]
  rw [foldl_addOnce_of_nodup hm, hall]

/-- An element added to what is added might as well be added last. -/
theorem foldl_addOnce_addOnce (l m : List α) (a : α) :
    (addOnce m a).foldl addOnce l = addOnce (m.foldl addOnce l) a := by
  by_cases h : a ∈ m
  · rw [addOnce_of_mem h, addOnce_of_mem (mem_foldl_addOnce.mpr (.inr h))]
  · rw [addOnce_of_not_mem h, List.foldl_concat]

theorem nodup_foldl_addOnce {l m : List α} (hl : l.Nodup) : (m.foldl addOnce l).Nodup := by
  induction m generalizing l with
  | nil => exact hl
  | cons a m ih =>
    apply ih
    by_cases ha : a ∈ l
    · rwa [addOnce_of_mem ha]
    · rw [addOnce_of_not_mem ha]
      exact List.concat_eq_append ▸ hl.concat ha

/-- Added to nothing, the elements of a list stand in the order of their first occurrences. -/
theorem foldl_addOnce_nil (m : List α) : m.foldl addOnce [] = m.eraseDups := by
  induction m using List.reverseRecOn with
  | nil => rfl
  | append_singleton m a ih =>
    rw [List.foldl_concat, ih, List.eraseDups_append]
    by_cases ha : a ∈ m
    · rw [addOnce_of_mem (List.mem_eraseDups.mpr ha)]
      simp [List.removeAll, ha]
    · rw [addOnce_of_not_mem fun hmem => ha (List.mem_eraseDups.mp hmem)]
      simp [List.removeAll, ha, List.eraseDups_cons]

theorem eraseDups_concat (m : List α) (a : α) :
    (m ++ [a]).eraseDups = addOnce m.eraseDups a := by
  rw [← foldl_addOnce_nil, List.foldl_concat, foldl_addOnce_nil]

/-- A list that loses nothing by the removal of repetitions has none. -/
theorem nodup_of_length_eraseDups {l : List α} (h : l.eraseDups.length = l.length) : l.Nodup := by
  have hdistinct : l.eraseDups.Nodup := foldl_addOnce_nil l ▸ nodup_foldl_addOnce List.nodup_nil
  have hsubset : l.eraseDups ⊆ l := fun _ ha => List.mem_eraseDups.mp ha
  have hperm := (hdistinct.subperm hsubset).perm_of_length_le (Nat.le_of_eq h.symm)
  exact hperm.nodup_iff.mp hdistinct

end TelemetryWiring
