import Mathlib.Data.List.Forall2

/-!
Computations that may be refused, taken apart: a sequence of steps answers only if each of them
does, and a list is processed only if each element is. Where every step is refused less often, so is
the sequence.
-/
namespace TelemetryWiring

variable {ε α β : Type}

theorem bind_eq_ok_iff {x : Except ε α} {f : α → Except ε β} {b : β} :
    x >>= f = .ok b ↔ ∃ a, x = .ok a ∧ f a = .ok b := by
  cases x with
  | error e =>
    constructor
    · intro h
      cases h
    · rintro ⟨a, h, -⟩
      cases h
  | ok a =>
    constructor
    · intro h
      exact ⟨a, rfl, h⟩
    · rintro ⟨a', h, hf⟩
      cases h
      exact hf

theorem bind_eq_error_iff {x : Except ε α} {f : α → Except ε β} {e : ε} :
    x >>= f = .error e ↔ x = .error e ∨ ∃ a, x = .ok a ∧ f a = .error e := by
  cases x with
  | error e' =>
    constructor
    · intro h
      cases h
      exact .inl rfl
    · rintro (h | ⟨a, h, -⟩)
      · cases h
        rfl
      · cases h
  | ok a =>
    constructor
    · intro h
      exact .inr ⟨a, rfl, h⟩
    · rintro (h | ⟨a', h, hf⟩)
      · cases h
      · cases h
        exact hf

theorem forM_eq_ok_iff {l : List α} {check : α → Except ε Unit} :
    l.forM check = .ok () ↔ ∀ a ∈ l, check a = .ok () := by
  induction l with
  | nil => simp [pure, Except.pure]
  | cons a l ih =>
    change (check a >>= fun _ => l.forM check) = .ok () ↔ _
    rw [bind_eq_ok_iff]
    constructor
    · rintro ⟨_, ha, hl⟩ b hb
      rcases List.mem_cons.mp hb with rfl | hb
      · exact ha
      · exact ih.mp hl b hb
    · intro h
      exact ⟨(), h a (by simp), ih.mpr fun b hb => h b (by simp [hb])⟩

theorem exists_forM_eq_error_iff {l : List α} {check : α → Except ε Unit} :
    (∃ e, l.forM check = .error e) ↔ ∃ a ∈ l, ∃ e, check a = .error e := by
  induction l with
  | nil => simp [pure, Except.pure]
  | cons a l ih =>
    change (∃ e, check a >>= (fun _ => l.forM check) = .error e) ↔ _
    rw [List.exists_mem_cons_iff, ← ih]
    cases ha : check a with
    | error e => simp [bind, Except.bind]
    | ok _ => simp [bind, Except.bind]

/-- A list is processed element by element, in its order. -/
theorem mapM_eq_ok_iff {l : List α} {f : α → Except ε β} {bs : List β} :
    l.mapM f = .ok bs ↔ List.Forall₂ (fun a b => f a = .ok b) l bs := by
  induction l generalizing bs with
  | nil =>
    rw [List.mapM_nil, List.forall₂_nil_left_iff]
    constructor
    · intro h
      cases h
      rfl
    · rintro rfl
      rfl
  | cons a l ih =>
    rw [List.mapM_cons, List.forall₂_cons_left_iff, bind_eq_ok_iff]
    constructor
    · rintro ⟨b, hb, h⟩
      obtain ⟨rest, hrest, h⟩ := bind_eq_ok_iff.mp h
      cases h
      exact ⟨b, rest, hb, ih.mp hrest, rfl⟩
    · rintro ⟨b, rest, hb, hrest, rfl⟩
      exact ⟨b, hb, bind_eq_ok_iff.mpr ⟨rest, ih.mpr hrest, rfl⟩⟩

/-- A computation that answers whatever another one answers, and perhaps where that is refused. -/
def Relaxes (y x : Except ε α) : Prop := ∀ a, x = .ok a → y = .ok a

theorem Relaxes.refl (x : Except ε α) : Relaxes x x := fun _ h => h

theorem Relaxes.bind {x y : Except ε α} {f g : α → Except ε β} (h : Relaxes y x)
    (hf : ∀ a, Relaxes (g a) (f a)) : Relaxes (y >>= g) (x >>= f) := by
  intro b hb
  obtain ⟨a, hx, hfa⟩ := bind_eq_ok_iff.mp hb
  exact bind_eq_ok_iff.mpr ⟨a, h a hx, hf a b hfa⟩

end TelemetryWiring
