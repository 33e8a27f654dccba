import TelemetryWiring.Lambda.Function
import TelemetryWiring.Proofs.AddOnce
import TelemetryWiring.Proofs.Dict

/-!
The writers of a function's definition: what each of them leaves behind, and when it finds its work
done already and leaves the function as it is.
-/
namespace TelemetryWiring

/-- Whether a finding reports a replaced environment variable. -/
def Diagnostic.isOverwrite : Diagnostic → Bool
  | .variableOverwritten .. => true
  | _ => false

namespace LambdaFunction

theorem get?_setVariable (f : LambdaFunction) (written value key : String) :
    (f.setVariable written value).environment.get? key =
      if written = key then some value else f.environment.get? key :=
  Dict.get?_insert ..

theorem assign_value (f : LambdaFunction) (writes : List (String × String)) :
    (f.assign writes).value = { f with environment := f.environment.insertMany writes } := by
  induction writes generalizing f with
  | nil => rfl
  | cons e writes ih => exact ih (f.setVariable e.1 e.2)

theorem assign_append (f : LambdaFunction) (writes others : List (String × String)) :
    (f.assign (writes ++ others)).diagnostics =
      (f.assign writes).diagnostics ++ ((f.assign writes).value.assign others).diagnostics := by
  induction writes generalizing f with
  | nil => rfl
  | cons e writes ih =>
    change f.overwriteNote e.1 e.2 ++
      ((f.setVariable e.1 e.2).assign (writes ++ others)).diagnostics = _
    rw [ih, ← List.append_assoc]
    rfl

/-- What writes have to report depends on the name and the environment alone. -/
theorem diagnostics_assign_congr {f g : LambdaFunction} (hname : g.name = f.name)
    (henv : g.environment = f.environment) (writes : List (String × String)) :
    (g.assign writes).diagnostics = (f.assign writes).diagnostics := by
  induction writes generalizing f g with
  | nil => rfl
  | cons e writes ih =>
    have hnote : g.overwriteNote e.1 e.2 = f.overwriteNote e.1 e.2 := by
      rw [overwriteNote, overwriteNote, hname, henv]
    have hrest : ((g.setVariable e.1 e.2).assign writes).diagnostics =
        ((f.setVariable e.1 e.2).assign writes).diagnostics := by
      apply ih
      · exact hname
      · rw [setVariable, setVariable, henv]
    change g.overwriteNote e.1 e.2 ++ ((g.setVariable e.1 e.2).assign writes).diagnostics =
      f.overwriteNote e.1 e.2 ++ ((f.setVariable e.1 e.2).assign writes).diagnostics
    rw [hnote, hrest]

theorem isOverwrite_of_mem_assign {f : LambdaFunction} {writes : List (String × String)}
    {d : Diagnostic} (h : d ∈ (f.assign writes).diagnostics) : d.isOverwrite = true := by
  induction writes generalizing f with
  | nil => cases h
  | cons e writes ih =>
    rcases List.mem_append.mp h with h | h
    · unfold overwriteNote at h
      split at h
      · split at h
        · cases h
        · rw [List.mem_singleton.mp h]
          rfl
      · cases h
    · exact ih h

/-- Writing variables that all have their values already is quiet and changes nothing. -/
theorem assign_of_present {f : LambdaFunction} {writes : List (String × String)}
    (h : ∀ e ∈ writes, f.environment.get? e.1 = some e.2) : f.assign writes = ⟨f, []⟩ := by
  induction writes with
  | nil => rfl
  | cons e writes ih =>
    have hvalue : f.environment.get? e.1 = some e.2 := h e List.mem_cons_self
    have hset : f.setVariable e.1 e.2 = f := by
      unfold setVariable
      rw [Dict.insert_of_get? hvalue]
    have hnote : f.overwriteNote e.1 e.2 = [] := by simp [overwriteNote, hvalue]
    have hrest := ih fun a ha => h a (List.mem_cons_of_mem _ ha)
    change Noted.mk ((f.setVariable e.1 e.2).assign writes).value
      (f.overwriteNote e.1 e.2 ++ ((f.setVariable e.1 e.2).assign writes).diagnostics) = ⟨f, []⟩
    rw [hset, hnote, hrest]
    rfl

theorem grantSecretRead_eq (f : LambdaFunction) (arn : String) :
    f.grantSecretRead arn = { f with secretReadGrants := addOnce f.secretReadGrants arn } := by
  unfold grantSecretRead addOnce
  split <;> rfl

/-- Whether a layer of the given ARN is attached. -/
def HasLayer (f : LambdaFunction) (arn : String) : Prop := ∃ layer ∈ f.layers, layer.arn = arn

theorem addLayer_of_hasLayer {f : LambdaFunction} {layer : LayerReference}
    (h : f.HasLayer layer.arn) : f.addLayer layer = f := by
  obtain ⟨other, hmem, harn⟩ := h
  have hany : f.layers.any (·.arn == layer.arn) = true :=
    List.any_eq_true.mpr ⟨other, hmem, beq_iff_eq.mpr harn⟩
  unfold addLayer
  rw [if_pos hany]

theorem addLayer_of_not_hasLayer {f : LambdaFunction} {layer : LayerReference}
    (h : ¬f.HasLayer layer.arn) : f.addLayer layer = { f with layers := f.layers ++ [layer] } := by
  have hany : f.layers.any (·.arn == layer.arn) = false := by
    rw [List.any_eq_false]
    intro other hmem harn
    exact h ⟨other, hmem, beq_iff_eq.mp harn⟩
  rw [addLayer, hany]
  rfl

theorem addLayer_eq (f : LambdaFunction) (layer : LayerReference) :
    f.addLayer layer = { f with layers := (f.addLayer layer).layers } := by
  unfold addLayer
  split <;> rfl

theorem hasLayer_addLayer {f : LambdaFunction} {layer : LayerReference} {arn : String} :
    (f.addLayer layer).HasLayer arn ↔ f.HasLayer arn ∨ layer.arn = arn := by
  by_cases h : f.HasLayer layer.arn
  · rw [addLayer_of_hasLayer h]
    constructor
    · exact .inl
    · rintro (harn | rfl)
      · exact harn
      · exact h
  · rw [addLayer_of_not_hasLayer h]
    simp [HasLayer, or_and_right, exists_or]

end LambdaFunction
end TelemetryWiring
