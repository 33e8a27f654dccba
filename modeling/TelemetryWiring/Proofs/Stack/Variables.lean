import TelemetryWiring.Proofs.Stack.Records

/-!
Loading of a stack with one variable of the environment that is meant to replace a text. A text
whose keys are all in lower case becomes the value of the variable, unless that looks like a number
or a truth value, with which the stack is refused. A text with a key in mixed case stays as it was,
whatever the value: the name of the variable is read in lower case, and no field has that key.
-/
namespace TelemetryWiring

namespace TextField

/-- The keys that lead to the texts of a stack are words of letters. -/
theorem isWordKey_keys : ∀ f ∈ Stack.textFields, ∀ key ∈ f.keys, Override.isWordKey key = true := by
  decide +kernel

theorem path?_variableName {f : TextField Stack} (hf : f ∈ Stack.textFields) :
    Override.path? f.variableName = some (f.keys.map Text.lowerCase) :=
  Override.path?_variableName (isWordKey_keys f hf) (List.cons_ne_nil _ _)

end TextField

namespace Stack

/-- The fields that a file describes. -/
def fields? (fileName text : String) : Option (Dict Json) := do
  (← StackFormat.ofFileName? fileName).parse? text

theorem load?_eq (fileName text : String) (environment : Dict String) :
    load? fileName text environment = (fields? fileName text).bind fun fields =>
      decode? (withPayloads (Override.apply (.ofDict fields) environment)) := by
  unfold load? fields?
  cases StackFormat.ofFileName? fileName <;> rfl

theorem fields?_ordered {fileName text : String} {fields : Dict Json}
    (h : fields? fileName text = some fields) : Json.HasOrderedValues fields.entries := by
  obtain ⟨format, -, h⟩ := Option.bind_eq_some_iff.mp h
  exact StackFormat.parse?_ordered h

/-- A variable for a text whose enclosing objects are in the file, beside others that replace
nothing: what it does is told by the keys of the text and by its value alone. -/
theorem load?_insert_variable {fileName text : String} {fields : Dict Json}
    {environment : Dict String} {stack : Stack} {field : TextField Stack} {value : String}
    (hfields : fields? fileName text = some fields)
    (hothers : ∀ name ∈ environment.keys, Override.path? name = none)
    (hload : load? fileName text environment = some stack)
    (hfield : field ∈ textFields)
    (hencloses : (Json.ofDict fields).encloses field.keys = true)
    (hvalue : ∀ c ∈ value.toList, Override.isPlain c = true) :
    load? fileName text (environment.insert field.variableName value) =
      if field.isLowerCase then
        if Override.readsAsText value then some (field.set value stack) else none
      else some stack := by
  rw [load?_eq, hfields, Option.bind_some, Override.apply_of_none hothers] at hload
  have hpath := TextField.path?_variableName hfield
  rw [load?_eq, hfields, Option.bind_some, Override.apply_insert hothers _ hpath]
  change ofFields? (Override.writeAt fields _ _ _) = _
  rw [isOverridable field hfield fields stack (Override.ofText value) (fields?_ordered hfields)
    hencloses (Override.isWord_ofText hvalue) hload, TextField.change?]
  cases field.isLowerCase with
  | false => rfl
  | true =>
    rw [if_pos rfl, if_pos rfl, Override.str?_ofText hvalue]
    split <;> rfl

/-- A value with digits that is no number, for a text that is not in the file. -/
theorem load?_insert_variable_of_service :
    ∃ field ∈ textFields, field.keys = ["lambda", "props", "service"] ∧
      field.isLowerCase = true ∧ Override.readsAsText "checkout-2.1" = true ∧
      load? "stack.json" "\x7b\"lambda\":\x7b\"props\":\x7b\"env\":\"dev\"\x7d\x7d\x7d"
          ((Dict.ofList [("HOME", "/root")]).insert field.variableName "checkout-2.1") =
        some { lambda := some { settings :=
          { identity := { env := some "dev", service := some "checkout-2.1" } } } } := by
  have hmem : textFields[18] ∈ textFields := List.getElem_mem _
  have hlower : textFields[18].isLowerCase = true := by decide +kernel
  have hreads : Override.readsAsText "checkout-2.1" = true := by decide +kernel
  refine ⟨textFields[18], hmem, by decide +kernel, hlower, hreads, ?_⟩
  have hfields : fields? "stack.json"
      "\x7b\"lambda\":\x7b\"props\":\x7b\"env\":\"dev\"\x7d\x7d\x7d" =
        some (.ofList [("lambda", .object [("props", .object [("env", .str "dev")])])]) := by
    decide +kernel
  have hothers : ∀ name ∈ (Dict.ofList [("HOME", "/root")]).keys, Override.path? name = none := by
    decide +kernel
  have hload : load? "stack.json"
      "\x7b\"lambda\":\x7b\"props\":\x7b\"env\":\"dev\"\x7d\x7d\x7d"
        (.ofList [("HOME", "/root")]) =
      some { lambda := some { settings := { identity := { env := some "dev" } } } } := by
    decide +kernel
  have hplain : ∀ c ∈ "checkout-2.1".toList, Override.isPlain c = true :=
    List.all_eq_true.mp (by decide +kernel)
  rw [load?_insert_variable hfields hothers hload hmem (by decide +kernel) hplain, if_pos hlower,
    if_pos hreads]
  rfl

/-- With the number of an account in the variable for the account the stack is refused, and the
variable for the commit is without effect. -/
theorem load?_insert_variable_loses_value :
    (∃ field ∈ textFields, field.keys = ["account"] ∧ field.variableName = "DD_CDK_ACCOUNT" ∧
      load? "stack.json" "\x7b\"account\":\"123456789012\"\x7d" .empty =
        some { account := some "123456789012" } ∧
      load? "stack.json" "\x7b\"account\":\"123456789012\"\x7d"
        (Dict.empty.insert field.variableName "210987654321") = none) ∧
    ∃ field ∈ textFields, field.keys = ["git", "commitSha"] ∧
      field.variableName = "DD_CDK_GIT__COMMITSHA" ∧
      load? "stack.json" "\x7b\"git\":\x7b\x7d\x7d" .empty = some { git := some {} } ∧
      load? "stack.json" "\x7b\"git\":\x7b\x7d\x7d"
        (Dict.empty.insert field.variableName "4f2a9c1") = some { git := some {} } := by
  constructor
  · refine ⟨textFields[0], List.getElem_mem _, ?_⟩
    decide +kernel
  · refine ⟨textFields[1], List.getElem_mem _, ?_⟩
    decide +kernel

end Stack
end TelemetryWiring
