import TelemetryWiring.Proofs.Lambda.Additions
import TelemetryWiring.Proofs.Redaction

/-!
The instrumentation of functions with the plain key blotted out. The text of the key is the value of
one variable, written after all others, and no decision looks at it: blotting it out beforehand
leaves no other trace than blotting it out in the result. A function that is skipped never meets it.
-/
namespace TelemetryWiring

namespace LambdaFunction

/-- Whether the function has a key in plain text. -/
def carriesKey (f : LambdaFunction) : Bool := f.environment.contains "DD_API_KEY"

/-- The function without the text of the key. -/
def redacted (f : LambdaFunction) : LambdaFunction :=
  { f with environment := f.environment.redact "DD_API_KEY" }

variable {f g : LambdaFunction}

theorem redacted_redacted (f : LambdaFunction) : f.redacted.redacted = f.redacted := by
  unfold redacted
  dsimp only
  rw [Dict.redact_redact]

theorem map_redacted_redacted (functions : List LambdaFunction) :
    (functions.map (·.redacted)).map (·.redacted) = functions.map (·.redacted) := by
  rw [List.map_map]
  exact List.map_congr_left fun f _ => f.redacted_redacted

theorem carriesKey_redacted (f : LambdaFunction) : f.redacted.carriesKey = f.carriesKey :=
  Dict.contains_mapAt ..

/-- Where there is no key, nothing is blotted out. -/
theorem redacted_of_keyless (h : f.carriesKey = false) : f.redacted = f := by
  unfold redacted
  rw [Dict.redact_of_not_contains h]

/-- Functions that differ in the text of the key alone are equal where one of them has none. -/
theorem eq_of_redacted_eq (h : f.redacted = g.redacted) (hf : f.carriesKey = false) : f = g := by
  have hg : g.carriesKey = false := by rw [← carriesKey_redacted, ← h, carriesKey_redacted, hf]
  rw [← redacted_of_keyless hf, h, redacted_of_keyless hg]

theorem forall₂_of_map_redacted {functions others : List LambdaFunction}
    {p : LambdaFunction → Prop} (h : functions.map (·.redacted) = others.map (·.redacted))
    (hkeyless : ∀ f ∈ functions, p f → f.carriesKey = false) :
    List.Forall₂ (fun f g => f.redacted = g.redacted ∧ (p f → f = g)) functions others := by
  induction functions generalizing others with
  | nil =>
    rw [List.map_eq_nil_iff.mp h.symm]
    exact .nil
  | cons f functions ih =>
    cases others with
    | nil => cases h
    | cons g others =>
      obtain ⟨hhead, htail⟩ := List.cons.inj h
      obtain ⟨hf, hrest⟩ := List.forall_mem_cons.mp hkeyless
      exact .cons ⟨hhead, fun hp => eq_of_redacted_eq hhead (hf hp)⟩ (ih htail hrest)

theorem redacted_setVariable (f : LambdaFunction) {key : String} (h : key ≠ "DD_API_KEY")
    (value : String) : (f.setVariable key value).redacted = f.redacted.setVariable key value := by
  unfold setVariable redacted
  dsimp only
  rw [Dict.redact_insert, if_neg h]

theorem carriesKey_setVariable (f : LambdaFunction) {key : String} (h : key ≠ "DD_API_KEY")
    (value : String) : (f.setVariable key value).carriesKey = f.carriesKey := by
  unfold carriesKey Dict.contains
  rw [get?_setVariable, if_neg h]

theorem carriedTags_redacted (f : LambdaFunction) : f.redacted.carriedTags = f.carriedTags :=
  carriedTags_congr (Dict.get?_redact_of_ne (by decide) _)

/-- The tag list is written without a look at the key. -/
theorem redacted_writeTags (f : LambdaFunction) (c : Lambda.Config) (git : GitMetadata) :
    (f.writeTags c git).redacted = f.redacted.writeTags c git := by
  have htags : f.redacted.tagsWith c git = f.tagsWith c git := by
    unfold tagsWith
    rw [carriedTags_redacted]
  rw [writeTags_eq, writeTags_eq, htags, apply_ite redacted,
    redacted_setVariable f (by decide)]

theorem redacted_writeGitTags (f : LambdaFunction) (git : GitMetadata) :
    (f.writeGitTags git).redacted = f.redacted.writeGitTags git := by
  unfold writeGitTags
  rw [carriedTags_redacted, apply_ite redacted, redacted_setVariable f (by decide)]

theorem carriesKey_writeGitTags (f : LambdaFunction) (git : GitMetadata) :
    (f.writeGitTags git).carriesKey = f.carriesKey := by
  unfold writeGitTags
  split
  · rfl
  · exact f.carriesKey_setVariable (by decide) _

theorem redacted_retag (f : LambdaFunction) (given : GitMetadata) :
    (f.retag given).redacted = f.redacted.retag given := by
  have hcontains : f.redacted.environment.contains tagsVariable =
      f.environment.contains tagsVariable := Dict.contains_mapAt ..
  unfold retag
  rw [hcontains, apply_ite redacted, redacted_writeGitTags]

theorem carriesKey_retag (f : LambdaFunction) (given : GitMetadata) :
    (f.retag given).carriesKey = f.carriesKey := by
  unfold retag
  split
  · exact f.carriesKey_writeGitTags given
  · rfl

/-- A variable that is new to the function is written quietly. -/
theorem diagnostics_assign_concat {writes : List (String × String)} {key : String}
    (hf : f.environment.get? key = none) (hwrites : key ∉ writes.map (·.1)) (value : String) :
    (f.assign (writes ++ [(key, value)])).diagnostics = (f.assign writes).diagnostics := by
  have hfresh : (f.assign writes).value.environment.get? key = none := by
    rw [assign_value]
    dsimp only
    rw [Dict.get?_insertMany, lastValue_eq_none_iff.mpr hwrites, hf]
    rfl
  rw [assign_append]
  simp [assign, overwriteNote, hfresh]

end LambdaFunction

namespace Lambda

def Settings.redacted (s : Settings) : Settings := { s with apiKeys := s.apiKeys.redacted }

def Config.redacted (c : Config) : Config := { c with apiKey := c.apiKey.map (·.redacted) }

def Transport.redacted (t : Transport) : Transport := { t with apiKey := t.apiKey.map (·.redacted) }

theorem Config.redacted_redacted (c : Config) : c.redacted.redacted = c.redacted := by
  unfold redacted
  dsimp only
  rw [map_redacted_redacted]

theorem Transport.redacted_redacted (t : Transport) : t.redacted.redacted = t.redacted := by
  unfold redacted
  dsimp only
  rw [map_redacted_redacted]

namespace Settings

theorem redacted_merge (a b : Settings) : (a.merge b).redacted = a.redacted.merge b.redacted := by
  unfold redacted merge
  rw [ApiKeySettings.redacted_merge]

theorem keyCandidates_redacted (s : Settings) :
    s.redacted.keyCandidates = s.keyCandidates.map fun e => (e.1, e.2.map (·.redacted)) := by
  simp [keyCandidates, redacted, ApiKeySettings.redacted, ApiKeySource.redacted,
    Function.comp_def]

/-- The text of the key does not decide whether settings are accepted. -/
theorem finalize_redacted (s : Settings) (options : ValidationOptions) :
    s.redacted.finalize options =
      (s.finalize options).map fun r => ⟨r.value.redacted, r.diagnostics⟩ := by
  unfold finalize
  rw [keyCandidates_redacted, selectApiKey_redacted, bind_of_map]
  simp only [map_of_bind]
  rfl

end Settings

namespace Transport

theorem check_redacted (t : Transport) (f : LambdaFunction) : t.redacted.check f = t.check f := by
  have hsecret : t.redacted.secretArn? = t.secretArn? := bind_secretArn?_redacted t.apiKey
  unfold check
  rw [hsecret]
  rfl

theorem ofConfig_redacted (c : Config) : ofConfig c.redacted = (ofConfig c).redacted := rfl

/-- What is written before the key. -/
def keylessAssignments (t : Transport) : List (String × String) :=
  ("DD_FLUSH_TO_LOG", switchText t.flushMetricsToLogs) ::
    (if t.flushMetricsToLogs then [] else [("DD_SITE", t.site)])

theorem assignments_eq (t : Transport) :
    t.assignments = t.keylessAssignments ++ (t.apiKey.map keyVariable).toList := rfl

end Transport

namespace Instrumenter

/-- The instrumenter without the text of the key, which it has for functions to come and has written
onto those that it keeps. -/
def redacted (i : Instrumenter) : Instrumenter :=
  { i with
    config := i.config.redacted
    transport := i.transport.redacted
    functions := i.functions.map (·.redacted) }

variable {i j : Instrumenter} {f : LambdaFunction}

theorem redacted_redacted (i : Instrumenter) : i.redacted.redacted = i.redacted := by
  unfold redacted
  dsimp only
  rw [Config.redacted_redacted, Transport.redacted_redacted, LambdaFunction.map_redacted_redacted]

/-- Everything that is written before the key. -/
def keylessAssignments (i : Instrumenter) : List (String × String) :=
  i.config.featureVariables ++ i.config.serviceVariables ++ i.transport.keylessAssignments

theorem assignments_eq (i : Instrumenter) :
    i.assignments =
      i.keylessAssignments ++ (i.transport.apiKey.map Transport.keyVariable).toList := by
  unfold assignments keylessAssignments
  rw [Transport.assignments_eq]
  simp only [List.append_assoc]

/-- Keys are not written twice, so nothing before the last write is under the key's name. -/
theorem not_mem_keys_keylessAssignments (i : Instrumenter) {key : String}
    (h : i.transport.apiKey = some (.plain key)) :
    "DD_API_KEY" ∉ i.keylessAssignments.map (·.1) := by
  have hnodup := i.nodup_keys_assignments
  rw [assignments_eq, h, List.map_append] at hnodup
  intro hmem
  exact (List.disjoint_of_nodup_append hnodup) hmem List.mem_cons_self

theorem redactWrite_assignments (i : Instrumenter) :
    i.redacted.assignments.map (redactWrite "DD_API_KEY") =
      i.assignments.map (redactWrite "DD_API_KEY") := by
  rw [assignments_eq, assignments_eq, List.map_append, List.map_append]
  have hkey : (i.redacted.transport.apiKey.map Transport.keyVariable).toList.map
        (redactWrite "DD_API_KEY") =
      (i.transport.apiKey.map Transport.keyVariable).toList.map (redactWrite "DD_API_KEY") := by
    unfold redacted Transport.redacted
    dsimp only
    cases i.transport.apiKey with
    | none => rfl
    | some source => cases source <;> rfl
  rw [hkey]
  rfl

/-- A function without a key hears nothing of the key that it is given. -/
theorem diagnostics_assign_redacted (i : Instrumenter)
    (h : f.environment.get? "DD_API_KEY" = none) :
    (f.assign i.redacted.assignments).diagnostics = (f.assign i.assignments).diagnostics := by
  have hsame : i.redacted.keylessAssignments = i.keylessAssignments := rfl
  rw [assignments_eq, assignments_eq, hsame]
  unfold redacted Transport.redacted
  dsimp only
  cases hsource : i.transport.apiKey with
  | none => rfl
  | some source =>
    cases source with
    | plain key =>
      have hfresh := i.not_mem_keys_keylessAssignments hsource
      exact (LambdaFunction.diagnostics_assign_concat h hfresh _).trans
        (LambdaFunction.diagnostics_assign_concat h hfresh _).symm
    | secret ref => rfl
    | secretArn arn => rfl
    | kmsEncrypted ciphertext => rfl

theorem grantKey_redacted (f : LambdaFunction) (c : Config) :
    f.grantKey c.redacted = f.grantKey c := by
  have hsecret : c.redacted.apiKey.bind (·.secretArn?) = c.apiKey.bind (·.secretArn?) :=
    bind_secretArn?_redacted c.apiKey
  unfold LambdaFunction.grantKey
  rw [hsecret]
  rfl

theorem redacted_furnished (i : Instrumenter) (f : LambdaFunction) :
    (i.redacted.furnished f).redacted = (i.furnished f).redacted := by
  have hwrites : (i.redacted.writes f).map (redactWrite "DD_API_KEY") =
      (i.writes f).map (redactWrite "DD_API_KEY") := by
    unfold writes
    rw [List.map_append, List.map_append, redactWrite_assignments]
    rfl
  unfold furnished LambdaFunction.redacted
  dsimp only
  rw [Dict.redact_insertMany, Dict.redact_insertMany, hwrites]
  rfl

theorem redacted_wire (i : Instrumenter) (f : LambdaFunction) :
    (i.redacted.wire f).value.redacted = (i.wire f).value.redacted := by
  rw [wire_value, wire_value, LambdaFunction.redacted_writeTags, LambdaFunction.redacted_writeTags,
    redacted_furnished]
  rfl

/-- Redirection writes no key. -/
theorem not_mem_keys_redirection (i : Instrumenter) (f : LambdaFunction) :
    "DD_API_KEY" ∉ (i.redirection f).2.map (·.1) := by
  intro hmem
  obtain ⟨e, he, hkey⟩ := List.mem_map.mp hmem
  rcases mem_redirection he with rfl | rfl
  · exact absurd hkey (by decide)
  · change "DD_LAMBDA_HANDLER" = "DD_API_KEY" at hkey
    exact absurd hkey (by decide)

theorem get?_redirected (i : Instrumenter) (h : f.environment.get? "DD_API_KEY" = none) :
    (i.redirected f).value.environment.get? "DD_API_KEY" = none := by
  rw [redirected_value]
  dsimp only
  rw [Dict.get?_insertMany, lastValue_eq_none_iff.mpr (i.not_mem_keys_redirection f), h]
  rfl

theorem diagnostics_wire_redacted (i : Instrumenter) (h : f.environment.get? "DD_API_KEY" = none) :
    (i.redacted.wire f).diagnostics = (i.wire f).diagnostics := by
  have hextended : (i.extended f).environment.get? "DD_API_KEY" = none := by
    rw [extended_eq]
    exact h
  have hassigned : ((((i.redirected (i.extended f)).value.forwardLogs i.config).tagResource
      i.config).environment).get? "DD_API_KEY" = none := by
    rw [LambdaFunction.tagResource_eq, LambdaFunction.forwardLogs_eq]
    exact i.get?_redirected hextended
  rw [wire_eq, wire_eq]
  dsimp only
  exact congrArg ((i.redirected (i.extended f)).diagnostics ++ ·)
    (i.diagnostics_assign_redacted hassigned)

/-- Of the key, instrumentation lets through its text alone, and that only as the value of its
variable. -/
theorem instrument_redacted (i : Instrumenter) (h : f.carriesKey = false) :
    (i.redacted.instrument f).value.redacted = (i.instrument f).value.redacted ∧
      (i.redacted.instrument f).diagnostics = (i.instrument f).diagnostics := by
  have hgrant : f.grantKey i.redacted.config = f.grantKey i.config := grantKey_redacted f i.config
  have hskips : i.redacted.config.skips f = i.config.skips f := rfl
  by_cases hskip : i.config.skips f = true
  · rw [instrument_of_skips (hskips.trans hskip), instrument_of_skips hskip, hgrant]
    exact ⟨rfl, rfl⟩
  · have hlibrary (g : LambdaFunction) : i.redacted.library g = i.library g := rfl
    have hkeyless :
        (i.library (f.grantKey i.config)).value.environment.get? "DD_API_KEY" = none := by
      rw [library_value_eq, LambdaFunction.grantKey_eq]
      simpa [LambdaFunction.carriesKey, Dict.contains] using h
    rw [Bool.not_eq_true] at hskip
    rw [instrument_of_not_skips (hskips.trans hskip), instrument_of_not_skips hskip, hgrant,
      hlibrary]
    dsimp only
    rw [redacted_wire, diagnostics_wire_redacted i hkeyless]
    exact ⟨rfl, rfl⟩

theorem redacted_store (f : LambdaFunction) (kept : List LambdaFunction) :
    (store f kept).map (·.redacted) = store f.redacted (kept.map (·.redacted)) := by
  induction kept with
  | nil => rfl
  | cons g kept ih =>
    have hname (f : LambdaFunction) : f.redacted.name = f.name := rfl
    rw [store, List.map_cons, store, hname, hname]
    split
    · rfl
    · rw [List.map_cons, ih]

theorem redacted_storeAll (kept functions : List LambdaFunction) :
    (storeAll kept functions).map (·.redacted) =
      storeAll (kept.map (·.redacted)) (functions.map (·.redacted)) := by
  induction functions generalizing kept with
  | nil => rfl
  | cons f functions ih =>
    change (storeAll (store f kept) functions).map (·.redacted) = _
    rw [ih, redacted_store]
    rfl

theorem redacted_serve_add (i : Instrumenter) {functions : List LambdaFunction}
    (h : ∀ f ∈ functions, f.carriesKey = false) :
    (i.redacted.serve (.add functions)).redacted = (i.serve (.add functions)).redacted := by
  have hcheck (f : LambdaFunction) : i.redacted.transport.check f = i.transport.check f :=
    i.transport.check_redacted f
  have hvalues : (functions.map fun f => (i.redacted.instrument f).value).map (·.redacted) =
      (functions.map fun f => (i.instrument f).value).map (·.redacted) := by
    rw [List.map_map, List.map_map]
    exact List.map_congr_left fun f hf => (i.instrument_redacted (h f hf)).1
  have hfound : (functions.flatMap fun f => (i.redacted.instrument f).diagnostics) =
      functions.flatMap fun f => (i.instrument f).diagnostics :=
    List.flatMap_congr fun f hf => (i.instrument_redacted (h f hf)).2
  rw [serve_add, serve_add]
  simp only [hcheck]
  split
  · unfold redacted at hvalues hfound ⊢
    dsimp only at hvalues hfound ⊢
    rw [redacted_storeAll, redacted_storeAll, hvalues, hfound]
    rw [Config.redacted_redacted, Transport.redacted_redacted, LambdaFunction.map_redacted_redacted]
  · exact i.redacted_redacted

theorem redacted_overrideGit (i : Instrumenter) (sha : String) (url : Option String) :
    (i.overrideGit sha url).redacted = i.redacted.overrideGit sha url := by
  rw [overrideGit_eq, overrideGit_eq]
  unfold redacted
  dsimp only
  rw [List.map_map, List.map_map]
  congr 1
  exact List.map_congr_left fun f _ => f.redacted_retag _

theorem redacted_writeGit (i : Instrumenter) : i.writeGit.redacted = i.redacted.writeGit := by
  unfold writeGit redacted
  dsimp only
  rw [List.map_map, List.map_map]
  congr 1
  exact List.map_congr_left fun f _ => f.redacted_writeGitTags _

/-- A request that supplies no key is served without a look at the one there is. -/
theorem redacted_serve (i : Instrumenter) (request : Request)
    (h : ∀ functions, request = .add functions → ∀ f ∈ functions, f.carriesKey = false) :
    (i.redacted.serve request).redacted = (i.serve request).redacted := by
  have hoverride (sha : String) (url : Option String) :
      (i.redacted.overrideGit sha url).redacted = (i.overrideGit sha url).redacted := by
    rw [redacted_overrideGit, redacted_overrideGit, redacted_redacted]
  cases request with
  | add functions => exact i.redacted_serve_add (h functions rfl)
  | overrideGit sha url => exact hoverride sha url
  | setGit git => exact congrArg (setGit · git) i.redacted_redacted
  | applyContext context =>
    unfold serve applyContext
    dsimp only
    split
    · exact hoverride _ _
    · exact i.redacted_redacted

end Instrumenter

/-- What changes an instrumenter over time: a request, or the order to write the metadata in force
onto the functions that it keeps. -/
inductive Command where
  | request (request : Request)
  | writeGit

/-- The functions that a command supplies. -/
def Command.supplied : Command → List LambdaFunction
  | .request (.add functions) => functions
  | _ => []

namespace Instrumenter

variable {i j : Instrumenter}

/-- The instrumenter after a command. -/
def perform (i : Instrumenter) : Command → Instrumenter
  | .request request => i.serve request
  | .writeGit => i.writeGit

/-- The instrumenter after commands one after the other. -/
def performAll (i : Instrumenter) (commands : List Command) : Instrumenter :=
  commands.foldl perform i

/-- What a command answers; only an addition can be refused or have findings. -/
def reply (i : Instrumenter) : Command → Except WiringError (List Diagnostic)
  | .request (.add functions) => (i.add functions).answer
  | _ => .ok []

/-- What commands answer, one after the other. -/
def replies (i : Instrumenter) : List Command → List (Except WiringError (List Diagnostic))
  | [] => []
  | command :: rest => i.reply command :: (i.perform command).replies rest

theorem redacted_perform (i : Instrumenter) {command : Command}
    (h : ∀ f ∈ command.supplied, f.carriesKey = false) :
    (i.redacted.perform command).redacted = (i.perform command).redacted := by
  cases command with
  | request request =>
    apply redacted_serve
    rintro functions rfl
    exact h
  | writeGit =>
    change i.redacted.writeGit.redacted = i.writeGit.redacted
    rw [redacted_writeGit, redacted_writeGit, redacted_redacted]

theorem reply_redacted (i : Instrumenter) {command : Command}
    (h : ∀ f ∈ command.supplied, f.carriesKey = false) :
    i.redacted.reply command = i.reply command := by
  match command, h with
  | .request (.add functions), h =>
    have hcheck : i.redacted.transport.check = i.transport.check :=
      funext fun f => i.transport.check_redacted f
    have hfound : (functions.flatMap fun f => (i.redacted.instrument f).diagnostics) =
        functions.flatMap fun f => (i.instrument f).diagnostics :=
      List.flatMap_congr fun f hf => (i.instrument_redacted (h f hf)).2
    unfold reply
    dsimp only
    rw [answer_add, answer_add, hcheck, hfound]
  | .request (.overrideGit ..), _ | .request (.applyContext _), _ | .request (.setGit _), _
  | .writeGit, _ => rfl

/-- Instrumenters that differ in the text of the key go on to differ in nothing else. -/
theorem redacted_performAll_congr (h : i.redacted = j.redacted) {commands : List Command}
    (hcommands : ∀ command ∈ commands, ∀ f ∈ command.supplied, f.carriesKey = false) :
    (i.performAll commands).redacted = (j.performAll commands).redacted := by
  induction commands generalizing i j with
  | nil => exact h
  | cons command commands ih =>
    obtain ⟨hcommand, hrest⟩ := List.forall_mem_cons.mp hcommands
    refine ih ?_ hrest
    rw [← redacted_perform i hcommand, h, redacted_perform j hcommand]

/-- They answer alike. -/
theorem replies_congr (h : i.redacted = j.redacted) {commands : List Command}
    (hcommands : ∀ command ∈ commands, ∀ f ∈ command.supplied, f.carriesKey = false) :
    i.replies commands = j.replies commands := by
  induction commands generalizing i j with
  | nil => rfl
  | cons command commands ih =>
    obtain ⟨hcommand, hrest⟩ := List.forall_mem_cons.mp hcommands
    have hnext : (i.perform command).redacted = (j.perform command).redacted := by
      rw [← redacted_perform i hcommand, h, redacted_perform j hcommand]
    rw [replies, replies, ← reply_redacted i hcommand, h, reply_redacted j hcommand,
      ih hnext hrest]

theorem mem_store {kept : List LambdaFunction} {f g : LambdaFunction} (h : g ∈ store f kept) :
    g = f ∨ g ∈ kept := by
  induction kept with
  | nil => exact .inl (List.mem_singleton.mp h)
  | cons k kept ih =>
    rw [store] at h
    split at h
    · rcases List.mem_cons.mp h with h | h
      · exact .inl h
      · exact .inr (List.mem_cons_of_mem _ h)
    · rcases List.mem_cons.mp h with h | h
      · exact .inr (List.mem_cons.mpr (.inl h))
      · exact (ih h).imp_right (List.mem_cons_of_mem _)

theorem mem_storeAll {kept functions : List LambdaFunction} {g : LambdaFunction}
    (h : g ∈ storeAll kept functions) : g ∈ functions ∨ g ∈ kept := by
  induction functions generalizing kept with
  | nil => exact .inr h
  | cons f functions ih =>
    rcases ih h with h | h
    · exact .inl (List.mem_cons_of_mem _ h)
    · rcases mem_store h with h | h
      · exact .inl (List.mem_cons.mpr (.inl h))
      · exact .inr h

/-- None of the functions that were skipped has a key. -/
def SkippedKeyless (i : Instrumenter) : Prop :=
  ∀ f ∈ i.functions, i.config.skips f = true → f.carriesKey = false

/-- A change that leaves runtime and key alone keeps the skipped functions without one. -/
theorem SkippedKeyless.map (h : i.SkippedKeyless) {change : LambdaFunction → LambdaFunction}
    (hruntime : ∀ f, (change f).runtime = f.runtime)
    (hkey : ∀ f, (change f).carriesKey = f.carriesKey) {git : GitMetadata} :
    SkippedKeyless { i with gitOverride := git, functions := i.functions.map change } := by
  intro g hg hskips
  obtain ⟨f, hf, rfl⟩ := List.mem_map.mp hg
  rw [i.config.skips_congr (hruntime f)] at hskips
  rw [hkey]
  exact h f hf hskips

theorem SkippedKeyless.perform (h : i.SkippedKeyless) {command : Command}
    (hcommand : ∀ f ∈ command.supplied, f.carriesKey = false) :
    (i.perform command).SkippedKeyless := by
  have hoverride (sha : String) (url : Option String) : (i.overrideGit sha url).SkippedKeyless := by
    rw [overrideGit_eq]
    apply h.map
    · intro f
      rw [LambdaFunction.retag_eq]
    · intro f
      exact f.carriesKey_retag _
  cases command with
  | writeGit =>
    apply h.map
    · intro f
      unfold LambdaFunction.writeGitTags
      split <;> rfl
    · intro f
      exact f.carriesKey_writeGitTags _
  | request request =>
    cases request with
    | overrideGit sha url => exact hoverride sha url
    | setGit git => exact h
    | applyContext context =>
      change (i.applyContext context).SkippedKeyless
      unfold applyContext
      split
      · exact hoverride _ _
      · exact h
    | add functions =>
      change (i.serve (.add functions)).SkippedKeyless
      rw [serve_add]
      split
      · intro g hg hskips
        rcases mem_storeAll hg with hnew | hkept
        · obtain ⟨f, hf, rfl⟩ := List.mem_map.mp hnew
          have hskipped : i.config.skips f = true := by
            rw [← hskips]
            exact (i.config.skips_congr (i.sameIdentity_instrument f).runtime).symm
          rw [instrument_of_skips hskipped, LambdaFunction.grantKey_eq]
          exact hcommand f hf
        · exact h g hkept hskips
      · exact h

theorem SkippedKeyless.performAll (h : i.SkippedKeyless) {commands : List Command}
    (hcommands : ∀ command ∈ commands, ∀ f ∈ command.supplied, f.carriesKey = false) :
    (i.performAll commands).SkippedKeyless := by
  induction commands generalizing i with
  | nil => exact h
  | cons command commands ih =>
    obtain ⟨hcommand, hrest⟩ := List.forall_mem_cons.mp hcommands
    exact ih (h.perform hcommand) hrest

/-- Functions of two instrumenters, side by side: they differ in the text of the key at most, and
not at all if they were skipped. -/
theorem forall₂_functions (h : i.redacted = j.redacted) (hi : i.SkippedKeyless) :
    List.Forall₂ (fun f g => f.redacted = g.redacted ∧ (i.config.skips f = true → f = g))
      i.functions j.functions := by
  have hfunctions : i.functions.map (·.redacted) = j.functions.map (·.redacted) :=
    congrArg Instrumenter.functions h
  exact LambdaFunction.forall₂_of_map_redacted hfunctions hi

/-- New instrumenters of settings that differ in the text of the key differ in nothing else. -/
theorem redacted_ofSettings (s d : Settings) (options : ValidationOptions) :
    (ofSettings s.redacted d.redacted options).map redacted =
      (ofSettings s d options).map redacted := by
  have hmerge : (Settings.libraryDefaults.merge d.redacted).merge s.redacted =
      ((Settings.libraryDefaults.merge d).merge s).redacted := by
    rw [Settings.redacted_merge, Settings.redacted_merge]
    rfl
  unfold ofSettings Settings.resolve
  rw [hmerge, Settings.finalize_redacted, bind_of_map]
  simp only [map_of_bind]
  refine bind_congr fun resolved => congrArg Except.ok ?_
  unfold redacted
  dsimp only
  rw [Config.redacted_redacted, Transport.ofConfig_redacted, Transport.redacted_redacted]

end Instrumenter
end Lambda
end TelemetryWiring
