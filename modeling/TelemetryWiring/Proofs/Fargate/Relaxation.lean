import TelemetryWiring.Proofs.Fargate.Run
import TelemetryWiring.Proofs.Validation

/-!
The wiring of tasks under laxer options. A switch that is on skips checks and decides nothing else:
what was wired with fewer switches on is wired alike with more.
-/
namespace TelemetryWiring.Fargate

variable {options laxer : ValidationOptions}

namespace Settings

theorem relaxes_unlessBypassed (h : options.IsRelaxedBy laxer)
    {check check' : Except WiringError Unit} (hcheck : Relaxes check' check) :
    Relaxes (unlessBypassed laxer check') (unlessBypassed options check) := by
  intro _ hok
  rw [unlessBypassed_eq_ok_iff] at hok ⊢
  exact fun hlaxer => hcheck () (hok (h.validates hlaxer))

theorem relaxes_finalize (h : options.IsRelaxedBy laxer) (s : Settings) :
    Relaxes (s.finalize laxer) (s.finalize options) := by
  unfold finalize
  refine (Relaxes.refl _).bind fun key => ?_
  refine (relaxes_unlessBypassed h (relaxes_checkSite h _)).bind fun _ => ?_
  refine (Relaxes.refl _).bind fun features => ?_
  refine (relaxes_unlessBypassed h (.refl _)).bind fun _ => ?_
  refine (relaxes_unlessBypassed h (.refl _)).bind fun _ => ?_
  exact (relaxes_unlessBypassed h (.refl _)).bind fun _ => .refl _

end Settings

/-- Off Linux a router is refused or let through, and what is noted does not depend on it. -/
theorem Config.relaxes_checkPlatform (h : options.IsRelaxedBy laxer) (c : Config) (linux : Bool) :
    Relaxes (c.checkPlatform linux laxer) (c.checkPlatform linux options) := by
  intro found hfound
  unfold checkPlatform at hfound ⊢
  cases linux with
  | true => exact hfound
  | false =>
    by_cases hrouter : (!options.bypassValidation && c.logCollection.usesRouter) = true
    · simp [hrouter] at hfound
    · have hlaxer : ¬(!laxer.bypassValidation && c.logCollection.usesRouter) = true := by
        simp only [Bool.and_eq_true, Bool.not_eq_true', not_and] at hrouter ⊢
        exact fun hon => hrouter (h.validates hon)
      simpa [hrouter, hlaxer] using hfound

namespace WiredTask

theorem relaxes_ofSettings (h : options.IsRelaxedBy laxer) (id : String) (task : TaskSettings)
    (settings defaults : Settings) :
    Relaxes (ofSettings id task settings defaults laxer)
      (ofSettings id task settings defaults options) := by
  unfold ofSettings
  refine (Settings.relaxes_finalize h _).bind fun resolved => ?_
  exact (Config.relaxes_checkPlatform h _ _).bind fun found => .refl _

/-- What calls one after the other are told: the container that was added, or why none was. -/
def outcomes (w : WiredTask) :
    List (String × ContainerOptions) → List (Except WiringError Container)
  | [] => []
  | call :: calls => (w.addContainer call.1 call.2).answer :: (w.attempt call).outcomes calls

end WiredTask
end TelemetryWiring.Fargate
