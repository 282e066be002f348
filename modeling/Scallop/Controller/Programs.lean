import Scallop.Controller.Changes
import Scallop.Controller.Model

/-!
# Programs of the controller

* `Controller.View` : the sessions, and the streams that the switch is told of;
* `KeepsView` : a program that keeps the view, such as a write to a client;
* `Leads` : a triple about the view; `leads_onSession` : a program on a session leaves the other ones
  alone.
-/

namespace Scallop

def SwitchMessage.stream? : SwitchMessage → Option Rpc.AddStream
  | .addStream m => some m
  | _ => none

namespace Switches

/-- The streams that switches were told of, in order. -/
def announced (s : Switches) : List Rpc.AddStream := s.written.filterMap fun e => e.2.stream?

def KeepsAnnounced {α : Type} (m : Program α) : Prop :=
  ∀ l, Eff.Keeps (fun s : Switches => s.announced = l) m

section KeepsAnnounced
variable {α β : Type}

theorem modify_keepsAnnounced {f : Switches → Switches} (hf : ∀ s, (f s).written = s.written) :
    KeepsAnnounced (Eff.modify f) := by
  intro l s hs
  show ((f s).written.filterMap _) = l
  rw [hf]
  exact hs

theorem announced_write {i : Nat} {m : SwitchMessage} {s : Switches} :
    ({ s with written := s.written ++ [(i, m)] } : Switches).announced =
      s.announced ++ m.stream?.toList := by
  unfold announced
  rw [List.filterMap_append]
  cases m <;> rfl

theorem write_keepsAnnounced {i : Nat} {m : SwitchMessage} (hm : m.stream? = none) :
    KeepsAnnounced (write i m) := by
  intro l s hs
  show ({ s with written := s.written ++ [(i, m)] } : Switches).announced = l
  rw [announced_write, hm]
  exact (List.append_nil _).trans hs

theorem connection_keepsAnnounced {switchId : Nat} : KeepsAnnounced (connection switchId) := by
  intro l
  unfold connection
  refine Eff.keeps_get_bind fun s => ?_
  split
  · exact Eff.keeps_pure _
  · exact Eff.keeps_throw _

theorem remove_keepsAnnounced {switchId : Nat} : KeepsAnnounced (remove switchId) := by
  intro l
  unfold remove
  refine Eff.keeps_get_bind fun s => ?_
  split
  · exact modify_keepsAnnounced (fun _ => rfl) l
  · exact Eff.keeps_throw _

/-- A switch is found just when there is one. -/
theorem triple_connection {switchId : Nat} {s₀ : Switches} :
    Eff.Triple (· = s₀) (connection switchId)
      (fun _ s => s = s₀ ∧ (s₀.connectionById switchId).isSome) fun _ _ => True := by
  unfold connection
  refine Eff.triple_get_bind ?_
  rintro s rfl
  split
  · rename_i heq
    exact Eff.triple_pure fun s' hs' => ⟨hs', by rw [heq]; rfl⟩
  · exact Eff.triple_throw fun _ _ => trivial

end KeepsAnnounced

end Switches

namespace Controller

/-- What the controller does for its clients: the sessions, and the streams that switches were told
of. -/
structure View where
  session : Nat → Session
  announced : List Rpc.AddStream

def view (c : Controller) : View := ⟨c.session, c.switches.announced⟩

/-- The program keeps the view, also when it throws. -/
def KeepsView {α : Type} (m : Program α) : Prop :=
  ∀ P : View → Prop, Eff.Keeps (fun c : Controller => P c.view) m

section KeepsView
variable {α β : Type} {env : Env}

theorem KeepsView.bind {m : Program α} {g : α → Program β} (hm : KeepsView m)
    (hg : ∀ a, KeepsView (g a)) : KeepsView (m >>= g) :=
  fun P => (hm P).bind fun a => hg a P

theorem KeepsView.triple {m : Program α} (hm : KeepsView m) (P : View → Prop)
    {E : Fault → View → Prop} (hE : ∀ e v, P v → E e v) :
    Eff.Triple (fun c => P c.view) m (fun _ c => P c.view) fun e c => E e c.view :=
  (Eff.Triple.of_keeps (hm P)).mono (fun _ h => h) (fun _ _ h => h) fun e c h => hE e c.view h

theorem modify_keepsView {f : Controller → Controller} (hf : ∀ c, (f c).view = c.view) :
    KeepsView (Eff.modify f) := by
  intro P c hc
  show P (f c).view
  rw [hf]
  exact hc

theorem write_keepsView {i : Nat} {m : ClientMessage} : KeepsView (write env i m) := by
  intro P
  unfold write
  refine Eff.keeps_get_bind fun c => Eff.Keeps.bind (Eff.keeps_modify fun _ h => h) fun _ => ?_
  split
  · exact Eff.keeps_emit _
  · exact Eff.keeps_throw _

theorem triple_write {i : Nat} {m : ClientMessage} {c₀ : Controller} :
    Eff.Triple (· = c₀) (write env i m)
      (fun _ c => env.writeError c₀.clientWrites = none ∧
        c = { c₀ with clientWrites := c₀.clientWrites + 1 })
      fun _ c => c.view = c₀.view := by
  unfold write
  refine Eff.triple_get_bind ?_
  rintro c rfl
  refine Eff.Triple.bind (R := fun _ c' => c' = { c with clientWrites := c.clientWrites + 1 })
    (Eff.triple_modify ?_) fun _ => ?_
  · rintro c' rfl
    rfl
  · split
    · exact Eff.triple_emit fun c' hc' => ⟨‹_›, hc'⟩
    · exact Eff.triple_throw fun c' hc' => hc' ▸ rfl

theorem sendHello_keepsView {i : Nat} : KeepsView (sendHello env i) :=
  fun P => Eff.keeps_get_bind fun _ => write_keepsView P

theorem sendOffer_keepsView {i id : Nat} {offer : Sdp.SessionDescription} :
    KeepsView (sendOffer env i offer id) :=
  fun P => (Eff.keeps_ofExcept _).bind fun _ => write_keepsView P

theorem sendAnswer_keepsView {i id : Nat} {answer : Sdp.SessionDescription} :
    KeepsView (sendAnswer env i answer id) :=
  fun P => (Eff.keeps_ofExcept _).bind fun _ => write_keepsView P

theorem clientConnection_keepsView {sessionId id : Nat} :
    KeepsView (clientConnection sessionId id) := by
  intro P
  unfold clientConnection
  refine Eff.keeps_get_bind fun c => ?_
  split
  · exact Eff.keeps_pure _
  · exact Eff.keeps_throw _

theorem onSwitches_keepsView {m : Switches.Program α} (hm : Switches.KeepsAnnounced m) :
    KeepsView (onSwitches m) := by
  intro P c hc
  have h : (m c.switches).state.announced = c.switches.announced := hm _ c.switches rfl
  show P ⟨c.session, (m c.switches).state.announced⟩
  rw [h]
  exact hc

end KeepsView

/-- From `P` the program gets to `Q`, or fails in `E`. -/
abbrev Leads {α : Type} (P : View → Prop) (m : Program α) (Q : α → View → Prop)
    (E : Fault → View → Prop) : Prop :=
  Eff.Triple (fun c : Controller => P c.view) m (fun a c => Q a c.view) fun e c => E e c.view

/-- All sessions but one meet `G`. -/
def Others (G : Session → Prop) (sessionId : Nat) (v : View) : Prop :=
  ∀ k, k ≠ sessionId → G (v.session k)

section Sessions
variable {α : Type} {G : Session → Prop} {sessionId : Nat} {v : View}

theorem others_setSession {c : Controller} {s : Session × Switches} (h : Others G sessionId c.view) :
    Others G sessionId (c.setSession sessionId s).view := by
  intro k hk
  show G ((c.setSession sessionId s).session k)
  rw [session_setSession_of_ne hk]
  exact h k hk

theorem others_of_all (h : ∀ k, G (v.session k)) : Others G sessionId v := fun k _ => h k

theorem all_of_others (h : Others G sessionId v) (hself : G (v.session sessionId)) (k : Nat) :
    G (v.session k) := by
  by_cases hk : k = sessionId
  · rw [hk]
    exact hself
  · exact h k hk

/-- A program on a session leaves the others alone. -/
theorem leads_onSession {m : SessionEff Switches (Nat × ClientMessage) α} {P : Session → Prop}
    {Q : α → Session → Prop} {E : Fault → Session → Prop}
    (h : Session.Triple P m Q E) :
    Leads (fun v => P (v.session sessionId) ∧ Others G sessionId v) (onSession sessionId m)
      (fun a v => Q a (v.session sessionId) ∧ Others G sessionId v)
      fun e v => E e (v.session sessionId) ∧ Others G sessionId v := by
  have hself : ∀ (c : Controller) (s : Session × Switches),
      (c.setSession sessionId s).view.session sessionId = s.1 := fun _ _ => session_setSession_self
  refine Eff.triple_zoom h (fun c hc => hc.1) (fun c a s hc hs => ?_) fun c e s hc hs => ?_
  · exact ⟨by rw [hself]; exact hs, others_setSession hc.2⟩
  · exact ⟨by rw [hself]; exact hs, others_setSession hc.2⟩

end Sessions

end Controller

end Scallop
