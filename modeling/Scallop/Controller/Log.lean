import Scallop.Controller.Accepted

/-!
# The log of the controller

* `Extends` : a log is the beginning of what was announced so far; `leads_extends` : the operations of a session
  keep that; `handle_extends` : so does every event;
* `Prepared` : what holds between registrable and regular events; `Process.step_hasLog` : one such event.
-/

namespace Scallop

open Machine

namespace Controller

/-- What was announced begins with `log`. -/
def View.Extends (log : List Rpc.AddStream) (v : View) : Prop := log <+: v.announced

section Handlers
variable {α : Type} {env : Env} {sessionId id i : Nat} {c₀ : Controller} {m : ClientMeta} {sdp : String}
variable {log : List Rpc.AddStream}

theorem extends_keptBy : Session.KeptBy onNewStream fun _ t => log <+: t.announced where
  quiet h _ := h
  told h _ hok := by
    rw [onNewStream_ok hok]
    exact h.trans (List.prefix_append _ _)

theorem leads_extends {prog : SessionEff Switches (Nat × ClientMessage) α} {Pre Post : Session → Prop}
    (h : Session.Makes onNewStream (fun _ t => log <+: t.announced) Pre prog Post) :
    Leads (fun v => v.Extends log ∧ Pre (v.session sessionId)) (onSession sessionId prog)
      (fun _ v => v.Extends log) fun _ _ => True :=
  Eff.triple_zoom h (fun _ hc => hc) (fun _ _ _ _ hs => hs.1) fun _ _ _ _ _ => trivial

/-- An operation that leaves the callback alone. -/
theorem leads_extends_of_keeps {prog : SessionEff Switches (Nat × ClientMessage) α}
    (h : ∀ t, Eff.Keeps (fun s : Session × Switches => s.2 = t) prog) :
    Leads (fun v => v.Extends log) (onSession sessionId prog) (fun _ v => v.Extends log)
      fun _ _ => True := by
  refine Eff.triple_intro fun c h₀ => ?_
  refine Eff.triple_zoom (Eff.Triple.of_keeps (h c.switches)) ?_ ?_ fun _ _ _ _ _ => trivial
  · rintro c' rfl
    rfl
  · rintro c' a s rfl hs
    show log <+: s.2.announced
    rw [hs]
    exact h₀

theorem getOffer_extends : Leads (fun v => v.Extends log) (onSession sessionId (Session.getOffer id))
    (fun _ v => v.Extends log) fun _ _ => True :=
  (leads_extends (Session.getOffer_makes extends_keptBy)).pre fun _ h => ⟨h, trivial⟩

theorem getAnswer_extends : Leads (fun v => v.Extends log) (onSession sessionId (Session.getAnswer id))
    (fun _ v => v.Extends log) fun _ _ => True :=
  (leads_extends (Session.getAnswer_makes extends_keptBy)).pre fun _ h => ⟨h, trivial⟩

theorem completeTransaction_extends : Leads (fun v => v.Extends log) (completeTransaction env sessionId)
    (fun _ v => v.Extends log) fun _ _ => True :=
  completeTransaction_triple (fun _ _ _ => trivial) (fun _ h _ => h) (fun _ _ _ _ _ => trivial)
    fun _ => getAnswer_extends.pre fun _ h => h.1

theorem forwardOffers_extends {ids : List Nat} : Leads (fun v => v.Extends log)
    (forwardOffers env sessionId id ids) (fun _ v => v.Extends log) fun _ _ => True :=
  forwardOffers_triple (L := fun _ v => v.Extends log) (fun _ h => h) (fun _ _ h => h)
    fun _ _ _ => getOffer_extends.mono (fun _ h => h) (fun _ _ h => ⟨h, fun _ => trivial⟩) fun _ _ h => h

theorem onNewParticipant_extends {remote : IPv4Port} (h₀ : c₀.view.Extends log) :
    Eff.Triple (· = c₀) (onNewParticipant env i remote (some sessionId)) (fun _ c => c.view.Extends log)
      fun _ _ => True := by
  refine onNewParticipant_triple (E := fun _ _ => True) (J := fun _ v => v.Extends log)
    (fun _ _ _ => trivial) (fun _ _ _ _ => trivial) h₀ (fun _ _ h _ => h) ?_
    fun _ _ => getOffer_extends.pre fun _ h => h.1
  refine (leads_extends_of_keeps fun t => addParticipant_keeps_callback).pre ?_
  intro c hc
  rw [hc]
  exact h₀

theorem onClientClose_extends (h₀ : c₀.view.Extends log) :
    Eff.Triple (fun c => c.view = c₀.view) (onClientClose m) (fun _ c => c.view.Extends log)
      fun _ _ => True := by
  refine onClientClose_triple (E := fun _ _ => True) h₀ fun _ => ?_
  have hkeeps : ∀ t, Eff.Keeps (fun s : Session × Switches => s.2 = t)
      (Session.removeParticipant m.participantId : SessionEff Switches (Nat × ClientMessage) Unit) :=
    fun t => Eff.keeps_get_bind fun _ => (Eff.keeps_require _ _).bind fun _ => Eff.keeps_modify fun _ h => h
  refine (leads_extends_of_keeps hkeeps).pre ?_
  intro c hc
  rw [hc]
  exact h₀

theorem onClientOffer_extends (h₀ : c₀.view.Extends log) :
    Eff.Triple (· = c₀) (onClientOffer env i sdp) (fun _ c => c.view.Extends log) fun _ _ => True := by
  refine onClientOffer_triple (E := fun _ _ => True) (B := fun v => v.Extends log) rfl (fun _ _ _ => trivial)
    h₀ (fun offer _ _ => ?_) (fun _ => forwardOffers_extends.pre fun _ h => h.1)
    (getAnswer_extends.pre fun _ h => h.1)
  refine (leads_extends (Session.addOffer_makes extends_keptBy)).pre ?_
  intro c hc
  rw [hc]
  exact ⟨h₀, trivial⟩

theorem onClientAnswer_extends (h₀ : c₀.view.Extends log) (hconsistent : ∀ k, (c₀.session k).Consistent) :
    Eff.Triple (· = c₀) (onClientAnswer env i sdp) (fun _ c => c.view.Extends log) fun _ _ => True := by
  refine onClientAnswer_triple (E := fun _ _ => True) (A := fun v => v.Extends log) rfl (fun _ _ _ => trivial)
    h₀ (fun answer _ hexists => ?_) completeTransaction_extends
  refine (leads_extends (Session.addAnswer_makes extends_keptBy)).pre ?_
  intro c hc
  rw [hc]
  exact ⟨h₀, hconsistent _, hexists⟩

theorem handle_extends (event : Event) (h₀ : c₀.view.Extends log) (hconsistent : ∀ k, (c₀.session k).Consistent) :
    Eff.Triple (· = c₀) (handle env event) (fun _ c => c.view.Extends log) fun _ _ => True :=
  handle_triple (E := fun _ _ => True) event (fun _ _ _ => trivial) h₀
    (fun _ _ _ _ _ _ _ => onNewParticipant_extends h₀) (fun _ _ _ _ _ _ _ => onClientOffer_extends h₀)
    (fun _ _ _ _ _ _ _ => onClientAnswer_extends h₀ hconsistent)
    fun _ _ _ _ _ => onClientClose_extends h₀

end Handlers

/-- What holds between registrable and regular events. -/
structure Prepared (v : View) : Prop where
  announced : AllAnnounced v
  ready : AllReady v

theorem prepared_new {sfuConfig : SFUConfig} : Prepared ({ sfuConfig } : Controller).view := by
  have hsession : ∀ k, ({ sfuConfig } : Controller).view.session k = { id := k, sfuConfig } :=
    fun k => session_new
  refine ⟨⟨fun k => ?_, fun k => ?_, Rpc.Acceptable.nil⟩, fun k => ?_⟩
  · rw [hsession]
  · rw [hsession]
    exact Session.announced_new
  · rw [hsession]
    exact Session.ready_new

end Controller

namespace Process

/-- An event that is registrable and regular. -/
structure Allows (env : Env) (p : Process) (event : Event) : Prop where
  registrable : p.controller.Registrable env event
  regular : p.controller.Regular env event

/-- Unless the process has ended: it is prepared, and its log begins with `log`. -/
abbrev HasLog (log : List Rpc.AddStream) (p : Process) : Prop :=
  p.Meets (fun v => Controller.Prepared v ∧ v.Extends log) fun _ _ => True

theorem HasLog.announced {log : List Rpc.AddStream} {p : Process} (h : p.HasLog log) (hfault : p.fault = none) :
    Controller.Prepared p.controller.view ∧ log <+: p.controller.switches.announced := by
  unfold HasLog Meets at h
  rwa [hfault] at h

theorem hasLog_init (sfuConfig : SFUConfig) : (init sfuConfig).HasLog [] :=
  ⟨Controller.prepared_new, List.nil_prefix⟩

theorem HasLog.current {log : List Rpc.AddStream} {p : Process} (h : p.HasLog log) :
    p.HasLog p.controller.switches.announced := by
  cases hfault : p.fault with
  | some e =>
      unfold HasLog Meets
      rw [hfault]
      trivial
  | none =>
      unfold HasLog Meets
      rw [hfault]
      exact ⟨(h.announced hfault).1, List.prefix_rfl⟩

theorem step_hasLog {env : Env} {log : List Rpc.AddStream} {p : Process} {event : Event} (h : p.HasLog log)
    (hallows : p.Allows env event) : (p.step env event).1.HasLog log := by
  refine step_meets h ?_
  rintro ⟨hprepared, hlog⟩
  have hannounced := Controller.handle_allAnnounced event hprepared.announced hallows.registrable
  have hready := Controller.handle_allReady event hprepared.ready hallows.regular
  have hextends := @Controller.handle_extends env _ log event hlog
    fun k => (hprepared.announced.announced k).consistent
  exact ((hannounced.and hready).and hextends).mono (fun _ hc => ⟨⟨hc, hc⟩, hc⟩)
    (fun _ _ hc => ⟨⟨hc.1.1, hc.1.2⟩, hc.2⟩) fun _ _ _ => trivial

end Process

end Scallop
