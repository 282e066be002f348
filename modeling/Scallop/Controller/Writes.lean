import Scallop.Controller.Announced
import Scallop.Lib.Follow

/-!
# What sessions write to switches

* `SwitchMessage.session?` : the session that a message is about;
* `Switches.connection_run`, `onNewStream_run` : the lookup of a switch, and the callback;
* `Session.Logs` : a program on a session that writes to the switches about that session, without reading what was
  written before; one lemma for each operation.
-/

namespace Scallop

def SwitchMessage.session? : SwitchMessage → Option Nat
  | .hello => none
  | .addParticipant sessionId _ _ => some sessionId
  | .addStream m => some m.sessionId

/-- The switch that is told of streams, among those that are connected. -/
def Switches.lookup (s : Switches) (switchId : Nat) : Except Fault Nat :=
  match s.connectionById switchId with
  | some (_, i) => .ok i
  | none => .error (.logicError
      ("ControllerSwitchInterface: get: switch does not exist, id=" ++ toString switchId))

theorem Switches.connection_run (s : Switches) (switchId : Nat) :
    connection switchId s = ⟨s, [], s.lookup switchId⟩ := by
  unfold connection lookup
  rw [Eff.get_bind_run]
  cases s.connectionById switchId <;> rfl

theorem Switches.lookup_congr {s s' : Switches} {switchId : Nat} (h : s'.server = s.server) :
    s'.lookup switchId = s.lookup switchId := by
  unfold lookup connectionById
  rw [h]

theorem onNewStream_run (s : Session) (id : Nat) (stream : Stream) (t : Switches) :
    onNewStream s id stream t = match t.lookup allowedSwitchId with
      | .ok i => ⟨{ t with written := t.written ++ [(i, .addStream (stream.message s.id id))] }, [], .ok ()⟩
      | .error e => ⟨t, [], .error e⟩ := by
  have hrun := t.connection_run allowedSwitchId
  unfold onNewStream
  rw [if_neg stream.direction_ne_none]
  cases hlookup : t.lookup allowedSwitchId with
  | error e => exact Eff.bind_of_error (hlookup ▸ hrun)
  | ok i => exact Eff.bind_of_ok (hlookup ▸ hrun)

namespace Session

/-! ## What operations write -/

section Logs
variable {α : Type} {fromId forId initKey offerId : Nat} {media : Sdp.MediaDescription}

/-- The program writes streams of its session to the switches, and reads which of them are there. -/
abbrev Logs (m : SessionEff Switches (Nat × ClientMessage) α) : Prop :=
  Eff.Appends (fun s : Session × Switches => (s.1, s.2.server)) (fun k => (k.1.id, k.2)) (fun s => s.2.written)
    (fun k e => e.2.session? = some k.1) m

theorem logs_read {f : Session × Switches → SessionEff Switches (Nat × ClientMessage) α} (hf : ∀ s, Logs (f s))
    (heq : ∀ s t t', f (s, t') = f (s, t)) : Logs (Eff.get >>= f) := by
  refine Eff.appends_get_bind ?_ hf
  intro s s' h
  have hs : s'.1 = s.1 := (Prod.mk.inj h).1
  calc f s' = f (s'.1, s.2) := heq s'.1 s.2 s'.2
    _ = f s := by rw [hs]

theorem logs_modify {g : Session → Session} (hg : ∀ s, (g s).id = s.id) :
    Logs (modify g : SessionEff Switches (Nat × ClientMessage) Unit) := by
  refine Eff.appends_modify ?_ (fun _ => rfl) ?_
  · intro s s' h
    have hs : s'.1 = s.1 := (Prod.mk.inj h).1
    have hserver : s'.2.server = s.2.server := (Prod.mk.inj h).2
    show (g s'.1, s'.2.server) = (g s.1, s.2.server)
    rw [hs, hserver]
  · intro s
    show ((g s.1).id, s.2.server) = (s.1.id, s.2.server)
    rw [hg]

theorem logs_modify_bind {g : Session → Session} {f : Unit → SessionEff Switches (Nat × ClientMessage) α}
    (hg : ∀ s, (g s).id = s.id) (hf : Logs (f ())) : Logs (modify g >>= f) :=
  Eff.Appends.bind (logs_modify hg) fun _ => hf

theorem notify_logs {id : Nat} {stream : Stream} :
    Logs (notify (some onNewStream) id stream : SessionEff Switches (Nat × ClientMessage) Unit) := by
  intro s
  have hrun : ∀ s' : Session × Switches, (s'.1, s'.2.server) = (s.1, s.2.server) →
      (notify (some onNewStream) id stream : SessionEff Switches (Nat × ClientMessage) Unit) s' =
        match s.2.lookup allowedSwitchId with
        | .ok i => ⟨(s.1, { s'.2 with
            written := s'.2.written ++ [(i, .addStream (stream.message s.1.id id))] }), [], .ok ()⟩
        | .error e => ⟨s', [], .error e⟩ := by
    intro s' h
    rw [← (Prod.mk.inj h).1, ← Switches.lookup_congr (Prod.mk.inj h).2]
    show Eff.zoom Prod.snd (fun t s => (s.1, t)) (fun w => w) (onNewStream s'.1 id stream) s' = _
    unfold Eff.zoom
    rw [onNewStream_run]
    cases s'.2.lookup allowedSwitchId <;> rfl
  cases hlookup : s.2.lookup allowedSwitchId with
  | error e =>
      refine ⟨_, [], .error e, rfl, fun _ h => absurd h List.not_mem_nil, fun s' h => ?_⟩
      rw [hrun s' h, hlookup]
      exact ⟨h, (List.append_nil _).symm, rfl, rfl⟩
  | ok i =>
      refine ⟨_, [(i, .addStream (stream.message s.1.id id))], .ok (), rfl, ?_, fun s' h => ?_⟩
      · intro e he
        rw [List.mem_singleton.mp he]
        exact congrArg some (stream.message_sessionId _ _)
      · rw [hrun s' h, hlookup]
        exact ⟨congrArg (Prod.mk s.1) (Prod.mk.inj h).2, rfl, rfl, rfl⟩

theorem addParticipant_logs {ip : String} {port : UInt16} :
    Logs (addParticipant ip port : SessionEff Switches (Nat × ClientMessage) Nat) := by
  unfold addParticipant
  refine logs_read (fun s => ?_) fun _ _ _ => rfl
  refine (Eff.appends_require _ _).bind fun _ => ?_
  refine logs_modify_bind (fun _ => rfl) ((Eff.appends_require _ _).bind fun _ => ?_)
  exact logs_modify_bind (fun _ => rfl) (Eff.appends_pure _)

theorem removeParticipant_logs {id : Nat} :
    Logs (removeParticipant id : SessionEff Switches (Nat × ClientMessage) Unit) :=
  logs_read (fun _ => (Eff.appends_require _ _).bind fun _ => logs_modify fun _ => rfl) fun _ _ _ => rfl

theorem addOfferMedia_logs :
    Logs (addOfferMedia (some onNewStream) fromId media : SessionEff Switches (Nat × ClientMessage) Unit) := by
  unfold addOfferMedia
  split
  · split
    · exact Eff.appends_throw _
    · refine logs_read (fun s => ?_) fun _ _ _ => rfl
      split
      · exact Eff.appends_pure ()
      · exact (Eff.appends_ofExcept _).bind fun _ => logs_modify_bind (fun _ => rfl) notify_logs
  · exact Eff.appends_pure ()

theorem addOfferMedias_logs : ∀ {medias : List Sdp.MediaDescription},
    Logs (addOfferMedias (some onNewStream) fromId medias : SessionEff Switches (Nat × ClientMessage) Unit)
  | [] => Eff.appends_pure ()
  | _ :: _ => addOfferMedia_logs.bind fun _ => addOfferMedias_logs

theorem addOffer_logs {offer : Sdp.SessionDescription} :
    Logs (addOffer (some onNewStream) fromId offer : SessionEff Switches (Nat × ClientMessage) Unit) := by
  unfold addOffer
  refine logs_read (fun s => ?_) fun _ _ _ => rfl
  refine (Eff.appends_require _ _).bind fun _ => (Eff.appends_require _ _).bind fun _ => ?_
  exact logs_modify_bind (fun _ => rfl) (addOfferMedias_logs.bind fun _ => logs_modify fun _ => rfl)

theorem addAnswerMedia_logs :
    Logs (addAnswerMedia (some onNewStream) initKey offerId fromId media
      : SessionEff Switches (Nat × ClientMessage) Unit) := by
  unfold addAnswerMedia
  split
  · exact Eff.appends_throw _
  · refine logs_read (fun s => ?_) fun _ _ _ => rfl
    refine (Eff.appends_ofExcept _).bind fun ssrcs => logs_modify_bind (fun _ => rfl) ?_
    refine logs_read (fun s => ?_) fun _ _ _ => rfl
    refine (Eff.appends_ofExcept _).bind fun stream => ?_
    split
    · exact Eff.appends_pure ()
    · exact logs_modify_bind (fun _ => rfl) notify_logs

theorem addAnswerMedias_logs : ∀ {medias : List Sdp.MediaDescription},
    Logs (addAnswerMedias (some onNewStream) initKey offerId fromId medias
      : SessionEff Switches (Nat × ClientMessage) Unit)
  | [] => Eff.appends_pure ()
  | _ :: _ => addAnswerMedia_logs.bind fun _ => addAnswerMedias_logs

theorem addAnswer_logs {answer : Sdp.SessionDescription} :
    Logs (addAnswer (some onNewStream) fromId answer : SessionEff Switches (Nat × ClientMessage) Unit) := by
  unfold addAnswer
  refine logs_read (fun s => ?_) fun _ _ _ => rfl
  refine (Eff.appends_ofExcept _).bind fun initKey => logs_modify_bind (fun _ => rfl) ?_
  refine logs_read (fun s => ?_) fun _ _ _ => rfl
  refine (Eff.appends_require _ _).bind fun _ => logs_modify_bind (fun _ => rfl) ?_
  exact addAnswerMedias_logs.bind fun _ => logs_modify fun _ => rfl

theorem getOffer_logs : Logs (getOffer forId : SessionEff Switches (Nat × ClientMessage) Sdp.SessionDescription) := by
  unfold getOffer
  refine logs_read (fun s => ?_) fun _ _ _ => rfl
  refine (Eff.appends_require _ _).bind fun _ => logs_modify_bind (fun _ => rfl) ?_
  refine logs_read (fun s => ?_) fun _ _ _ => rfl
  refine (Eff.appends_ofExcept _).bind fun _ => (Eff.appends_ofExcept _).bind fun _ => ?_
  exact (Eff.appends_ofExcept _).bind fun _ => Eff.appends_pure _

theorem getAnswer_logs : Logs (getAnswer forId : SessionEff Switches (Nat × ClientMessage) Sdp.SessionDescription) := by
  unfold getAnswer
  refine logs_read (fun s => ?_) fun _ _ _ => rfl
  refine (Eff.appends_require _ _).bind fun _ => (Eff.appends_require _ _).bind fun _ => ?_
  refine (Eff.appends_ofExcept _).bind fun _ => logs_modify_bind (fun _ => rfl) ?_
  exact Eff.appends_pure _

end Logs

end Session

end Scallop
