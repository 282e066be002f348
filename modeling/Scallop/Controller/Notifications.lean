import Scallop.Controller.Changes

/-!
# Notifications mirror the streams

What the new-stream callback is told of a participant is what the session stores of it.

* `sendNotifications`, `receiveNotifications` : what was told of a participant; `Mirrors`;
* `observed` : a callback that also notes its calls; `checkedStep` : runs of callers that check that a
  participant exists;
* `notifications_mirror` : in such runs the notes mirror the streams.
-/

namespace Scallop

open Machine

/-- The streams of the notes that meet `p`. -/
def noted (p : Notification → Bool) (log : List Notification) : List Stream :=
  (log.filter p).map (·.stream)

def Notification.sends (id : Nat) (n : Notification) : Bool :=
  n.participantId = id ∧ n.stream.isSend

/-- The participant was notified to receive from another one. -/
def Notification.receives (id sender : Nat) (n : Notification) : Bool :=
  n.participantId = id ∧ ¬ n.stream.isSend ∧ n.initiator = some sender

/-- The streams that a participant was notified to send. -/
def sendNotifications (log : List Notification) (id : Nat) : List Stream :=
  noted (Notification.sends id) log

/-- The streams that a participant was notified to receive from another one. -/
def receiveNotifications (log : List Notification) (id sender : Nat) : List Stream :=
  noted (Notification.receives id sender) log

/-- Streams with mids, no two of which are the same. -/
structure DistinctMids (streams : List Stream) : Prop where
  isSome : ∀ stream ∈ streams, stream.description.mid.isSome
  nodup : (streams.map (·.description.mid)).Nodup

namespace Session

/-- The notes about a participant are its streams, in the order in which they are stored: every one was
notified once. -/
structure MirrorsOf (log : List Notification) (id : Nat) (p : Participant) : Prop where
  sends : sendNotifications log id = p.outgoingStreams
  sendMids : DistinctMids p.outgoingStreams
  receives : ∀ sender, receiveNotifications log id sender = (p.receiver sender).streams
  receiveMids : ∀ sender, DistinctMids (p.receiver sender).streams

/-- The notes about all participants of a session are their streams; no receive stream was notified
without a sender. -/
structure Mirrors (s : Session) (log : List Notification) : Prop where
  participants : ∀ k, s.participantExists k = true → MirrorsOf log k (s.participant k)
  initiators : ∀ n ∈ log, n.stream.isSend = false → n.initiator.isSome

section Notes
variable {p q : Notification → Bool} {log : List Notification} {n : Notification}

theorem noted_append (h : p n = true) : noted p (log ++ [n]) = noted p log ++ [n.stream] := by
  unfold noted
  rw [List.filter_append, List.filter_cons_of_pos h, List.map_append]
  rfl

theorem noted_append_of_not (h : ¬ p n = true) : noted p (log ++ [n]) = noted p log := by
  unfold noted
  rw [List.filter_append, List.filter_cons_of_neg h, List.filter_nil, List.append_nil]

theorem noted_eq_nil (h : ∀ n ∈ log, ¬ p n = true) : noted p log = [] := by
  unfold noted
  rw [List.filter_eq_nil_iff.mpr h]
  rfl

theorem noted_filter (h : ∀ n ∈ log, p n = true → q n = true) :
    noted p (log.filter q) = noted p log := by
  unfold noted
  rw [List.filter_filter]
  congr 1
  apply List.filter_congr
  intro n hn
  cases hp : p n with
  | false => rfl
  | true => rw [h n hn hp]; rfl

end Notes

theorem distinctMids_nil : DistinctMids [] :=
  ⟨fun _ hs => absurd hs List.not_mem_nil, List.nodup_nil⟩

theorem distinctMids_append {streams : List Stream} {stream : Stream} {mid : String}
    (h : DistinctMids streams) (hmid : stream.HasMid mid) (hnew : ∀ s ∈ streams, ¬ s.HasMid mid) :
    DistinctMids (streams ++ [stream]) where
  isSome s hs := by
    rcases List.mem_append.mp hs with hs | hs
    · exact h.isSome s hs
    · rw [List.mem_singleton.mp hs, show stream.description.mid = some mid from hmid]
      rfl
  nodup := by
    rw [List.map_append, List.nodup_append']
    refine ⟨h.nodup, List.nodup_singleton _, ?_⟩
    intro m hm hm'
    obtain ⟨s, hs, rfl⟩ := List.mem_map.mp hm
    exact hnew s hs ((List.mem_singleton.mp hm').trans hmid)

/-! ## Changes keep the mirror -/

/-- The notes mirror the streams, and are about participants that are there. -/
structure Held (s : Session) (log : List Notification) : Prop where
  consistent : Consistent s
  mirrors : Mirrors s log
  current : ∀ n ∈ log, s.participantExists n.participantId = true

section Held
variable {s s' : Session} {log log' : List Notification}

theorem mirrorsOf_other {n : Notification} {k : Nat} {p : Participant}
    (h : MirrorsOf log k p) (hk : k ≠ n.participantId) : MirrorsOf (log ++ [n]) k p where
  sends := by
    unfold sendNotifications
    rw [noted_append_of_not fun hn => hk (of_decide_eq_true hn).1.symm]
    exact h.sends
  sendMids := h.sendMids
  receives sender := by
    unfold receiveNotifications
    rw [noted_append_of_not fun hn => hk (of_decide_eq_true hn).1.symm]
    exact h.receives sender
  receiveMids := h.receiveMids

/-- A change of one participant, with or without a note about it. -/
theorem Held.update {id : Nat} {f : Participant → Participant} (h : Held s log)
    (hconsistent : Consistent (s.update id f))
    (hself : MirrorsOf log' id (f (s.participant id)))
    (hother : ∀ k, k ≠ id → s.participantExists k = true → MirrorsOf log' k (s.participant k))
    (hlog : ∀ n ∈ log', n ∈ log ∨ n.participantId = id ∧ (n.stream.isSend = false → n.initiator.isSome)) :
    Held (s.update id f) log' where
  consistent := hconsistent
  mirrors :=
    { participants := fun k hk => by
        by_cases heq : k = id
        · rw [heq, participant_update_self]
          exact hself
        · rw [participant_update_of_ne heq]
          exact hother k heq ((participantExists_update.mp hk).resolve_left heq)
      initiators := fun n hn hreceive => (hlog n hn).elim
        (fun hn => h.mirrors.initiators n hn hreceive) fun hn => hn.2 hreceive }
  current n hn := participantExists_update.mpr <| (hlog n hn).elim
    (fun hn => .inr (h.current n hn)) fun hn => .inl hn.1

theorem Held.quiet (h : Held s log) (hchange : Change s none s') : Held s' log := by
  have hconsistent := h.consistent.change hchange
  cases hchange with
  | other hexists hf =>
      have hself := h.mirrors.participants _ hexists
      refine h.update hconsistent ⟨?_, ?_, ?_, ?_⟩ (fun k _ hk => h.mirrors.participants k hk)
        fun n hn => .inl hn
      · rw [hf.sent]
        exact hself.sends
      · rw [hf.sent]
        exact hself.sendMids
      · intro sender
        rw [hf.received]
        exact hself.receives sender
      · intro sender
        rw [hf.received]
        exact hself.receiveMids sender

theorem Held.nextId (h : Held s log) (n : Nat) :
    Held ({ s with nextParticipantId := n } : Session) log :=
  ⟨⟨h.consistent.ids, h.consistent.sends⟩, ⟨h.mirrors.participants, h.mirrors.initiators⟩, h.current⟩

theorem Held.joined {ip : String} {port : UInt16} (h : Held s log)
    (hnew : ¬ s.participantExists s.nextId = true) : Held (s.joined ip port) log := by
  have habsent : ∀ n ∈ log, n.participantId ≠ s.nextId := fun n hn heq => hnew (heq ▸ h.current n hn)
  refine (h.nextId s.nextId).update h.consistent.joined
    ⟨?_, distinctMids_nil, fun sender => ?_, fun sender => distinctMids_nil⟩
    (fun k _ hk => h.mirrors.participants k hk) fun n hn => .inl hn
  · exact noted_eq_nil fun n hn hsends => habsent n hn (of_decide_eq_true hsends).1
  · exact noted_eq_nil fun n hn hreceives => habsent n hn (of_decide_eq_true hreceives).1

theorem Held.told {n : Notification} (h : Held s log) (hchange : Change s (some n) s') :
    Held s' (log ++ [n]) := by
  have hconsistent := h.consistent.change hchange
  have hlog : (n.stream.isSend = false → n.initiator.isSome) →
      ∀ m ∈ log ++ [n], m ∈ log ∨ m.participantId = n.participantId ∧
        (m.stream.isSend = false → m.initiator.isSome) := by
    intro hn m hm
    rcases List.mem_append.mp hm with hm | hm
    · exact .inl hm
    · obtain rfl := List.mem_singleton.mp hm
      exact .inr ⟨rfl, hn⟩
  cases hchange with
  | @send _ id stream mid hexists hsend hmid hnew hs' =>
      have hself := h.mirrors.participants id hexists
      have hfresh : ∀ s' ∈ (s.participant id).outgoingStreams, ¬ s'.HasMid mid :=
        fun s' hs' hmid' => hnew (Transceiver.hasStreamWithMid_iff.mpr ⟨s', hs', hmid'⟩)
      generalize s'.initiator = initiator at hlog ⊢
      subst hs'
      refine h.update hconsistent ⟨?_, ?_, fun sender => ?_, hself.receiveMids⟩
        (fun k hk hexists => mirrorsOf_other (h.mirrors.participants k hexists) hk)
        (hlog fun hreceive => nomatch hreceive.symm.trans hsend)
      · rw [Participant.outgoingStreams_addOutgoingStream, ← hself.sends]
        exact noted_append (decide_eq_true ⟨rfl, hsend⟩)
      · rw [Participant.outgoingStreams_addOutgoingStream]
        exact distinctMids_append hself.sendMids hmid hfresh
      · refine Eq.trans ?_ (hself.receives sender)
        exact noted_append_of_not fun hn => (of_decide_eq_true hn).2.1 hsend
  | @receive _ id sender stream sent mid hexists hsender hsent hsentMid hreceives hmid hnew hs'
      hinitiator =>
      have hself := h.mirrors.participants id hexists
      have hfresh : ∀ s' ∈ ((s.participant id).receiver sender).streams, ¬ s'.HasMid mid :=
        fun s' hs' hmid' => hnew (Transceiver.hasStreamWithMid_iff.mpr ⟨s', hs', hmid'⟩)
      have hreceive : ¬ stream.isSend = true := by
        rw [hreceives.receive]
        exact Bool.false_ne_true
      rw [hinitiator] at hlog ⊢
      subst hs'
      refine h.update hconsistent ⟨?_, hself.sendMids, fun j => ?_, fun j => ?_⟩
        (fun k hk hexists => mirrorsOf_other (h.mirrors.participants k hexists) hk)
        (hlog fun _ => rfl)
      · refine Eq.trans ?_ hself.sends
        exact noted_append_of_not fun hn => hreceive (of_decide_eq_true hn).2
      · by_cases hj : j = sender
        · rw [hj, Participant.receiver_updateReceiver_self]
          show _ = ((s.participant id).receiver sender).streams ++ [stream]
          rw [← hself.receives sender]
          exact noted_append (decide_eq_true ⟨rfl, hreceive, rfl⟩)
        · rw [Participant.receiver_updateReceiver_of_ne hj, ← hself.receives j]
          exact noted_append_of_not fun hn => hj (Option.some.inj (of_decide_eq_true hn).2.2).symm
      · by_cases hj : j = sender
        · rw [hj, Participant.receiver_updateReceiver_self]
          exact distinctMids_append (hself.receiveMids sender) hmid hfresh
        · rw [Participant.receiver_updateReceiver_of_ne hj]
          exact hself.receiveMids j

end Held

/-! ## Runs -/

/-- The callback `f`, with notes of its calls. -/
def observed {τ ω : Type} (f : Session → Nat → Stream → Eff τ ω Fault Unit) :
    Session → Nat → Stream → Eff (List Notification × τ) ω Fault Unit :=
  fun s id stream => do
    Eff.modify fun t => (t.1 ++ [⟨id, s.initiator, stream⟩], t.2)
    Eff.zoom Prod.snd (fun t s => (s.1, t)) (fun w => w) (f s id stream)

/-- Whether the participant of an operation is there, which the caller checks. -/
def Op.participantExists (s : Session) : Op → Bool
  | .addParticipant _ _ => true
  | .removeParticipant id => s.participantExists id
  | .addOffer fromId _ => s.participantExists fromId
  | .getOffer forId => s.participantExists forId
  | .addAnswer fromId _ => s.participantExists fromId
  | .getAnswer forId => s.participantExists forId

/-- Forget the notes about participants that have left: their ids may be given again. -/
def forget {τ : Type} (s : Session × (List Notification × τ)) : Session × (List Notification × τ) :=
  (s.1, (s.2.1.filter fun n => s.1.participantExists n.participantId, s.2.2))

section Runs
variable {τ ω : Type} (f : Session → Nat → Stream → Eff τ ω Fault Unit)

/-- One operation of a caller that checks first, and catches exceptions. -/
def checkedStep (s : Session × (List Notification × τ)) (op : Op) :
    (Session × (List Notification × τ)) × (List ω × Except Fault Unit) :=
  if op.participantExists s.1 then
    let out := step (some (observed f)) s op
    (forget out.1, out.2)
  else (s, ([], .ok ()))

variable {f}

theorem observed_held : KeptBy (observed f) fun s (t : List Notification × τ) => Held s t.1 where
  quiet h hchange := h.quiet hchange
  told {s s' t n} h hchange _ := by
    have hinitiator : n.initiator = s'.initiator := by
      cases hchange with
      | send => rfl
      | receive => rfl
    have hn : n = ⟨n.participantId, s'.initiator, n.stream⟩ := by
      rw [← hinitiator]
    show Held s' (t.1 ++ [⟨n.participantId, s'.initiator, n.stream⟩])
    rw [← hn]
    exact h.told hchange

theorem observed_neverThrows (hf : NeverThrows f) : NeverThrows (observed f) :=
  fun s id stream t => hf s id stream t.2

theorem Held.forget {s : Session × (List Notification × τ)} (hconsistent : Consistent s.1)
    (hmirrors : Mirrors s.1 s.2.1) : Held (forget s).1 (Session.forget s).2.1 where
  consistent := hconsistent
  mirrors :=
    { participants := fun k hk => by
        have h := hmirrors.participants k hk
        refine ⟨?_, h.sendMids, fun sender => ?_, h.receiveMids⟩
        · refine Eq.trans (noted_filter fun n _ hn => ?_) h.sends
          rw [(of_decide_eq_true hn).1]
          exact hk
        · refine Eq.trans (noted_filter fun n _ hn => ?_) (h.receives sender)
          rw [(of_decide_eq_true hn).1]
          exact hk
      initiators := fun n hn => hmirrors.initiators n (List.mem_of_mem_filter hn) }
  current n hn := (List.mem_filter.mp hn).2

theorem Mirrors.erase {s : Session} {log : List Notification} (h : Mirrors s log) (id : Nat) :
    Mirrors (s.erase id) log where
  participants k hk := by
    obtain ⟨hne, hk⟩ := participantExists_erase.mp hk
    rw [participant_erase_of_ne hne]
    exact h.participants k hk
  initiators := h.initiators

theorem step_mirrors (hf : NeverThrows f) {s : Session × (List Notification × τ)} (op : Op)
    (h : Held s.1 s.2.1) (hexists : op.participantExists s.1 = true) :
    Consistent (step (some (observed f)) s op).1.1 ∧
      Mirrors (step (some (observed f)) s op).1.1 (step (some (observed f)) s op).1.2.1 := by
  have hval : ∀ {α : Type} {m : SessionEff (List Notification × τ) ω α},
      Makes (observed f) (fun s t => Held s t.1) (fun _ => True) m (fun _ => True) →
      Held ((m >>= fun _ => pure () : SessionEff _ ω Unit) s).state.1
        ((m >>= fun _ => pure () : SessionEff _ ω Unit) s).state.2.1 := by
    intro α m hm
    rw [Eff.state_bind_pure]
    exact hm.keeps (observed_neverThrows hf) h trivial
  cases op with
  | addParticipant ip port =>
      have h' : Held ((Session.addParticipant ip port s : Outcome _ ω _ _).state.1)
          (Session.addParticipant ip port s : Outcome _ ω _ _).state.2.1 := by
        refine Eff.Triple.ends (C := fun s => Held s.1 s.2.1) ((addParticipant_joins s).mono
          (fun _ h => h) ?_ ?_) rfl
        · rintro - s' ⟨rfl, hnew, rfl⟩
          exact h.joined hnew
        · rintro - s' ⟨n, rfl⟩
          exact h.nextId n
      show Consistent ((Session.addParticipant ip port >>= fun _ => pure () :
          SessionEff _ ω Unit) s).state.1 ∧ Mirrors ((Session.addParticipant ip port >>= fun _ =>
            pure () : SessionEff _ ω Unit) s).state.1 ((Session.addParticipant ip port >>= fun _ =>
              pure () : SessionEff _ ω Unit) s).state.2.1
      rw [Eff.state_bind_pure]
      exact ⟨h'.consistent, h'.mirrors⟩
  | removeParticipant id =>
      show Consistent (Session.removeParticipant id s : Outcome _ ω _ _).state.1 ∧
        Mirrors (Session.removeParticipant id s : Outcome _ ω _ _).state.1
          (Session.removeParticipant id s : Outcome _ ω _ _).state.2.1
      rw [removeParticipant_run hexists]
      exact ⟨h.consistent.erase id, h.mirrors.erase id⟩
  | addOffer fromId offer =>
      have h' := (@addOffer_makes _ _ _ _ fromId observed_held offer).keeps
        (observed_neverThrows hf) h trivial
      exact ⟨h'.consistent, h'.mirrors⟩
  | getOffer forId =>
      have h' := hval (@getOffer_makes _ _ _ _ forId observed_held)
      exact ⟨h'.consistent, h'.mirrors⟩
  | addAnswer fromId answer =>
      have h' := (@addAnswer_makes _ _ _ _ fromId observed_held answer).keeps
        (observed_neverThrows hf) h ⟨h.consistent, hexists⟩
      exact ⟨h'.consistent, h'.mirrors⟩
  | getAnswer forId =>
      have h' := hval (@getAnswer_makes _ _ _ _ forId observed_held)
      exact ⟨h'.consistent, h'.mirrors⟩

theorem checkedStep_held (hf : NeverThrows f) {s : Session × (List Notification × τ)} (op : Op)
    (h : Held s.1 s.2.1) : Held (checkedStep f s op).1.1 (checkedStep f s op).1.2.1 := by
  unfold checkedStep
  split
  · obtain ⟨hconsistent, hmirrors⟩ := step_mirrors hf op h ‹_›
    exact Held.forget hconsistent hmirrors
  · exact h

/-- **Notifications mirror the streams.** In a run of operations, thrown exceptions included, the notes
about every participant are at any time its send streams and its receive streams, with distinct
mids. -/
theorem notifications_mirror (hf : NeverThrows f) (id : Nat) (sfuConfig : SFUConfig) (t : τ)
    (ops : List Op) :
    Always (fun s => Mirrors s.1 s.2.1) (checkedStep f) ({ id, sfuConfig }, ([], t)) ops := by
  have hinit : Held { id, sfuConfig } [] := by
    have hnone : ∀ {k}, ¬ ({ id, sfuConfig } : Session).participantExists k = true :=
      not_participantExists_new
    exact ⟨consistent_new,
      ⟨fun k hk => absurd hk hnone, fun n hn => absurd hn List.not_mem_nil⟩,
      fun n hn => absurd hn List.not_mem_nil⟩
  have hall : Always (fun s => Held s.1 s.2.1) (checkedStep f) ({ id, sfuConfig }, ([], t)) ops :=
    Along.always (P := fun _ _ => True) (fun _ op h _ => checkedStep_held hf op h)
      (Along.of_forall (fun _ _ => trivial) _ _) hinit
  exact hall.mono fun _ h => h.mirrors

end Runs

/-- A participant offers an audio stream, another one answers, and the first one offers again. -/
def offerAndAnswer : List Op :=
  let media (direction : Direction) : Sdp.MediaDescription :=
    { type := .audio, mid := some "0", direction := some direction
      iceCandidates := [{ address := "10.0.0.1", port := 7000 }]
      iceUfrag := some "u", icePwd := some "p", connectionData := some {}
      ssrcDescription := some { ssrcs := [{ ssrc := 5 }] } }
  [.addParticipant "127.0.0.1" 1, .addParticipant "127.0.0.1" 2,
    .addOffer 1 { mediaDescriptions := [media .sendonly] }, .getOffer 2,
    .addAnswer 2 { mediaDescriptions := [media .recvonly] }, .getAnswer 1,
    .addOffer 1 { mediaDescriptions := [media .sendonly] }]

theorem notifications_mirror_offerAndAnswer :
    Always (fun s : Session × (List Notification × Unit) => Mirrors s.1 s.2.1)
      (checkedStep (fun _ _ _ => (pure () : Eff Unit Unit Fault Unit)))
      ({ id := 0, sfuConfig := SFUConfig.of "1.2.3.4" 3202 "7Ad/" "UKZe" ⟨0, 0⟩ }, ([], ()))
      offerAndAnswer :=
  notifications_mirror (fun _ _ _ _ => rfl) 0 _ () offerAndAnswer

end Session

end Scallop
