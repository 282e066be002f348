import Scallop.Controller.Stream
import Scallop.Lib.Eff

/-!
# Signaling sessions

`p4sfu::Participant` of `lib/participant.{h,cc}` and `p4sfu::Session` of `lib/session.{h,cc}`.

* `Transceiver`, `Participant`, `SignalingState`, `Session`;
* `Session.participant`, `Session.update` : `std::map::operator[]`, which adds a participant that is not there;
* `SessionEff` : programs on a session that may call the new-stream callback, which has a state of its
  own and sees the session, but cannot change it;
* `addParticipant`, `removeParticipant`, `addOffer`, `getOffer`, `addAnswer`, `getAnswer`; what they
  changed before an exception stays.
-/

namespace Scallop

structure Transceiver where
  streams : List Stream := []
  iceCandidates : List Sdp.ICECandidate := []
deriving DecidableEq

inductive SignalingState where
  | stable
  | gotOffer
  | awaitAnswer
deriving DecidableEq, Repr

structure Participant where
  id : Nat := 0
  controlIp : String := ""
  controlPort : UInt16 := 0
  sender : Transceiver := {}
  receivers : Std.ExtTreeMap Nat Transceiver := ∅
  signalingState : SignalingState := .stable
deriving DecidableEq

namespace Transceiver

def addStream (t : Transceiver) (s : Stream) : Transceiver := { t with streams := t.streams ++ [s] }

def addICECandidate (t : Transceiver) (c : Sdp.ICECandidate) : Transceiver :=
  { t with iceCandidates := t.iceCandidates ++ [c] }

def hasICECandidate (t : Transceiver) (c : Sdp.ICECandidate) : Bool := c ∈ t.iceCandidates

def descriptionCandidates (sdp : Sdp.SessionDescription) : List Sdp.ICECandidate :=
  sdp.mediaDescriptions.flatMap (·.iceCandidates)

/-- `updateICECandidatesFromSessionDescription`. -/
def updateICECandidates (t : Transceiver) (sdp : Sdp.SessionDescription) : Transceiver :=
  (descriptionCandidates sdp).foldl
    (fun t c => if t.hasICECandidate c then t else t.addICECandidate c) t

def hasStreamWithMid (t : Transceiver) (mid : String) : Bool := t.streams.any fun s => s.HasMid mid

end Transceiver

namespace Participant

def outgoingStreams (p : Participant) : List Stream := p.sender.streams

def addOutgoingStream (p : Participant) (s : Stream) : Participant :=
  { p with sender := p.sender.addStream s }

@[simp] theorem outgoingStreams_addOutgoingStream (p : Participant) (s : Stream) :
    (p.addOutgoingStream s).outgoingStreams = p.outgoingStreams ++ [s] := rfl

def sendsStreamWithMid (p : Participant) (mid : String) : Bool := p.sender.hasStreamWithMid mid

def sendStreamWithMid (p : Participant) (mid : String) : Except Fault Stream :=
  match p.sender.streams.find? fun s => s.HasMid mid with
  | some s => .ok s
  | none => .error (.logicError
      "Participant: sendStreamWithMid: participant does'nt send this mid")

/-- `_receivers[id]`, for reading. -/
def receiver (p : Participant) (id : Nat) : Transceiver := p.receivers.getD id {}

/-- `_receivers[id]`, for writing. -/
def updateReceiver (p : Participant) (id : Nat) (f : Transceiver → Transceiver) : Participant :=
  { p with receivers := p.receivers.insert id (f (p.receiver id)) }

section Receivers
variable {p : Participant} {id k : Nat} {f : Transceiver → Transceiver}

@[simp] theorem receiver_updateReceiver_self :
    (p.updateReceiver id f).receiver id = f (p.receiver id) :=
  Std.ExtTreeMap.getD_insert_self

theorem receivers_updateReceiver_of_ne (h : k ≠ id) :
    (p.updateReceiver id f).receivers[k]? = p.receivers[k]? := by
  unfold updateReceiver
  rw [Std.ExtTreeMap.getElem?_insert, if_neg (by rw [Nat.compare_eq_eq]; exact h.symm)]

theorem receiver_updateReceiver_of_ne (h : k ≠ id) :
    (p.updateReceiver id f).receiver k = p.receiver k := by
  unfold receiver
  rw [Std.ExtTreeMap.getD_eq_getD_getElem?, receivers_updateReceiver_of_ne h,
    Std.ExtTreeMap.getD_eq_getD_getElem?]

theorem updateReceiver_eq_self (hmem : id ∈ p.receivers) (hf : f (p.receiver id) = p.receiver id) :
    p.updateReceiver id f = p := by
  have hreceivers : p.receivers.insert id (f (p.receiver id)) = p.receivers := by
    apply Std.ExtTreeMap.ext_getElem?
    intro k
    by_cases hk : k = id
    · rw [hk, Std.ExtTreeMap.getElem?_insert_self, hf, receiver,
        Std.ExtTreeMap.getD_eq_getD_getElem?, Std.ExtTreeMap.getElem?_eq_some_getElem hmem,
        Option.getD_some]
    · exact receivers_updateReceiver_of_ne hk
  unfold updateReceiver
  rw [hreceivers]

end Receivers

end Participant

/-- `p4sfu::Session`, without its callback. -/
structure Session where
  id : Nat
  sfuConfig : SFUConfig
  nextParticipantId : Nat := 0
  participants : Std.ExtTreeMap Nat Participant := ∅

namespace Session

section Queries
variable (s : Session)

/-- `participantExists`, at an endpoint. -/
def participantExistsAt (ip : String) (port : UInt16) : Bool :=
  s.participants.toList.any fun e => e.2.controlIp = ip ∧ e.2.controlPort = port

def participantExists (id : Nat) : Bool := s.participants.contains id

def getParticipant (id : Nat) : Except Fault Participant :=
  match s.participants[id]? with
  | some p => .ok p
  | none => .error (.logicError "Session: getParticipant: participant does not exist")

/-- `_participants[id]`, for reading. -/
def participant (id : Nat) : Participant := s.participants.getD id {}

/-- `_participants[id]`, for writing. -/
def update (id : Nat) (f : Participant → Participant) : Session :=
  { s with participants := s.participants.insert id (f (s.participant id)) }

/-- `particpantsInState`: what the participants say their ids are. -/
def particpantsInState (state : SignalingState) : List Nat :=
  (s.participants.toList.filter fun e => e.2.signalingState = state).map fun e => e.2.id

def multipleInState : Fault :=
  .logicError "Session: participantInState: multiple participants in state"

def participantInState (state : SignalingState) : Except Fault Nat :=
  match s.particpantsInState state with
  | [id] => .ok id
  | [] => .error (.logicError "Session: participantInState: no participants in state")
  | _ => .error multipleInState

def signalingActive : Bool := s.participants.toList.any fun e => e.2.signalingState ≠ .stable

def countParticipants : Nat := s.participants.size

def countStreams : Nat := (s.participants.toList.map fun e => e.2.outgoingStreams.length).sum

end Queries

/-! ## Reading and writing participants -/

section Update
variable {s : Session} {id k : Nat} {f : Participant → Participant}

@[simp] theorem participants_update_self :
    (s.update id f).participants[id]? = some (f (s.participant id)) :=
  Std.ExtTreeMap.getElem?_insert_self

theorem participants_update_of_ne (h : k ≠ id) :
    (s.update id f).participants[k]? = s.participants[k]? := by
  unfold update
  rw [Std.ExtTreeMap.getElem?_insert, if_neg (by rw [Nat.compare_eq_eq]; exact h.symm)]

theorem participant_eq : s.participant k = (s.participants[k]?).getD {} :=
  Std.ExtTreeMap.getD_eq_getD_getElem?

@[simp] theorem participant_update_self : (s.update id f).participant id = f (s.participant id) := by
  rw [participant_eq, participants_update_self, Option.getD_some]

theorem participant_update_of_ne (h : k ≠ id) : (s.update id f).participant k = s.participant k := by
  rw [participant_eq, participants_update_of_ne h, participant_eq]

theorem participant_of_some {p : Participant} (h : s.participants[k]? = some p) :
    s.participant k = p := by
  rw [participant_eq, h, Option.getD_some]

theorem participantExists_iff : s.participantExists k = true ↔ (s.participants[k]?).isSome := by
  unfold participantExists
  rw [Std.ExtTreeMap.contains_eq_isSome_getElem?]

theorem not_participantExists_new {sfuConfig : SFUConfig} :
    ¬ ({ id, sfuConfig } : Session).participantExists k = true := by
  unfold participantExists
  rw [Std.ExtTreeMap.contains_empty]
  exact Bool.false_ne_true

theorem participants_of_exists (h : s.participantExists k = true) :
    s.participants[k]? = some (s.participant k) := by
  obtain ⟨p, hp⟩ := Option.isSome_iff_exists.mp (participantExists_iff.mp h)
  rw [participant_of_some hp, hp]

theorem update_eq_self (h : s.participantExists id = true)
    (hf : f (s.participant id) = s.participant id) : s.update id f = s := by
  have hparticipants : s.participants.insert id (f (s.participant id)) = s.participants := by
    apply Std.ExtTreeMap.ext_getElem?
    intro k
    by_cases hk : k = id
    · rw [hk, Std.ExtTreeMap.getElem?_insert_self, hf, participants_of_exists h]
    · exact participants_update_of_ne hk
  unfold update
  rw [hparticipants]

theorem participantExists_update :
    (s.update id f).participantExists k = true ↔ k = id ∨ s.participantExists k = true := by
  rw [participantExists_iff, participantExists_iff]
  by_cases hk : k = id
  · rw [hk, participants_update_self]
    exact ⟨fun _ => .inl rfl, fun _ => rfl⟩
  · rw [participants_update_of_ne hk]
    exact ⟨.inr, fun h => h.resolve_left hk⟩

def erase (s : Session) (id : Nat) : Session := { s with participants := s.participants.erase id }

theorem participants_erase_of_ne (h : k ≠ id) : (s.erase id).participants[k]? = s.participants[k]? := by
  unfold erase
  rw [Std.ExtTreeMap.getElem?_erase, if_neg (by rw [Nat.compare_eq_eq]; exact h.symm)]

theorem participant_erase_of_ne (h : k ≠ id) : (s.erase id).participant k = s.participant k := by
  rw [participant_eq, participants_erase_of_ne h, participant_eq]

theorem participantExists_erase :
    (s.erase id).participantExists k = true ↔ k ≠ id ∧ s.participantExists k = true := by
  rw [participantExists_iff, participantExists_iff]
  by_cases hk : k = id
  · rw [hk]
    unfold erase
    rw [Std.ExtTreeMap.getElem?_erase_self]
    exact ⟨fun h => (nomatch h), fun h => absurd rfl h.1⟩
  · rw [participants_erase_of_ne hk]
    exact ⟨fun h => ⟨hk, h⟩, fun h => h.2⟩

@[simp] theorem sfuConfig_update : (s.update id f).sfuConfig = s.sfuConfig := rfl

@[simp] theorem id_update : (s.update id f).id = s.id := rfl

theorem mem_participants_iff {p : Participant} :
    (k, p) ∈ s.participants.toList ↔ s.participants[k]? = some p :=
  Std.ExtTreeMap.mem_toList_iff_getElem?_eq_some

end Update

end Session

/-- A program on a session, and on the state of its callback. -/
abbrev SessionEff (τ ω α : Type) := Eff (Session × τ) ω Fault α

abbrev OnNewStream (τ ω : Type) := Option (Session → Nat → Stream → Eff τ ω Fault Unit)

namespace Session

/-! ## Participants -/

section Participants
variable {τ ω : Type}

def modify (f : Session → Session) : SessionEff τ ω Unit := Eff.modify fun s => (f s.1, s.2)

def addParticipant (ip : String) (port : UInt16) : SessionEff τ ω Nat := do
  let s ← Eff.get
  Eff.require (¬ s.1.participantExistsAt ip port)
    (.logicError "Session: addParticipant: participant already exists")
  let id := (s.1.nextParticipantId + 1) % 2 ^ 32
  modify fun s => { s with nextParticipantId := id }
  Eff.require (¬ s.1.participantExists id)
    (.runtimeError "Session: addParticipant: failed adding participant")
  modify fun s => { s with
    participants := s.participants.insert id { id, controlIp := ip, controlPort := port } }
  return id

def removeParticipant (id : Nat) : SessionEff τ ω Unit := do
  let s ← Eff.get
  Eff.require (s.1.participantExists id)
    (.logicError "Session: removeParticipant: participant does not exist")
  modify fun s => { s with participants := s.participants.erase id }

theorem removeParticipant_run {s : Session × τ} {id : Nat}
    (h : s.1.participantExists id = true) :
    (removeParticipant id s : Outcome _ ω _ _) = ⟨(s.1.erase id, s.2), [], .ok ()⟩ := by
  unfold removeParticipant
  rw [Eff.get_bind_run, Eff.require_pos h, Eff.pure_bind]
  rfl

end Participants

/-! ## Offers and answers of clients -/

section Receive
variable {τ ω : Type} (onNewStream : OnNewStream τ ω)

def notify (participantId : Nat) (stream : Stream) : SessionEff τ ω Unit := do
  let s ← Eff.get
  match onNewStream with
  | none => Eff.throw (.logicError "Session: addOffer: no new stream callback set")
  | some f => Eff.zoom Prod.snd (fun t s => (s.1, t)) (fun w => w) (f s.1 participantId stream)

/-- A media description with the candidate that was used before, if it has none. -/
def withCandidate (t : Transceiver) (media : Sdp.MediaDescription) :
    Except Fault Sdp.MediaDescription :=
  if media.iceCandidates = [] then
    match t.iceCandidates with
    | [] => .error (.logicError "Session: addOffer: no ice candidates in offer")
    | c :: _ => .ok { media with iceCandidates := [c] }
  else .ok media

/-- The stream that comes of a section of an offer. -/
def newSendStream (s : Session) (fromId : Nat) (media : Sdp.MediaDescription) :
    Except Fault Stream := do
  let media ← withCandidate (s.participant fromId).sender media
  Stream.ofDescription media s.sfuConfig

/-- The body of the loop of `addOffer`. -/
def addOfferMedia (fromId : Nat) (media : Sdp.MediaDescription) : SessionEff τ ω Unit :=
  if media.direction = some .sendonly then
    match media.mid with
    | none => Eff.throw .emptyOptional
    | some mid => do
        let s ← Eff.get
        if (s.1.participant fromId).sendsStreamWithMid mid then return ()
        else do
          let stream ← Eff.ofExcept (s.1.newSendStream fromId media)
          modify fun s => s.update fromId fun p => p.addOutgoingStream stream
          notify onNewStream fromId stream
  else return ()

/-- The loop of `addOffer`. -/
def addOfferMedias (fromId : Nat) : List Sdp.MediaDescription → SessionEff τ ω Unit
  | [] => return ()
  | media :: medias => do
      addOfferMedia onNewStream fromId media
      addOfferMedias fromId medias

def addOffer (fromId : Nat) (offer : Sdp.SessionDescription) : SessionEff τ ω Unit := do
  let s ← Eff.get
  Eff.require (s.1.participantExists fromId)
    (.logicError "Session: addOffer: participant does not exist")
  Eff.require (¬ s.1.signalingActive)
    (.logicError "Session: addOffer: there is already an active signaling session")
  modify fun s => s.update fromId fun p => { p with sender := p.sender.updateICECandidates offer }
  addOfferMedias onNewStream fromId offer.mediaDescriptions
  modify fun s => s.update fromId fun p => { p with signalingState := .gotOffer }

/-- The SSRCs of a stream that the participant `initKey` sends; that they are there is asserted. -/
def sendSSRCs (s : Session) (initKey : Nat) (mid : String) : Except Fault Sdp.SSRCDescription := do
  let stream ← (s.participant initKey).sendStreamWithMid mid
  Stream.deref stream.description.ssrcDescription

theorem sendSSRCs_congr {s s' : Session} {init : Nat} {mid : String}
    (h : (s'.participant init).outgoingStreams = (s.participant init).outgoingStreams) :
    s'.sendSSRCs init mid = s.sendSSRCs init mid := by
  unfold sendSSRCs Participant.sendStreamWithMid
  unfold Participant.outgoingStreams at h
  rw [h]

/-- The stream that comes of a section of an answer, for the streams of the participant `offerId`. -/
def newReceiveStream (s : Session) (offerId fromId : Nat) (media : Sdp.MediaDescription)
    (ssrcs : Sdp.SSRCDescription) : Except Fault Stream := do
  let media ← withCandidate ((s.participant fromId).receiver offerId) media
  Stream.ofDescription media s.sfuConfig ssrcs

/-- The body of the second loop of `addAnswer`: `initKey` is the key of the participant whose offer is
answered, and `offerId` what it says its id is. -/
def addAnswerMedia (initKey offerId fromId : Nat) (media : Sdp.MediaDescription) :
    SessionEff τ ω Unit :=
  match media.mid with
  | none => Eff.throw (.logicError "Session: addAnswer: answer media desc. does not have mid")
  | some mid => do
      let s ← Eff.get
      let ssrcs ← Eff.ofExcept (s.1.sendSSRCs initKey mid)
      -- `_receivers[offerFrom._id]`
      modify fun s => s.update fromId fun p => p.updateReceiver offerId fun r => r
      let s ← Eff.get
      let stream ← Eff.ofExcept (s.1.newReceiveStream offerId fromId media ssrcs)
      if ((s.1.participant fromId).receiver offerId).hasStreamWithMid mid then return ()
      else do
        modify fun s => s.update fromId fun p => p.updateReceiver offerId fun r => r.addStream stream
        notify onNewStream fromId stream

/-- The second loop of `addAnswer`. -/
def addAnswerMedias (initKey offerId fromId : Nat) :
    List Sdp.MediaDescription → SessionEff τ ω Unit
  | [] => return ()
  | media :: medias => do
      addAnswerMedia onNewStream initKey offerId fromId media
      addAnswerMedias initKey offerId fromId medias

/-- The first loop of `addAnswer`. -/
def addAnswerCandidates (p : Participant) (offerId : Nat) (answer : Sdp.SessionDescription) :
    Participant :=
  (Transceiver.descriptionCandidates answer).foldl
    (fun p c => p.updateReceiver offerId fun r => r.addICECandidate c) p

def addAnswer (fromId : Nat) (answer : Sdp.SessionDescription) : SessionEff τ ω Unit := do
  let s ← Eff.get
  let initKey ← Eff.ofExcept (s.1.participantInState .gotOffer)
  -- `_participants[..]`, twice
  modify fun s => (s.update initKey fun p => p).update fromId fun p => p
  let s ← Eff.get
  let offerId := (s.1.participant initKey).id
  Eff.require ((s.1.participant fromId).signalingState = .awaitAnswer)
    (.logicError "Session: addAnswer: unexpected answer")
  modify fun s => s.update fromId fun p => addAnswerCandidates p offerId answer
  addAnswerMedias onNewStream initKey offerId fromId answer.mediaDescriptions
  modify fun s => s.update fromId fun p => { p with signalingState := .stable }

end Receive

/-! ## What a section of an offer or an answer comes to -/

section Sections
variable {τ ω : Type} {onNewStream : OnNewStream τ ω} {s : Session × τ} {fromId : Nat}
variable {media : Sdp.MediaDescription} {mid : String}

theorem addOfferMedia_of_direction (hdir : media.direction ≠ some .sendonly) :
    addOfferMedia onNewStream fromId media s = ⟨s, [], .ok ()⟩ := by
  unfold addOfferMedia
  rw [if_neg hdir]
  rfl

theorem addOfferMedia_of_no_mid (hdir : media.direction = some .sendonly) (hmid : media.mid = none) :
    addOfferMedia onNewStream fromId media s = ⟨s, [], .error .emptyOptional⟩ := by
  unfold addOfferMedia
  rw [if_pos hdir, hmid]
  rfl

theorem addOfferMedia_of_sent (hdir : media.direction = some .sendonly) (hmid : media.mid = some mid)
    (hsent : (s.1.participant fromId).sendsStreamWithMid mid = true) :
    addOfferMedia onNewStream fromId media s = ⟨s, [], .ok ()⟩ := by
  unfold addOfferMedia
  rw [if_pos hdir, hmid]
  dsimp only
  rw [Eff.get_bind_run, if_pos hsent]
  rfl

theorem addOfferMedia_of_error {e : Fault} (hdir : media.direction = some .sendonly)
    (hmid : media.mid = some mid) (hsent : ¬ (s.1.participant fromId).sendsStreamWithMid mid = true)
    (herr : s.1.newSendStream fromId media = .error e) :
    addOfferMedia onNewStream fromId media s = ⟨s, [], .error e⟩ := by
  unfold addOfferMedia
  rw [if_pos hdir, hmid]
  dsimp only
  rw [Eff.get_bind_run, if_neg hsent, herr]
  rfl

theorem addOfferMedia_of_new {stream : Stream} (hdir : media.direction = some .sendonly)
    (hmid : media.mid = some mid) (hsent : ¬ (s.1.participant fromId).sendsStreamWithMid mid = true)
    (hnew : s.1.newSendStream fromId media = .ok stream) :
    addOfferMedia onNewStream fromId media s = notify onNewStream fromId stream
      (s.1.update fromId fun p => p.addOutgoingStream stream, s.2) := by
  unfold addOfferMedia
  rw [if_pos hdir, hmid]
  dsimp only
  rw [Eff.get_bind_run, if_neg hsent, hnew]
  rfl

/-- `_receivers[offerId]` of the participant `fromId`, which adds it. -/
def touchReceiver (s : Session) (offerId fromId : Nat) : Session :=
  s.update fromId fun p => p.updateReceiver offerId fun r => r

variable {initKey offerId : Nat} {ssrcs : Sdp.SSRCDescription}

theorem newReceiveStream_touchReceiver :
    (s.1.touchReceiver offerId fromId).newReceiveStream offerId fromId media ssrcs =
      s.1.newReceiveStream offerId fromId media ssrcs := by
  unfold newReceiveStream touchReceiver
  rw [participant_update_self, Participant.receiver_updateReceiver_self, sfuConfig_update]

theorem addAnswerMedia_of_no_mid (hmid : media.mid = none) :
    addAnswerMedia onNewStream initKey offerId fromId media s =
      ⟨s, [], .error (.logicError "Session: addAnswer: answer media desc. does not have mid")⟩ := by
  unfold addAnswerMedia
  rw [hmid]
  rfl

theorem addAnswerMedia_of_unknown {e : Fault} (hmid : media.mid = some mid)
    (hssrcs : s.1.sendSSRCs initKey mid = .error e) :
    addAnswerMedia onNewStream initKey offerId fromId media s = ⟨s, [], .error e⟩ := by
  unfold addAnswerMedia
  rw [hmid]
  dsimp only
  rw [Eff.get_bind_run, hssrcs]
  rfl

theorem addAnswerMedia_of_known (hmid : media.mid = some mid)
    (hssrcs : s.1.sendSSRCs initKey mid = .ok ssrcs) :
    addAnswerMedia onNewStream initKey offerId fromId media s = (do
      let stream ← Eff.ofExcept (s.1.newReceiveStream offerId fromId media ssrcs)
      if ((s.1.participant fromId).receiver offerId).hasStreamWithMid mid then return ()
      else do
        modify fun s => s.update fromId fun p => p.updateReceiver offerId fun r => r.addStream stream
        notify onNewStream fromId stream : SessionEff τ ω Unit)
      (s.1.touchReceiver offerId fromId, s.2) := by
  have hreceiver : ((s.1.touchReceiver offerId fromId).participant fromId).receiver offerId =
      (s.1.participant fromId).receiver offerId := by
    unfold touchReceiver
    rw [participant_update_self, Participant.receiver_updateReceiver_self]
  rw [← newReceiveStream_touchReceiver, ← hreceiver]
  unfold addAnswerMedia
  rw [hmid]
  dsimp only
  rw [Eff.get_bind_run, hssrcs]
  rfl

theorem addAnswerMedia_of_error {e : Fault} (hmid : media.mid = some mid)
    (hssrcs : s.1.sendSSRCs initKey mid = .ok ssrcs)
    (herr : s.1.newReceiveStream offerId fromId media ssrcs = .error e) :
    addAnswerMedia onNewStream initKey offerId fromId media s =
      ⟨(s.1.touchReceiver offerId fromId, s.2), [], .error e⟩ := by
  rw [addAnswerMedia_of_known hmid hssrcs, herr]
  rfl

theorem addAnswerMedia_of_received {stream : Stream} (hmid : media.mid = some mid)
    (hssrcs : s.1.sendSSRCs initKey mid = .ok ssrcs)
    (hnew : s.1.newReceiveStream offerId fromId media ssrcs = .ok stream)
    (hreceived : ((s.1.participant fromId).receiver offerId).hasStreamWithMid mid = true) :
    addAnswerMedia onNewStream initKey offerId fromId media s =
      ⟨(s.1.touchReceiver offerId fromId, s.2), [], .ok ()⟩ := by
  rw [addAnswerMedia_of_known hmid hssrcs, hnew, Eff.ofExcept_ok_bind, if_pos hreceived]
  rfl

theorem addAnswerMedia_of_new {stream : Stream} (hmid : media.mid = some mid)
    (hssrcs : s.1.sendSSRCs initKey mid = .ok ssrcs)
    (hnew : s.1.newReceiveStream offerId fromId media ssrcs = .ok stream)
    (hreceived : ¬ ((s.1.participant fromId).receiver offerId).hasStreamWithMid mid = true) :
    addAnswerMedia onNewStream initKey offerId fromId media s = notify onNewStream fromId stream
      ((s.1.touchReceiver offerId fromId).update fromId fun p =>
        p.updateReceiver offerId fun r => r.addStream stream, s.2) := by
  rw [addAnswerMedia_of_known hmid hssrcs, hnew, Eff.ofExcept_ok_bind, if_neg hreceived]
  rfl

end Sections

/-! ## Offers and answers of the controller -/

section Send
variable {τ ω : Type}

/-- A stream in an offer or an answer of the controller: the feedback and the extensions are those of
the configuration, except that retransmissions have no feedback. -/
def forwardedMedia (cfg : SFUConfig) (direction : Direction) (s : Stream) :
    Except Fault Sdp.MediaDescription := do
  let media ← s.offer cfg
  match s.description.type with
  | .video =>
      return { media with
        direction := some direction
        extensions := cfg.videoRTPExtensions
        mediaFormats := media.mediaFormats.map fun format =>
          if format.codec ≠ "rtx" then { format with fbTypes := cfg.videoFbTypes } else format }
  | .audio =>
      return { media with
        direction := some direction
        extensions := cfg.audioRTPExtensions
        mediaFormats := media.mediaFormats.map fun format =>
          { format with fbTypes := cfg.audioFbTypes } }

def addMedia (d : Sdp.SessionDescription) (medias : List Sdp.MediaDescription) :
    Sdp.SessionDescription :=
  { d with mediaDescriptions := d.mediaDescriptions ++ medias }

def getOffer (forId : Nat) : SessionEff τ ω Sdp.SessionDescription := do
  let s ← Eff.get
  Eff.require (s.1.participantExists forId)
    (.logicError "Session: getOffer: participant does not exist")
  modify fun s => s.update forId fun p => { p with signalingState := .awaitAnswer }
  let s ← Eff.get
  let initPartId ← Eff.ofExcept (s.1.participantInState .gotOffer)
  let initPart ← Eff.ofExcept (s.1.getParticipant initPartId)
  let medias ← Eff.ofExcept
    (initPart.outgoingStreams.mapM (forwardedMedia s.1.sfuConfig .sendonly))
  return addMedia s.1.sfuConfig.sessionTemplate medias

/-- A stream in an answer, without what only its sender knows. -/
def answeredMedia (cfg : SFUConfig) (s : Stream) : Except Fault Sdp.MediaDescription := do
  let media ← forwardedMedia cfg .recvonly s
  return { media with ssrcDescription := none, msid := none }

def getAnswer (forId : Nat) : SessionEff τ ω Sdp.SessionDescription := do
  let s ← Eff.get
  Eff.require (s.1.participantExists forId)
    (.logicError "Session: getAnswer: participant does not exist")
  Eff.require ((s.1.participant forId).signalingState = .gotOffer)
    (.logicError "Session: getAnswer: no previous offer")
  let template := s.1.sfuConfig.sessionTemplate
  let medias ← Eff.ofExcept
    ((s.1.participant forId).outgoingStreams.mapM (answeredMedia s.1.sfuConfig))
  modify fun s => s.update forId fun p => { p with signalingState := .stable }
  return addMedia { template with origin := { template.origin with sessionId := s.1.id } } medias

end Send

end Session

end Scallop
