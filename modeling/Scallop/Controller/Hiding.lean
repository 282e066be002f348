import Scallop.Controller.Changes
import Scallop.Lib.TwoRun
import Scallop.Sdp.Transport

/-!
# What a session hides of a participant

* `passedOn` : what `Stream::offer` takes of a section, and `kept` : what it does not replace of the
  transport part; `Stream.printed_offer` : two streams whose sections agree on it are offered alike;
* `Session.Alike` : two sessions that differ in what the streams do not pass on, and in the candidates;
* `TwoRun` : one lemma for each operation of a session;
* `Call`, `returned` : runs of a session, and what its calls return up to the first exception;
* `returned_eq` : where two runs differ in the transport part of the offers only, and the new streams
  of an offer agree in what is kept of it, every call returns the same text.
-/

namespace Scallop

namespace Sdp.MediaDescription

/-- What a stream passes on of its section: all that is printed and not replaced. -/
def passedOn (m : MediaDescription) : MediaDescription :=
  { m with
    port := 0
    connectionData := m.connectionData.map fun c => { c with connectionAddress := "" }
    iceCandidates := []
    iceUfrag := none
    icePwd := none
    otherLines := [] }

/-- What is passed on of the transport part. -/
def kept (m : MediaDescription) :
    Option RTCPConfiguration × List String × Option (String × String) :=
  (m.rtcpConfiguration, m.iceOtherLines, m.connectionData.map fun c => (c.netType, c.addrType))

variable {m₁ m₂ : MediaDescription}

theorem passedOn_of_kept (h : m₁.withoutTransport = m₂.withoutTransport)
    (hkept : m₁.kept = m₂.kept) : m₁.passedOn = m₂.passedOn := by
  have hpassed (m : MediaDescription) : m.passedOn = { m.withoutTransport with
      rtcpConfiguration := m.kept.1
      iceOtherLines := m.kept.2.1
      connectionData := m.kept.2.2.map fun t => { netType := t.1, addrType := t.2 } } := by
    unfold passedOn kept
    rw [Option.map_map]
    rfl
  rw [hpassed, hpassed, h, hkept]

end Sdp.MediaDescription

namespace Sdp

theorem SessionDescription.lines_printed (d : SessionDescription) : d.printed.lines = d.lines := by
  unfold SessionDescription.lines SessionDescription.checkLines SessionDescription.bundleLine
    SessionDescription.printed
  dsimp only
  rw [List.all_map, List.flatMap_map, List.map_map]
  simp only [ne_eq, List.map_eq_nil_iff]
  rfl

/-- What is not printed does not matter for the text. -/
theorem SessionDescription.escapedString_of_printed {d₁ d₂ : SessionDescription}
    (h : d₁.printed = d₂.printed) : d₁.escapedString = d₂.escapedString := by
  unfold SessionDescription.escapedString
  rw [← d₁.lines_printed, h, d₂.lines_printed]

end Sdp

open Sdp (MediaDescription SessionDescription)

/-! ## Streams -/

namespace Stream

variable {s₁ s₂ : Stream} {m₁ m₂ : MediaDescription} {cfg : SFUConfig}

theorem printed_offer (h : s₁.description.passedOn = s₂.description.passedOn)
    (h₁ : s₁.offer cfg = .ok m₁) (h₂ : s₂.offer cfg = .ok m₂) : m₁.printed = m₂.printed := by
  have hoffer {s : Stream} {m : MediaDescription} (hm : s.offer cfg = .ok m) :
      m.printed = { s.description.passedOn with
        port := cfg.port
        connectionData := s.description.passedOn.connectionData.map fun c =>
          { c with connectionAddress := cfg.ip }
        iceCandidates := [cfg.iceCandidate]
        iceUfrag := some cfg.iceUfrag
        icePwd := some cfg.icePwd } := by
    unfold offer at hm
    cases hc : s.description.connectionData with
    | none =>
        rw [hc] at hm
        exact nomatch hm
    | some c =>
        rw [hc] at hm
        obtain rfl := Except.ok.inj hm
        unfold MediaDescription.passedOn MediaDescription.printed
        dsimp only
        rw [hc]
        rfl
  rw [hoffer h₁, hoffer h₂, h]

end Stream

namespace Session

theorem printed_forwardedMedia {s₁ s₂ : Stream} {m₁ m₂ : MediaDescription} {cfg : SFUConfig}
    {direction : Direction} (h : s₁.description.passedOn = s₂.description.passedOn)
    (h₁ : forwardedMedia cfg direction s₁ = .ok m₁) (h₂ : forwardedMedia cfg direction s₂ = .ok m₂) :
    m₁.printed = m₂.printed := by
  have htype : s₁.description.type = s₂.description.type := congrArg (·.type) h
  unfold forwardedMedia at h₁ h₂
  obtain ⟨n₁, hn₁, h₁⟩ := Except.of_bind_ok h₁
  obtain ⟨n₂, hn₂, h₂⟩ := Except.of_bind_ok h₂
  have hprinted := Stream.printed_offer h hn₁ hn₂
  rw [htype] at h₁
  cases ht : s₂.description.type with
  | video =>
      rw [ht] at h₁ h₂
      obtain rfl := Except.ok.inj h₁
      obtain rfl := Except.ok.inj h₂
      exact congrArg (fun n : MediaDescription => { n with
        direction := some direction
        extensions := cfg.videoRTPExtensions
        mediaFormats := n.mediaFormats.map fun format : Sdp.MediaFormat =>
          if format.codec ≠ "rtx" then { format with fbTypes := cfg.videoFbTypes } else format })
        hprinted
  | audio =>
      rw [ht] at h₁ h₂
      obtain rfl := Except.ok.inj h₁
      obtain rfl := Except.ok.inj h₂
      exact congrArg (fun n : MediaDescription => { n with
        direction := some direction
        extensions := cfg.audioRTPExtensions
        mediaFormats := n.mediaFormats.map fun format : Sdp.MediaFormat =>
          { format with fbTypes := cfg.audioFbTypes } }) hprinted

theorem printed_answeredMedia {s₁ s₂ : Stream} {m₁ m₂ : MediaDescription} {cfg : SFUConfig}
    (h : s₁.description.passedOn = s₂.description.passedOn)
    (h₁ : answeredMedia cfg s₁ = .ok m₁) (h₂ : answeredMedia cfg s₂ = .ok m₂) :
    m₁.printed = m₂.printed := by
  unfold answeredMedia at h₁ h₂
  obtain ⟨n₁, hn₁, h₁⟩ := Except.of_bind_ok h₁
  obtain ⟨n₂, hn₂, h₂⟩ := Except.of_bind_ok h₂
  obtain rfl := Except.ok.inj h₁
  obtain rfl := Except.ok.inj h₂
  exact congrArg (fun n : MediaDescription => { n with ssrcDescription := none, msid := none })
    (printed_forwardedMedia h hn₁ hn₂)

end Session

/-! ## Sessions -/

/-- A participant without its own candidates, and what its streams pass on. -/
def Participant.view (p : Participant) : Participant × List MediaDescription :=
  ({ p with sender := {} }, p.outgoingStreams.map (·.description.passedOn))

/-- Two sessions that differ in what the streams do not pass on, and in the candidates. -/
structure Session.Alike (s₁ s₂ : Session) : Prop where
  id : s₁.id = s₂.id
  sfuConfig : s₁.sfuConfig = s₂.sfuConfig
  nextParticipantId : s₁.nextParticipantId = s₂.nextParticipantId
  participants : ∀ k : Nat, (s₁.participants[k]?).map Participant.view =
    (s₂.participants[k]?).map Participant.view

namespace Session.Alike

variable {s₁ s₂ : Session} {id k : Nat}

theorem participant (h : s₁.Alike s₂) (k : Nat) :
    (s₁.participant k).view = (s₂.participant k).view := by
  have hk := h.participants k
  rw [participant_eq, participant_eq]
  cases h₁ : s₁.participants[k]? with
  | none =>
      rw [h₁] at hk
      rw [Option.map_eq_none_iff.mp hk.symm]
  | some p₁ =>
      rw [h₁] at hk
      obtain ⟨p₂, h₂, hp⟩ := Option.map_eq_some_iff.mp hk.symm
      rw [h₂]
      exact hp.symm

theorem rest (h : s₁.Alike s₂) (k : Nat) :
    { s₁.participant k with sender := {} } = { s₂.participant k with sender := {} } :=
  congrArg (·.1) (h.participant k)

theorem passedOn (h : s₁.Alike s₂) (k : Nat) :
    (s₁.participant k).outgoingStreams.map (·.description.passedOn) =
      (s₂.participant k).outgoingStreams.map (·.description.passedOn) :=
  congrArg (·.2) (h.participant k)

theorem receiver (h : s₁.Alike s₂) (k id : Nat) :
    (s₁.participant k).receiver id = (s₂.participant k).receiver id := by
  have hreceiver := congrArg (fun p : Participant => p.receiver id) (h.rest k)
  exact hreceiver

theorem update (h : s₁.Alike s₂) (id : Nat) {f₁ f₂ : Participant → Participant}
    (hf : (f₁ (s₁.participant id)).view = (f₂ (s₂.participant id)).view) :
    (s₁.update id f₁).Alike (s₂.update id f₂) where
  id := h.id
  sfuConfig := h.sfuConfig
  nextParticipantId := h.nextParticipantId
  participants k := by
    by_cases hk : k = id
    · rw [hk, participants_update_self, participants_update_self, Option.map_some, hf,
        Option.map_some]
    · rw [participants_update_of_ne hk, participants_update_of_ne hk]
      exact h.participants k

theorem insert (h : s₁.Alike s₂) (id : Nat) (p : Participant) :
    ({ s₁ with participants := s₁.participants.insert id p } : Session).Alike
      { s₂ with participants := s₂.participants.insert id p } := by
  have hupdate : (s₁.update id fun _ => p).Alike (s₂.update id fun _ => p) := h.update id rfl
  exact hupdate

theorem update_rest (h : s₁.Alike s₂) (id : Nat) {f : Participant → Participant}
    (hf : ∀ p, (f p).view = (f p.view.1, p.view.2)) : (s₁.update id f).Alike (s₂.update id f) := by
  apply h.update
  rw [hf, hf, h.participant]

theorem setState (h : s₁.Alike s₂) (id : Nat) (state : SignalingState) :
    (s₁.setState id state).Alike (s₂.setState id state) := h.update_rest id fun _ => rfl

theorem roles (h : s₁.Alike s₂) : s₁.roles = s₂.roles := by
  have hroles (s : Session) : s.roles = fun k =>
      ((s.participants[k]?).map Participant.view).map fun v => v.1.signalingState := by
    funext k
    rw [Option.map_map]
    rfl
  rw [hroles, hroles]
  funext k
  rw [h.participants k]

theorem participantInState (h : s₁.Alike s₂) {state : SignalingState} {i₁ i₂ : Nat}
    (h₁ : s₁.participantInState state = .ok i₁) (h₂ : s₂.participantInState state = .ok i₂) :
    i₁ = i₂ := by
  obtain ⟨k₁, hk₁, rfl, huniq⟩ := participantInState_ok_iff.mp h₁
  obtain ⟨k₂, hk₂, rfl, -⟩ := participantInState_ok_iff.mp h₂
  rw [huniq k₂ (by rw [h.roles]; exact hk₂)]
  exact congrArg (·.id) (h.rest k₁)

theorem erase (h : s₁.Alike s₂) (id : Nat) : (s₁.erase id).Alike (s₂.erase id) where
  id := h.id
  sfuConfig := h.sfuConfig
  nextParticipantId := h.nextParticipantId
  participants k := by
    by_cases hk : k = id
    · unfold Session.erase
      rw [hk, Std.ExtTreeMap.getElem?_erase_self, Std.ExtTreeMap.getElem?_erase_self]
    · rw [participants_erase_of_ne hk, participants_erase_of_ne hk]
      exact h.participants k

/-- A participant sends streams with the same mids. -/
theorem sendsStreamWithMid (h : s₁.Alike s₂) (k : Nat) :
    (s₁.participant k).sendsStreamWithMid = (s₂.participant k).sendsStreamWithMid := by
  have hsends (p : Participant) : p.sendsStreamWithMid = fun mid =>
      (p.outgoingStreams.map (·.description.passedOn)).any fun m => m.mid = some mid := by
    funext mid
    rw [List.any_map]
    rfl
  rw [hsends, hsends, h.passedOn]

theorem sendSSRCs (h : s₁.Alike s₂) (k : Nat) (mid : String) :
    s₁.sendSSRCs k mid = s₂.sendSSRCs k mid := by
  have hssrcs (s : Session) : s.sendSSRCs k mid =
      match ((s.participant k).outgoingStreams.map (·.description.passedOn)).find? fun m =>
        m.mid = some mid with
      | some m => Stream.deref m.ssrcDescription
      | none => .error (.logicError
          "Participant: sendStreamWithMid: participant does'nt send this mid") := by
    unfold Session.sendSSRCs Participant.sendStreamWithMid Participant.outgoingStreams
    rw [List.find?_map]
    unfold Function.comp
    have hmid : (fun s : Stream => decide (s.HasMid mid)) =
        fun s => decide (s.description.passedOn.mid = some mid) := rfl
    rw [hmid]
    cases (s.participant k).sender.streams.find?
      fun s => decide (s.description.passedOn.mid = some mid) with
    | none => rfl
    | some stream => rfl
  rw [hssrcs, hssrcs, h.passedOn]

theorem newReceiveStream (h : s₁.Alike s₂) (offerId fromId : Nat) (media : MediaDescription)
    (ssrcs : Sdp.SSRCDescription) : s₁.newReceiveStream offerId fromId media ssrcs =
      s₂.newReceiveStream offerId fromId media ssrcs := by
  unfold Session.newReceiveStream
  rw [h.receiver, h.sfuConfig]

end Session.Alike

/-! ## Operations -/

namespace Session

section Operations
variable {τ ω : Type} {onNewStream : OnNewStream τ ω}

abbrev BothAlike (s₁ s₂ : Session × τ) : Prop := s₁.1.Alike s₂.1

theorem addParticipant_twoRun (ip : String) (port : UInt16) :
    Eff.TwoRun (BothAlike (τ := τ)) (addParticipant ip port : SessionEff τ ω Nat)
      (addParticipant ip port : SessionEff τ ω Nat) fun _ _ => BothAlike := by
  unfold addParticipant
  refine Eff.twoRun_get_bind fun s₁ s₂ h => ?_
  refine Eff.twoRun_require_bind fun _ _ => ?_
  rw [h.nextParticipantId]
  refine Eff.TwoRun.bind (Q := fun _ _ => BothAlike) (Eff.twoRun_modify ?_) fun _ _ => ?_
  · rintro _ _ ⟨rfl, rfl⟩
    exact ⟨h.id, h.sfuConfig, rfl, h.participants⟩
  refine Eff.twoRun_require_bind fun _ _ => ?_
  refine Eff.TwoRun.bind (Q := fun _ _ => BothAlike) (Eff.twoRun_modify ?_) fun _ _ => ?_
  · exact fun _ _ h => h.insert _ _
  · exact Eff.twoRun_pure fun _ _ h => h

theorem removeParticipant_twoRun (id : Nat) :
    Eff.TwoRun (BothAlike (τ := τ)) (removeParticipant id : SessionEff τ ω Unit)
      (removeParticipant id : SessionEff τ ω Unit) fun _ _ => BothAlike := by
  unfold removeParticipant
  refine Eff.twoRun_get_bind fun s₁ s₂ h => ?_
  refine Eff.twoRun_require_bind fun _ _ => Eff.twoRun_modify ?_
  rintro _ _ ⟨rfl, rfl⟩
  exact h.erase id

theorem notify_twoRun (id : Nat) (stream₁ stream₂ : Stream) :
    Eff.TwoRun BothAlike (notify onNewStream id stream₁) (notify onNewStream id stream₂)
      fun _ _ => BothAlike :=
  Eff.twoRun_of_keeps (fun s₂ => notify_keeps (P := fun s => s.Alike s₂.1))
    fun s₁ => notify_keeps (P := fun s => s₁.1.Alike s)

/-- A change of one participant that does not touch what the streams pass on. -/
theorem update_twoRun (id : Nat) {f : Participant → Participant}
    (hf : ∀ p, (f p).view = (f p.view.1, p.view.2)) :
    Eff.TwoRun (BothAlike (τ := τ)) (modify (fun s => s.update id f) : SessionEff τ ω Unit)
      (modify (fun s => s.update id f) : SessionEff τ ω Unit) fun _ _ => BothAlike :=
  Eff.twoRun_modify fun _ _ h => h.update_rest id hf

/-! ### Offers -/

theorem withCandidate_passedOn {t : Transceiver} {media media' : MediaDescription}
    (h : withCandidate t media = .ok media') : media'.passedOn = media.passedOn := by
  unfold withCandidate at h
  split at h
  · split at h
    · exact nomatch h
    · obtain rfl := Except.ok.inj h
      rfl
  · obtain rfl := Except.ok.inj h
    rfl

/-- The mid under which a section becomes a stream that is not there yet. -/
def newMid (sent : String → Bool) (media : MediaDescription) : Option String :=
  if media.direction = some .sendonly then media.mid.filter (!sent ·) else none

/-- The sections that become streams that are not there yet. -/
def newSections (sent : String → Bool) : List MediaDescription → List MediaDescription
  | [] => []
  | media :: medias =>
      match newMid sent media with
      | some mid => media :: newSections (fun x => sent x || x = mid) medias
      | none => newSections sent medias

theorem newSections_kept {sent : String → Bool} {media₁ media₂ : MediaDescription}
    (hmid : newMid sent media₁ = newMid sent media₂) (hkept : media₁.kept = media₂.kept) :
    (newSections sent [media₁]).map (·.kept) = (newSections sent [media₂]).map (·.kept) := by
  simp only [newSections, hmid]
  cases newMid sent media₂ with
  | none => rfl
  | some mid => rw [List.map_singleton, List.map_singleton, hkept]

/-- What a section of an offer does: nothing, or it adds a stream. -/
theorem addOfferMedia_ok {s : Session × τ} {fromId : Nat} {media : MediaDescription}
    (h : (addOfferMedia onNewStream fromId media s).result = .ok ()) :
    match newMid (s.1.participant fromId).sendsStreamWithMid media with
    | none => (addOfferMedia onNewStream fromId media s).state.1 = s.1
    | some mid => ∃ stream : Stream, stream.description.passedOn = media.passedOn ∧
        stream.HasMid mid ∧ (addOfferMedia onNewStream fromId media s).state.1 =
          s.1.update fromId fun p => p.addOutgoingStream stream := by
  unfold newMid
  by_cases hdir : media.direction = some .sendonly
  · rw [if_pos hdir]
    cases hmid : media.mid with
    | none =>
        rw [addOfferMedia_of_no_mid hdir hmid] at h
        exact nomatch h
    | some mid =>
        by_cases hsent : (s.1.participant fromId).sendsStreamWithMid mid = true
        · rw [Option.filter_some, if_neg (by rw [hsent]; decide),
            addOfferMedia_of_sent hdir hmid hsent]
        · rw [Option.filter_some, if_pos (by rw [eq_false_of_ne_true hsent]; rfl)]
          cases hnew : s.1.newSendStream fromId media with
          | error e =>
              rw [addOfferMedia_of_error hdir hmid hsent hnew] at h
              exact nomatch h
          | ok stream =>
              obtain ⟨media', hmedia', hstream⟩ := Except.of_bind_ok hnew
              have hpassed : stream.description.passedOn = media.passedOn := by
                rw [Stream.ofDescription_description hstream, withCandidate_passedOn hmedia']
              refine ⟨stream, hpassed, ?_, ?_⟩
              · exact (congrArg (·.mid) hpassed).trans hmid
              · rw [addOfferMedia_of_new hdir hmid hsent hnew]
                exact notify_keeps (P := fun s' => s' = s.1.update fromId fun p =>
                  p.addOutgoingStream stream) (_, s.2) rfl
  · rw [if_neg hdir, addOfferMedia_of_direction hdir]

theorem newMid_eq {sent : String → Bool} {media₁ media₂ : MediaDescription}
    (h : media₁.withoutTransport = media₂.withoutTransport) :
    newMid sent media₁ = newMid sent media₂ := by
  have hdir : media₁.direction = media₂.direction := congrArg (·.direction) h
  have hmid : media₁.mid = media₂.mid := congrArg (·.mid) h
  unfold newMid
  rw [hdir, hmid]

theorem sendsStreamWithMid_addOutgoingStream {s : Session} {fromId : Nat} {stream : Stream}
    {mid : String} (h : stream.HasMid mid) :
    ((s.update fromId fun p => p.addOutgoingStream stream).participant fromId).sendsStreamWithMid =
      fun x => (s.participant fromId).sendsStreamWithMid x || x = mid := by
  funext x
  rw [participant_update_self]
  show ((s.participant fromId).outgoingStreams ++ [stream]).any (fun t => t.HasMid x) = _
  rw [List.any_append, List.any_cons, List.any_nil, Bool.or_false]
  refine congrArg (_ || ·) (decide_eq_decide.mpr ?_)
  show stream.description.mid = some x ↔ x = mid
  rw [h, Option.some.injEq]
  exact eq_comm

theorem view_addOutgoingStream (p : Participant) (stream : Stream) :
    (p.addOutgoingStream stream).view = (p.view.1, p.view.2 ++ [stream.description.passedOn]) := by
  unfold Participant.view
  rw [Participant.outgoingStreams_addOutgoingStream, List.map_append, List.map_singleton]
  rfl

/-- Sections that differ in the transport part, and agree in what is kept of it. -/
theorem addOfferMedias_alike {fromId : Nat} {medias₁ medias₂ : List MediaDescription}
    {s₁ s₂ : Session × τ} (h : BothAlike s₁ s₂)
    (hmedias : medias₁.map (·.withoutTransport) = medias₂.map (·.withoutTransport))
    (hkept : (newSections (s₁.1.participant fromId).sendsStreamWithMid medias₁).map (·.kept) =
      (newSections (s₁.1.participant fromId).sendsStreamWithMid medias₂).map (·.kept))
    (h₁ : (addOfferMedias onNewStream fromId medias₁ s₁).result = .ok ())
    (h₂ : (addOfferMedias onNewStream fromId medias₂ s₂).result = .ok ()) :
    BothAlike (addOfferMedias onNewStream fromId medias₁ s₁).state
      (addOfferMedias onNewStream fromId medias₂ s₂).state := by
  induction medias₁ generalizing medias₂ s₁ s₂ with
  | nil =>
      obtain rfl := List.map_eq_nil_iff.mp hmedias.symm
      exact h
  | cons media₁ medias₁ ih =>
      obtain ⟨media₂, medias₂, rfl, hmedia, hmedias⟩ := List.map_eq_cons_iff.mp hmedias.symm
      obtain ⟨⟨⟩, hfirst₁, h₁, hstate₁⟩ := Eff.bind_ok h₁
      obtain ⟨⟨⟩, hfirst₂, h₂, hstate₂⟩ := Eff.bind_ok h₂
      have hadd₁ := addOfferMedia_ok hfirst₁
      have hadd₂ := addOfferMedia_ok hfirst₂
      rw [← h.sendsStreamWithMid, newMid_eq hmedia] at hadd₂
      unfold newSections at hkept
      rw [newMid_eq hmedia] at hkept
      unfold addOfferMedias
      rw [hstate₁, hstate₂]
      cases hnew : newMid (s₁.1.participant fromId).sendsStreamWithMid media₁ with
      | none =>
          rw [hnew] at hadd₁ hadd₂ hkept
          dsimp only at hadd₁ hadd₂ hkept
          refine ih ?_ hmedias.symm ?_ h₁ h₂
          · unfold BothAlike
            rw [hadd₁, hadd₂]
            exact h
          · rw [hadd₁]
            exact hkept
      | some mid =>
          rw [hnew] at hadd₁ hadd₂ hkept
          dsimp only at hadd₁ hadd₂ hkept
          obtain ⟨stream₁, hpassed₁, hmid₁, hadd₁⟩ := hadd₁
          obtain ⟨stream₂, hpassed₂, -, hadd₂⟩ := hadd₂
          rw [List.map_cons, List.map_cons] at hkept
          obtain ⟨hkept₀, hkept⟩ := List.cons.inj hkept
          refine ih ?_ hmedias.symm ?_ h₁ h₂
          · have hstream : stream₁.description.passedOn = stream₂.description.passedOn := by
              rw [hpassed₁, hpassed₂, MediaDescription.passedOn_of_kept hmedia.symm hkept₀]
            unfold BothAlike
            rw [hadd₁, hadd₂]
            apply h.update
            rw [view_addOutgoingStream, view_addOutgoingStream, h.participant, hstream]
          · rw [hadd₁, sendsStreamWithMid_addOutgoingStream hmid₁]
            exact hkept

theorem view_updateICECandidates (p : Participant) (offer : SessionDescription) :
    ({ p with sender := p.sender.updateICECandidates offer } : Participant).view = p.view := by
  unfold Participant.view Participant.outgoingStreams
  rw [Transceiver.updateICECandidates_streams]

/-- Offers that differ in the transport part, the new streams of which agree in what is kept. -/
theorem addOffer_alike {fromId : Nat} {offer₁ offer₂ : SessionDescription} {s₁ s₂ : Session × τ}
    (h : BothAlike s₁ s₂)
    (hmedias : offer₁.mediaDescriptions.map (·.withoutTransport) =
      offer₂.mediaDescriptions.map (·.withoutTransport))
    (hkept : (newSections (s₁.1.participant fromId).sendsStreamWithMid
        offer₁.mediaDescriptions).map (·.kept) =
      (newSections (s₁.1.participant fromId).sendsStreamWithMid
        offer₂.mediaDescriptions).map (·.kept))
    (h₁ : (addOffer onNewStream fromId offer₁ s₁).result = .ok ())
    (h₂ : (addOffer onNewStream fromId offer₂ s₂).result = .ok ()) :
    BothAlike (addOffer onNewStream fromId offer₁ s₁).state
      (addOffer onNewStream fromId offer₂ s₂).state := by
  have htwo : Eff.TwoRun (fun t₁ t₂ => t₁ = s₁ ∧ t₂ = s₂) (addOffer onNewStream fromId offer₁)
      (addOffer onNewStream fromId offer₂) fun _ _ => BothAlike := by
    unfold addOffer
    refine Eff.twoRun_get_bind fun t₁ t₂ ht => ?_
    rw [ht.1, ht.2]
    refine Eff.twoRun_require_bind fun _ _ => Eff.twoRun_require_bind fun _ _ => ?_
    refine Eff.TwoRun.bind (Q := fun _ _ t₁ t₂ => BothAlike t₁ t₂ ∧
      (t₁.1.participant fromId).sendsStreamWithMid =
        (s₁.1.participant fromId).sendsStreamWithMid) (Eff.twoRun_modify ?_) fun _ _ => ?_
    · intro t₁ t₂ ht
      rw [ht.1, ht.2]
      have hcandidates : (s₁.1.update fromId fun p =>
          { p with sender := p.sender.updateICECandidates offer₁ }).Alike
            (s₂.1.update fromId fun p =>
              { p with sender := p.sender.updateICECandidates offer₂ }) := by
        apply h.update
        rw [view_updateICECandidates, view_updateICECandidates, h.participant]
      refine ⟨hcandidates, ?_⟩
      show ((s₁.1.update fromId _).participant fromId).sendsStreamWithMid = _
      funext mid
      rw [participant_update_self]
      unfold Participant.sendsStreamWithMid Transceiver.hasStreamWithMid
      rw [Transceiver.updateICECandidates_streams]
    refine Eff.TwoRun.bind (Q := fun _ _ => BothAlike) ?_ fun _ _ =>
      update_twoRun fromId fun _ => rfl
    rintro t₁ t₂ ⟨⟩ ⟨⟩ ⟨ht, hsent⟩ ht₁ ht₂
    exact addOfferMedias_alike ht hmedias (by rw [hsent]; exact hkept) ht₁ ht₂
  exact htwo s₁ s₂ () () ⟨rfl, rfl⟩ h₁ h₂

/-! ### Answers -/

theorem getParticipant_view {s₁ s₂ : Session} (h : s₁.Alike s₂) {id : Nat} {p₁ p₂ : Participant}
    (h₁ : s₁.getParticipant id = .ok p₁) (h₂ : s₂.getParticipant id = .ok p₂) :
    p₁.view = p₂.view := by
  have hget {s : Session} {p : Participant} (hp : s.getParticipant id = .ok p) :
      s.participant id = p := by
    unfold getParticipant at hp
    split at hp
    next hsome =>
      obtain rfl := Except.ok.inj hp
      exact participant_of_some hsome
    next => exact nomatch hp
  rw [← hget h₁, ← hget h₂, h.participant]

theorem printed_addMedia {d : SessionDescription} {medias₁ medias₂ : List MediaDescription}
    (h : medias₁.map (·.printed) = medias₂.map (·.printed)) :
    (addMedia d medias₁).printed = (addMedia d medias₂).printed := by
  unfold addMedia SessionDescription.printed
  dsimp only
  rw [List.map_append, List.map_append, h]

theorem getOffer_twoRun (forId : Nat) :
    Eff.TwoRun (BothAlike (τ := τ)) (getOffer forId : SessionEff τ ω SessionDescription)
      (getOffer forId : SessionEff τ ω SessionDescription)
      fun d₁ d₂ s₁ s₂ => d₁.printed = d₂.printed ∧ BothAlike s₁ s₂ := by
  unfold getOffer
  refine Eff.twoRun_get_bind fun s₁ s₂ h => Eff.twoRun_require_bind fun _ _ => ?_
  refine Eff.TwoRun.bind (Q := fun _ _ => BothAlike) (Eff.twoRun_modify ?_) fun _ _ => ?_
  · rintro _ _ ⟨rfl, rfl⟩
    exact h.setState forId .awaitAnswer
  refine Eff.twoRun_get_bind fun t₁ t₂ ht => ?_
  refine Eff.TwoRun.bind (Q := fun i₁ i₂ u₁ u₂ => i₁ = i₂ ∧ u₁ = t₁ ∧ u₂ = t₂)
    (Eff.twoRun_ofExcept ?_) fun i₁ i₂ => ?_
  · exact fun i₁ i₂ u₁ u₂ hi₁ hi₂ hu => ⟨ht.participantInState hi₁ hi₂, hu⟩
  refine Eff.TwoRun.bind (Q := fun p₁ p₂ u₁ u₂ => p₁.view = p₂.view ∧ u₁ = t₁ ∧ u₂ = t₂)
    (Eff.twoRun_ofExcept ?_) fun p₁ p₂ => ?_
  · rintro p₁ p₂ u₁ u₂ hp₁ hp₂ ⟨rfl, hu⟩
    exact ⟨getParticipant_view ht hp₁ hp₂, hu⟩
  rw [ht.sfuConfig]
  refine Eff.TwoRun.bind (Q := fun medias₁ medias₂ u₁ u₂ =>
    medias₁.map (·.printed) = medias₂.map (·.printed) ∧ u₁ = t₁ ∧ u₂ = t₂)
    (Eff.twoRun_ofExcept ?_) fun medias₁ medias₂ => Eff.twoRun_pure ?_
  · rintro medias₁ medias₂ u₁ u₂ hm₁ hm₂ ⟨hview, hu⟩
    exact ⟨Except.map_eq_of_mapM_ok (fun _ _ _ _ => printed_forwardedMedia)
      (congrArg (·.2) hview) hm₁ hm₂, hu⟩
  · rintro u₁ u₂ ⟨hprinted, rfl, rfl⟩
    exact ⟨printed_addMedia hprinted, ht⟩

/-- What `getOffer` comes to when one participant has offered. -/
theorem getOffer_run {s : Session × τ} {forId i : Nat} {medias : List MediaDescription}
    (hexists : s.1.participantExists forId = true)
    (hinit : (s.1.setState forId .awaitAnswer).participantInState .gotOffer = .ok i)
    (hpart : (s.1.setState forId .awaitAnswer).participantExists i = true)
    (hmedias : ((s.1.setState forId .awaitAnswer).participant i).outgoingStreams.mapM
      (forwardedMedia s.1.sfuConfig .sendonly) = .ok medias) :
    (getOffer forId s : Outcome _ ω _ _) = ⟨(s.1.setState forId .awaitAnswer, s.2), [],
      .ok (addMedia s.1.sfuConfig.sessionTemplate medias)⟩ := by
  have hget : (s.1.setState forId .awaitAnswer).getParticipant i =
      .ok ((s.1.setState forId .awaitAnswer).participant i) := by
    unfold getParticipant
    rw [participants_of_exists hpart]
  unfold getOffer
  rw [Eff.get_bind_run, Eff.require_pos hexists, Eff.pure_bind]
  show (Eff.ofExcept ((s.1.setState forId .awaitAnswer).participantInState .gotOffer) >>= _ :
    SessionEff τ ω SessionDescription) (s.1.setState forId .awaitAnswer, s.2) = _
  rw [hinit, Eff.ofExcept_ok_bind]
  show (do
    let initPart ← Eff.ofExcept ((s.1.setState forId .awaitAnswer).getParticipant i)
    let medias ← Eff.ofExcept
      (initPart.outgoingStreams.mapM (forwardedMedia s.1.sfuConfig .sendonly))
    return addMedia s.1.sfuConfig.sessionTemplate medias : SessionEff τ ω SessionDescription) _ = _
  rw [hget, Eff.ofExcept_ok_bind, hmedias, Eff.ofExcept_ok_bind]
  rfl

theorem getAnswer_twoRun (forId : Nat) :
    Eff.TwoRun (BothAlike (τ := τ)) (getAnswer forId : SessionEff τ ω SessionDescription)
      (getAnswer forId : SessionEff τ ω SessionDescription)
      fun d₁ d₂ s₁ s₂ => d₁.printed = d₂.printed ∧ BothAlike s₁ s₂ := by
  unfold getAnswer
  refine Eff.twoRun_get_bind fun s₁ s₂ h => ?_
  refine Eff.twoRun_require_bind fun _ _ => Eff.twoRun_require_bind fun _ _ => ?_
  rw [h.sfuConfig, h.id]
  dsimp only
  refine Eff.TwoRun.bind (Q := fun medias₁ medias₂ u₁ u₂ =>
    medias₁.map (·.printed) = medias₂.map (·.printed) ∧ u₁ = s₁ ∧ u₂ = s₂)
    (Eff.twoRun_ofExcept ?_) fun medias₁ medias₂ => ?_
  · intro medias₁ medias₂ u₁ u₂ hm₁ hm₂ hu
    exact ⟨Except.map_eq_of_mapM_ok (fun _ _ _ _ => printed_answeredMedia) (h.passedOn forId)
      hm₁ hm₂, hu⟩
  refine Eff.TwoRun.bind (Q := fun _ _ u₁ u₂ =>
    medias₁.map (·.printed) = medias₂.map (·.printed) ∧ BothAlike u₁ u₂)
    (Eff.twoRun_modify ?_) fun _ _ => Eff.twoRun_pure ?_
  · rintro _ _ ⟨hprinted, rfl, rfl⟩
    exact ⟨hprinted, h.setState forId .stable⟩
  · exact fun u₁ u₂ hu => ⟨printed_addMedia hu.1, hu.2⟩

theorem addAnswerMedia_twoRun (initKey offerId fromId : Nat) (media : MediaDescription) :
    Eff.TwoRun BothAlike (addAnswerMedia onNewStream initKey offerId fromId media)
      (addAnswerMedia onNewStream initKey offerId fromId media) fun _ _ => BothAlike := by
  unfold addAnswerMedia
  cases media.mid with
  | none => exact fun _ _ _ _ _ h => nomatch h
  | some mid =>
      refine Eff.twoRun_get_bind fun s₁ s₂ h => ?_
      rw [h.sendSSRCs]
      refine Eff.TwoRun.bind (Q := fun ssrcs₁ ssrcs₂ t₁ t₂ => ssrcs₁ = ssrcs₂ ∧ BothAlike t₁ t₂)
        (Eff.twoRun_ofExcept ?_) fun ssrcs₁ ssrcs₂ => ?_
      · rintro ssrcs₁ ssrcs₂ _ _ h₁ h₂ ⟨rfl, rfl⟩
        exact ⟨Except.ok.inj (h₁.symm.trans h₂), h⟩
      refine Eff.TwoRun.bind (Q := fun _ _ t₁ t₂ => ssrcs₁ = ssrcs₂ ∧ BothAlike t₁ t₂)
        (Eff.twoRun_modify fun t₁ t₂ ht => ⟨ht.1, ?_⟩) fun _ _ => ?_
      · have htouch := ht.2.update_rest fromId (f := fun p => p.updateReceiver offerId fun r => r)
          fun _ => rfl
        exact htouch
      refine Eff.twoRun_get_bind fun t₁ t₂ ht => ?_
      obtain ⟨rfl, ht⟩ := ht
      rw [ht.newReceiveStream, ht.receiver]
      refine Eff.TwoRun.bind (Q := fun stream₁ stream₂ t₁ t₂ => stream₁ = stream₂ ∧
        BothAlike t₁ t₂) (Eff.twoRun_ofExcept ?_) fun stream₁ stream₂ => ?_
      · rintro stream₁ stream₂ _ _ h₁ h₂ ⟨rfl, rfl⟩
        exact ⟨Except.ok.inj (h₁.symm.trans h₂), ht⟩
      split
      · exact Eff.twoRun_pure fun _ _ hu => hu.2
      · refine Eff.TwoRun.bind (Q := fun _ _ => BothAlike) (Eff.twoRun_modify ?_) fun _ _ =>
          notify_twoRun fromId stream₁ stream₂
        rintro u₁ u₂ ⟨rfl, hu⟩
        have hadd := hu.update_rest fromId
          (f := fun p => p.updateReceiver offerId fun r => r.addStream stream₁) fun _ => rfl
        exact hadd

theorem addAnswerMedias_twoRun (initKey offerId fromId : Nat) :
    ∀ medias : List MediaDescription,
      Eff.TwoRun BothAlike (addAnswerMedias onNewStream initKey offerId fromId medias)
        (addAnswerMedias onNewStream initKey offerId fromId medias) fun _ _ => BothAlike
  | [] => Eff.twoRun_pure fun _ _ h => h
  | media :: medias => (addAnswerMedia_twoRun initKey offerId fromId media).bind fun _ _ =>
      addAnswerMedias_twoRun initKey offerId fromId medias

theorem view_addAnswerCandidates (p : Participant) (offerId : Nat) (answer : SessionDescription) :
    (addAnswerCandidates p offerId answer).view =
      (addAnswerCandidates p.view.1 offerId answer, p.view.2) := by
  unfold addAnswerCandidates
  induction Transceiver.descriptionCandidates answer generalizing p with
  | nil => rfl
  | cons c cs ih =>
      rw [List.foldl_cons, List.foldl_cons, ih]
      rfl

theorem addAnswer_twoRun (fromId : Nat) (answer : SessionDescription) :
    Eff.TwoRun BothAlike (addAnswer onNewStream fromId answer)
      (addAnswer onNewStream fromId answer) fun _ _ => BothAlike := by
  unfold addAnswer
  refine Eff.twoRun_get_bind fun s₁ s₂ h => ?_
  refine Eff.TwoRun.bind (Q := fun k₁ k₂ t₁ t₂ => k₁ = k₂ ∧ BothAlike t₁ t₂)
    (Eff.twoRun_ofExcept ?_) fun k₁ k₂ => ?_
  · rintro k₁ k₂ _ _ h₁ h₂ ⟨rfl, rfl⟩
    exact ⟨h.participantInState h₁ h₂, h⟩
  refine Eff.TwoRun.bind (Q := fun _ _ t₁ t₂ => k₁ = k₂ ∧ BothAlike t₁ t₂)
    (Eff.twoRun_modify fun t₁ t₂ ht => ⟨ht.1, ?_⟩) fun _ _ => ?_
  · obtain ⟨rfl, ht⟩ := ht
    have htouch := (ht.update_rest k₁ (f := fun p => p) fun _ => rfl).update_rest fromId
      (f := fun p => p) fun _ => rfl
    exact htouch
  refine Eff.twoRun_get_bind fun t₁ t₂ ht => ?_
  obtain ⟨rfl, ht⟩ := ht
  have hid : (t₁.1.participant k₁).id = (t₂.1.participant k₁).id := by
    have hrest := congrArg (fun p : Participant => p.id) (ht.rest k₁)
    exact hrest
  rw [hid]
  dsimp only
  refine Eff.twoRun_require_bind fun _ _ => ?_
  refine Eff.TwoRun.bind (Q := fun _ _ => BothAlike) (Eff.twoRun_modify ?_) fun _ _ => ?_
  · intro u₁ u₂ hu
    rw [hu.1, hu.2]
    have hcandidates := ht.update_rest fromId
      fun p => view_addAnswerCandidates p (t₂.1.participant k₁).id answer
    exact hcandidates
  exact (addAnswerMedias_twoRun k₁ _ fromId answer.mediaDescriptions).bind fun _ _ =>
    update_twoRun fromId fun _ => rfl

end Operations

end Session

/-! ## Runs -/

/-- A call of a session, with the texts that the clients sent. -/
inductive Call where
  | addParticipant (ip : String) (port : UInt16)
  | removeParticipant (id : Nat)
  | addOffer (fromId : Nat) (sdp : String)
  | getOffer (forId : Nat)
  | addAnswer (fromId : Nat) (sdp : String)
  | getAnswer (forId : Nat)
deriving DecidableEq

namespace Call

section Runs
variable {τ ω : Type} (onNewStream : OnNewStream τ ω)

/-- Run a call. An offer or an answer is given out as text. -/
def run : Call → SessionEff τ ω (Option String)
  | addParticipant ip port => do
      let _ ← Session.addParticipant ip port
      return none
  | removeParticipant id => do
      Session.removeParticipant id
      return none
  | addOffer fromId sdp => do
      let offer ← Eff.ofExcept (SessionDescription.parse sdp)
      Session.addOffer onNewStream fromId offer
      return none
  | getOffer forId => do
      let offer ← Session.getOffer forId
      let text ← Eff.ofExcept offer.escapedString
      return some text
  | addAnswer fromId sdp => do
      let answer ← Eff.ofExcept (SessionDescription.parse sdp)
      Session.addAnswer onNewStream fromId answer
      return none
  | getAnswer forId => do
      let answer ← Session.getAnswer forId
      let text ← Eff.ofExcept answer.escapedString
      return some text

/-- What the calls return, up to the first one that throws: its exception ends the controller. -/
def returned : List Call → Session × τ → List (Option String)
  | [], _ => []
  | call :: calls, s =>
      match (call.run onNewStream s).result with
      | .ok text => text :: returned calls (call.run onNewStream s).state
      | .error _ => []

end Runs

/-- The same calls, or two offers that differ in the transport part only. -/
def Differ : Call → Call → Prop
  | addOffer fromId₁ sdp₁, addOffer fromId₂ sdp₂ => fromId₁ = fromId₂ ∧
      Sdp.withoutTransport (Sdp.linesOf sdp₁) = Sdp.withoutTransport (Sdp.linesOf sdp₂)
  | call₁, call₂ => call₁ = call₂

/-- What is kept of the transport part of the streams that a call adds to a session. -/
def kept (s : Session) : Call →
    List (Option Sdp.RTCPConfiguration × List String × Option (String × String))
  | addOffer fromId sdp =>
      match SessionDescription.parse sdp with
      | .ok offer => (Session.newSections (s.participant fromId).sendsStreamWithMid
          offer.mediaDescriptions).map (·.kept)
      | .error _ => []
  | _ => []

theorem kept_addOffer {s : Session} {fromId : Nat} {sdp : String} {offer : SessionDescription}
    (h : SessionDescription.parse sdp = .ok offer) : (addOffer fromId sdp).kept s =
      (Session.newSections (s.participant fromId).sendsStreamWithMid
        offer.mediaDescriptions).map (·.kept) := by
  unfold kept
  dsimp only
  rw [h]

section Runs
variable {τ ω : Type} (onNewStream : OnNewStream τ ω)

/-- The calls of two runs, as far as both get, keep the same of the transport part. -/
def KeepAlike : List (Call × Call) → Session × τ → Session × τ → Prop
  | [], _, _ => True
  | (call₁, call₂) :: calls, s₁, s₂ => call₁.kept s₁.1 = call₂.kept s₂.1 ∧
      ∀ text₁ text₂, (call₁.run onNewStream s₁).result = .ok text₁ →
        (call₂.run onNewStream s₂).result = .ok text₂ →
        KeepAlike calls (call₁.run onNewStream s₁).state (call₂.run onNewStream s₂).state

variable {onNewStream} {s₁ s₂ : Session × τ} {text₁ text₂ : Option String}

theorem keepAlike_nil : KeepAlike onNewStream [] s₁ s₂ := trivial

theorem keepAlike_cons {call₁ call₂ : Call} {calls : List (Call × Call)}
    (hkept : call₁.kept s₁.1 = call₂.kept s₂.1)
    (hrest : KeepAlike onNewStream calls (call₁.run onNewStream s₁).state
      (call₂.run onNewStream s₂).state) :
    KeepAlike onNewStream ((call₁, call₂) :: calls) s₁ s₂ := ⟨hkept, fun _ _ _ _ => hrest⟩

theorem run_addOffer_alike {fromId : Nat} {sdp₁ sdp₂ : String} (h : Session.BothAlike s₁ s₂)
    (hlines : Sdp.withoutTransport (Sdp.linesOf sdp₁) = Sdp.withoutTransport (Sdp.linesOf sdp₂))
    (hkept : (addOffer fromId sdp₁).kept s₁.1 = (addOffer fromId sdp₂).kept s₂.1)
    (h₁ : ((addOffer fromId sdp₁).run onNewStream s₁).result = .ok text₁)
    (h₂ : ((addOffer fromId sdp₂).run onNewStream s₂).result = .ok text₂) :
    text₁ = text₂ ∧ Session.BothAlike ((addOffer fromId sdp₁).run onNewStream s₁).state
      ((addOffer fromId sdp₂).run onNewStream s₂).state := by
  have htwo : Eff.TwoRun (fun t₁ t₂ => t₁ = s₁ ∧ t₂ = s₂) ((addOffer fromId sdp₁).run onNewStream)
      ((addOffer fromId sdp₂).run onNewStream)
      fun text₁ text₂ t₁ t₂ => text₁ = text₂ ∧ Session.BothAlike t₁ t₂ := by
    unfold run
    refine Eff.TwoRun.bind (Q := fun offer₁ offer₂ t₁ t₂ =>
      SessionDescription.parse sdp₁ = .ok offer₁ ∧ SessionDescription.parse sdp₂ = .ok offer₂ ∧
        t₁ = s₁ ∧ t₂ = s₂) (Eff.twoRun_ofExcept ?_) fun offer₁ offer₂ => ?_
    · exact fun offer₁ offer₂ t₁ t₂ hoffer₁ hoffer₂ ht => ⟨hoffer₁, hoffer₂, ht⟩
    refine Eff.TwoRun.bind (Q := fun _ _ => Session.BothAlike) ?_ fun _ _ =>
      Eff.twoRun_pure fun _ _ ht => ⟨rfl, ht⟩
    rintro t₁ t₂ ⟨⟩ ⟨⟩ ⟨hoffer₁, hoffer₂, rfl, rfl⟩ ht₁ ht₂
    rw [kept_addOffer hoffer₁, kept_addOffer hoffer₂, ← h.sendsStreamWithMid] at hkept
    exact Session.addOffer_alike h
      (Sdp.SessionDescription.ofLines_withoutTransport hlines hoffer₁ hoffer₂) hkept ht₁ ht₂
  exact htwo s₁ s₂ text₁ text₂ ⟨rfl, rfl⟩ h₁ h₂

theorem run_alike {call₁ call₂ : Call} (h : Session.BothAlike s₁ s₂)
    (hcalls : Differ call₁ call₂) (hkept : call₁.kept s₁.1 = call₂.kept s₂.1)
    (h₁ : (call₁.run onNewStream s₁).result = .ok text₁)
    (h₂ : (call₂.run onNewStream s₂).result = .ok text₂) :
    text₁ = text₂ ∧ Session.BothAlike (call₁.run onNewStream s₁).state
      (call₂.run onNewStream s₂).state := by
  have htext {m : SessionEff τ ω SessionDescription}
      (hm : Eff.TwoRun Session.BothAlike m m fun d₁ d₂ s₁ s₂ =>
        d₁.printed = d₂.printed ∧ Session.BothAlike s₁ s₂) :
      Eff.TwoRun Session.BothAlike
        (do
          let d ← m
          let text ← Eff.ofExcept d.escapedString
          return some text)
        (do
          let d ← m
          let text ← Eff.ofExcept d.escapedString
          return some text)
        fun text₁ text₂ t₁ t₂ => text₁ = text₂ ∧ Session.BothAlike t₁ t₂ := by
    refine hm.bind fun d₁ d₂ => ?_
    refine Eff.TwoRun.bind (Q := fun text₁ text₂ t₁ t₂ => text₁ = text₂ ∧ Session.BothAlike t₁ t₂)
      (Eff.twoRun_ofExcept ?_) fun text₁ text₂ => ?_
    · rintro text₁ text₂ t₁ t₂ htext₁ htext₂ ⟨hd, ht⟩
      rw [SessionDescription.escapedString_of_printed hd] at htext₁
      exact ⟨Except.ok.inj (htext₁.symm.trans htext₂), ht⟩
    · exact Eff.twoRun_pure fun _ _ ht => ⟨congrArg some ht.1, ht.2⟩
  have hnone {α : Type} {m : SessionEff τ ω α}
      (hm : Eff.TwoRun Session.BothAlike m m fun _ _ => Session.BothAlike) :
      Eff.TwoRun Session.BothAlike (do let _ ← m; return none) (do let _ ← m; return none)
        fun (text₁ text₂ : Option String) t₁ t₂ => text₁ = text₂ ∧ Session.BothAlike t₁ t₂ :=
    hm.bind fun _ _ => Eff.twoRun_pure fun _ _ ht => ⟨rfl, ht⟩
  cases call₁ with
  | addOffer fromId sdp₁ =>
      cases call₂ with
      | addOffer fromId₂ sdp₂ =>
          obtain ⟨rfl, hlines⟩ := hcalls
          exact run_addOffer_alike h hlines hkept h₁ h₂
      | _ => cases hcalls
  | addParticipant ip port =>
      obtain rfl : addParticipant ip port = call₂ := hcalls
      exact hnone (Session.addParticipant_twoRun ip port) s₁ s₂ _ _ h h₁ h₂
  | removeParticipant id =>
      obtain rfl : removeParticipant id = call₂ := hcalls
      exact hnone (Session.removeParticipant_twoRun id) s₁ s₂ _ _ h h₁ h₂
  | getOffer forId =>
      obtain rfl : getOffer forId = call₂ := hcalls
      exact htext (Session.getOffer_twoRun forId) s₁ s₂ _ _ h h₁ h₂
  | addAnswer fromId sdp =>
      obtain rfl : addAnswer fromId sdp = call₂ := hcalls
      have htwo : Eff.TwoRun Session.BothAlike ((addAnswer fromId sdp).run onNewStream)
          ((addAnswer fromId sdp).run onNewStream)
          fun text₁ text₂ t₁ t₂ => text₁ = text₂ ∧ Session.BothAlike t₁ t₂ := by
        refine Eff.TwoRun.bind (Q := fun answer₁ answer₂ t₁ t₂ => answer₁ = answer₂ ∧
          Session.BothAlike t₁ t₂) (Eff.twoRun_ofExcept ?_) fun answer₁ answer₂ => ?_
        · exact fun answer₁ answer₂ t₁ t₂ h₁ h₂ ht => ⟨Except.ok.inj (h₁.symm.trans h₂), ht⟩
        · rintro t₁ t₂ u₁ u₂ ⟨rfl, ht⟩ hu₁ hu₂
          exact hnone (Session.addAnswer_twoRun fromId answer₁) t₁ t₂ u₁ u₂ ht hu₁ hu₂
      exact htwo s₁ s₂ _ _ h h₁ h₂
  | getAnswer forId =>
      obtain rfl : getAnswer forId = call₂ := hcalls
      exact htext (Session.getAnswer_twoRun forId) s₁ s₂ _ _ h h₁ h₂

/-- What a call returns in one run is what it returns in the other one, if both come to it. -/
theorem returned_alike {calls : List (Call × Call)} (h : Session.BothAlike s₁ s₂)
    (hcalls : ∀ c ∈ calls, Differ c.1 c.2) (hkept : KeepAlike onNewStream calls s₁ s₂) {i : Nat}
    (h₁ : (returned onNewStream (calls.map (·.1)) s₁)[i]? = some text₁)
    (h₂ : (returned onNewStream (calls.map (·.2)) s₂)[i]? = some text₂) : text₁ = text₂ := by
  induction calls generalizing s₁ s₂ i with
  | nil => exact nomatch h₁
  | cons c calls ih =>
      obtain ⟨hkept, hrest⟩ := hkept
      rw [List.map_cons, returned] at h₁ h₂
      cases hr₁ : (c.1.run onNewStream s₁).result with
      | error e =>
          rw [hr₁] at h₁
          exact nomatch h₁
      | ok t₁ =>
          cases hr₂ : (c.2.run onNewStream s₂).result with
          | error e =>
              rw [hr₂] at h₂
              exact nomatch h₂
          | ok t₂ =>
              rw [hr₁] at h₁
              rw [hr₂] at h₂
              obtain ⟨rfl, hs⟩ := run_alike h (hcalls c List.mem_cons_self) hkept hr₁ hr₂
              cases i with
              | zero => exact Option.some.inj (h₁.symm.trans h₂)
              | succ i =>
                  exact ih hs (fun c' hc' => hcalls c' (List.mem_cons_of_mem _ hc'))
                    (hrest _ _ hr₁ hr₂) h₁ h₂

/-- **Hidden.** In two runs of a session that differ in the transport part of the offers only, and
whose calls keep the same of it, a call that both runs come to returns the same text. -/
theorem returned_eq (onNewStream : OnNewStream τ ω) (s : Session) (t₁ t₂ : τ)
    (calls : List (Call × Call)) (hcalls : ∀ c ∈ calls, Differ c.1 c.2)
    (hkept : KeepAlike onNewStream calls (s, t₁) (s, t₂)) (i : Nat) (text₁ text₂ : Option String)
    (h₁ : (returned onNewStream (calls.map (·.1)) (s, t₁))[i]? = some text₁)
    (h₂ : (returned onNewStream (calls.map (·.2)) (s, t₂))[i]? = some text₂) : text₁ = text₂ := by
  have h : Session.BothAlike (s, t₁) (s, t₂) := ⟨rfl, rfl, rfl, fun _ => rfl⟩
  exact returned_alike h hcalls hkept h₁ h₂

end Runs

/-! ### An offer -/

def offerLines (address rtcpAddress : String) : List String :=
  ["v=0", "o=- 1 2 IN IP4 127.0.0.1", "s=-", "t=0 0", "m=audio 50123 UDP/TLS/RTP/SAVPF 111",
    "c=IN IP4 " ++ address, "a=rtcp:9 IN IP4 " ++ rtcpAddress,
    "a=candidate:1 1 udp 1 " ++ address ++ " 50123 typ host", "a=ice-ufrag:u", "a=ice-pwd:p",
    "a=setup:actpass", "a=mid:0", "a=sendonly", "a=rtpmap:111 opus/48000/2", "a=ssrc:1 cname:c"]

def offerAt (address rtcpAddress : String) : String :=
  "\r\n".intercalate (offerLines address rtcpAddress)

def offerOf (address rtcpAddress : String) : SessionDescription where
  origin := { sessionId := 1, sessionVersion := 2, unicastAddr := "127.0.0.1" }
  mediaDescriptions := [{
    type := .audio
    port := 50123
    protocols := "UDP/TLS/RTP/SAVPF"
    connectionData := some ⟨"IN", "IP4", address⟩
    rtcpConfiguration := some ⟨9, "IN", "IP4", rtcpAddress⟩
    iceCandidates := [⟨"1", 1, "udp", 1, address, 50123, "host", ""⟩]
    mediaFormats := [{ pt := 111, codec := "opus", clockRate := 48000, channels := some 2 }]
    iceUfrag := some "u"
    icePwd := some "p"
    mid := some "0"
    direction := some .sendonly
    ssrcDescription := some ⟨[⟨1, "c", ""⟩]⟩
    otherLines := ["a=setup:actpass"] }]

/-- A session with two participants, one of which offers a stream to the other one. -/
def offering (sdp : String) : List Call :=
  [addParticipant "10.0.0.2" 40000, addParticipant "10.0.0.3" 40000, addOffer 1 sdp, getOffer 2]

def exampleSession : Session where
  id := 1
  sfuConfig := SFUConfig.of "1.2.3.4" 3202 "7Ad/" "UKZe/aYNEouGzQUhChnKGiIS" ⟨0, 0⟩

def acceptStream : OnNewStream Unit Empty := some fun _ _ _ => return ()

/-- What the session returns, in the order of the calls. -/
def offered (sdp : String) : List (Option String) :=
  returned acceptStream (offering sdp) (exampleSession, ())

def joined : Session × Unit :=
  ((addParticipant "10.0.0.3" 40000).run acceptStream
    ((addParticipant "10.0.0.2" 40000).run acceptStream (exampleSession, ())).state).state

/-- The session when the second one is asked. -/
def asked (offer : SessionDescription) : Session :=
  (Session.addOffer acceptStream 1 offer joined).state.1.setState 2 .awaitAnswer

theorem offered_eq {sdp text : String} {offer : SessionDescription} {medias : List MediaDescription}
    (hparse : SessionDescription.parse sdp = .ok offer)
    (hadd : (Session.addOffer acceptStream 1 offer joined).result = .ok ())
    (hexists : (Session.addOffer acceptStream 1 offer joined).state.1.participantExists 2 = true)
    (hinit : (asked offer).participantInState .gotOffer = .ok 1)
    (hpart : (asked offer).participantExists 1 = true)
    (hmedias : ((asked offer).participant 1).outgoingStreams.mapM
      (Session.forwardedMedia (asked offer).sfuConfig .sendonly) = .ok medias)
    (htext : (Session.addMedia (asked offer).sfuConfig.sessionTemplate medias).escapedString =
      .ok text) : offered sdp = [none, none, none, some text] := by
  have hjoin : ((addParticipant "10.0.0.2" 40000).run acceptStream (exampleSession, ())).result =
      .ok none := rfl
  have hjoin' : ((addParticipant "10.0.0.3" 40000).run acceptStream
      ((addParticipant "10.0.0.2" 40000).run acceptStream (exampleSession, ())).state).result =
      .ok none := rfl
  have hrun : (addOffer 1 sdp).run acceptStream = do
      Session.addOffer acceptStream 1 offer
      return none := by
    unfold run
    dsimp only
    rw [hparse, Eff.ofExcept_ok_bind]
  have hoffer : ((addOffer 1 sdp).run acceptStream joined).result = .ok none ∧
      ((addOffer 1 sdp).run acceptStream joined).state =
        (Session.addOffer acceptStream 1 offer joined).state := by
    rw [hrun]
    rcases h : Session.addOffer acceptStream 1 offer joined with ⟨s', es, r⟩
    rw [h] at hadd
    obtain rfl : r = .ok () := hadd
    rw [Eff.bind_of_ok h]
    exact ⟨rfl, rfl⟩
  have hget : ((getOffer 2).run acceptStream
      (Session.addOffer acceptStream 1 offer joined).state).result = .ok (some text) := by
    unfold run
    dsimp only
    rw [Eff.bind_of_ok (Session.getOffer_run hexists hinit hpart hmedias)]
    show ((Eff.ofExcept (Session.addMedia (asked offer).sfuConfig.sessionTemplate
      medias).escapedString >>= _ : SessionEff Unit Empty (Option String)) _).result = _
    rw [htext]
    rfl
  unfold offered offering
  rw [returned, hjoin]
  dsimp only
  rw [returned, hjoin']
  dsimp only
  rw [returned]
  show none :: none :: (match ((addOffer 1 sdp).run acceptStream joined).result with
    | .ok text => text :: returned acceptStream [getOffer 2]
        ((addOffer 1 sdp).run acceptStream joined).state
    | .error _ => []) = _
  rw [hoffer.1, hoffer.2]
  dsimp only
  rw [returned, hget]
  rfl

def offeredSection (rtcpAddress : String) : MediaDescription where
  type := .audio
  port := 3202
  protocols := "UDP/TLS/RTP/SAVPF"
  connectionData := some ⟨"IN", "IP4", "1.2.3.4"⟩
  rtcpConfiguration := some ⟨9, "IN", "IP4", rtcpAddress⟩
  iceCandidates := [exampleSession.sfuConfig.iceCandidate]
  mediaFormats := [{
    pt := 111, codec := "opus", clockRate := 48000, channels := some 2, fbTypes := ["goog-remb"] }]
  iceUfrag := some "7Ad/"
  icePwd := some "UKZe/aYNEouGzQUhChnKGiIS"
  mid := some "0"
  direction := some .sendonly
  extensions := exampleSession.sfuConfig.audioRTPExtensions
  ssrcDescription := some ⟨[⟨1, "c", ""⟩]⟩
  otherLines := ["a=setup:actpass"]

def offeredText (rtcpAddress : String) : Except Fault String :=
  (Session.addMedia exampleSession.sfuConfig.sessionTemplate
    [offeredSection rtcpAddress]).escapedString

/-- What happens to the offer, step by step. -/
def Offered (address rtcpAddress : String) : Prop :=
  let offer := offerOf address rtcpAddress
  let out := Session.addOffer acceptStream 1 offer joined
  (∀ line ∈ offerLines address rtcpAddress, '\r' ∉ line.toList) ∧
    SessionDescription.ofLines (offerLines address rtcpAddress) = .ok offer ∧
    out.result = .ok () ∧ out.state.1.participantExists 2 = true ∧
    (asked offer).participantInState .gotOffer = .ok 1 ∧
    (asked offer).participantExists 1 = true ∧
    ((asked offer).participant 1).outgoingStreams.mapM
      (Session.forwardedMedia (asked offer).sfuConfig .sendonly) =
        .ok [offeredSection rtcpAddress] ∧
    (asked offer).sfuConfig.sessionTemplate = exampleSession.sfuConfig.sessionTemplate ∧
    (offeredText rtcpAddress).toOption.isSome = true

instance (address rtcpAddress : String) : Decidable (Offered address rtcpAddress) :=
  inferInstanceAs (Decidable (_ ∧ _ ∧ _ ∧ _ ∧ _ ∧ _ ∧ _ ∧ _ ∧ _))

section Evaluation
variable {address rtcpAddress : String} (h : Offered address rtcpAddress)
include h

theorem Offered.linesOf : Sdp.linesOf (offerAt address rtcpAddress) =
    offerLines address rtcpAddress :=
  Sdp.linesOf_intercalate (List.cons_ne_nil _ _) h.1

theorem Offered.parse : SessionDescription.parse (offerAt address rtcpAddress) =
    .ok (offerOf address rtcpAddress) := by
  show SessionDescription.ofLines (Sdp.linesOf _) = _
  rw [h.linesOf, h.2.1]

theorem Offered.text : ∃ text, offeredText rtcpAddress = .ok text := by
  have hsome := h.2.2.2.2.2.2.2.2
  cases htext : offeredText rtcpAddress with
  | error e =>
      rw [htext] at hsome
      exact nomatch hsome
  | ok text => exact ⟨text, rfl⟩

theorem Offered.offered {text : String} (htext : offeredText rtcpAddress = .ok text) :
    offered (offerAt address rtcpAddress) = [none, none, none, some text] := by
  have hparse := h.parse
  obtain ⟨-, -, hadd, hexists, hinit, hpart, hmedias, htemplate, -⟩ := h
  exact offered_eq hparse hadd hexists hinit hpart hmedias (by rw [htemplate]; exact htext)

end Evaluation

theorem offered_all : Offered "10.0.0.2" "10.0.0.2" ∧ Offered "10.0.0.9" "10.0.0.2" ∧
    Offered "10.0.0.9" "10.0.0.9" := by
  decide +kernel

/-- Two clients at different addresses, with the same a=rtcp line. -/
theorem returned_eq_moved :
    (offered (offerAt "10.0.0.2" "10.0.0.2")).length = 4 ∧
      (offered (offerAt "10.0.0.2" "10.0.0.2"))[3]? =
        (offered (offerAt "10.0.0.9" "10.0.0.2"))[3]? := by
  obtain ⟨near, moved, -⟩ := offered_all
  obtain ⟨text, htext⟩ := near.text
  have hlines : Sdp.withoutTransport (Sdp.linesOf (offerAt "10.0.0.2" "10.0.0.2")) =
      Sdp.withoutTransport (Sdp.linesOf (offerAt "10.0.0.9" "10.0.0.2")) := by
    rw [near.linesOf, moved.linesOf]
    decide +kernel
  have hdiffer : ∀ c ∈ (offering (offerAt "10.0.0.2" "10.0.0.2")).zip
      (offering (offerAt "10.0.0.9" "10.0.0.2")), Differ c.1 c.2 := by
    intro c hc
    simp only [offering, List.zip_cons_cons, List.zip_nil_right, List.mem_cons, List.not_mem_nil,
      or_false] at hc
    rcases hc with rfl | rfl | rfl | rfl
    · rfl
    · rfl
    · exact ⟨rfl, hlines⟩
    · rfl
  have hkept : (addOffer 1 (offerAt "10.0.0.2" "10.0.0.2")).kept joined.1 =
      (addOffer 1 (offerAt "10.0.0.9" "10.0.0.2")).kept joined.1 := by
    rw [kept_addOffer near.parse, kept_addOffer moved.parse]
    exact Session.newSections_kept rfl rfl
  have hkeep : KeepAlike acceptStream ((offering (offerAt "10.0.0.2" "10.0.0.2")).zip
      (offering (offerAt "10.0.0.9" "10.0.0.2"))) (exampleSession, ()) (exampleSession, ()) := by
    unfold joined at hkept
    unfold offering
    simp only [List.zip_cons_cons, List.zip_nil_right]
    have hget (s₁ s₂ : Session) : (getOffer 2).kept s₁ = (getOffer 2).kept s₂ := rfl
    exact keepAlike_cons rfl (keepAlike_cons rfl (keepAlike_cons hkept
      (keepAlike_cons (hget _ _) keepAlike_nil)))
  obtain ⟨text₁, h₁⟩ : ∃ text, (offered (offerAt "10.0.0.2" "10.0.0.2"))[3]? = some text :=
    ⟨some text, by rw [near.offered htext]; rfl⟩
  obtain ⟨text₂, h₂⟩ : ∃ text, (offered (offerAt "10.0.0.9" "10.0.0.2"))[3]? = some text :=
    ⟨some text, by rw [moved.offered htext]; rfl⟩
  refine ⟨by rw [near.offered htext]; rfl, ?_⟩
  rw [h₁, h₂, returned_eq acceptStream exampleSession () () _ hdiffer hkeep 3 text₁ text₂ h₁ h₂]

/-- The a=rtcp line tells the other participant where the one that offers is. -/
theorem returned_rtcp :
    Differ (addOffer 1 (offerAt "10.0.0.2" "10.0.0.2"))
        (addOffer 1 (offerAt "10.0.0.9" "10.0.0.9")) ∧
      (offered (offerAt "10.0.0.2" "10.0.0.2")).length = 4 ∧
      (offered (offerAt "10.0.0.9" "10.0.0.9")).length = 4 ∧
      (offered (offerAt "10.0.0.2" "10.0.0.2"))[3]? ≠
        (offered (offerAt "10.0.0.9" "10.0.0.9"))[3]? := by
  obtain ⟨near, -, far⟩ := offered_all
  obtain ⟨text, htext⟩ := near.text
  obtain ⟨text', htext'⟩ := far.text
  have hne : (offeredText "10.0.0.2").toOption ≠ (offeredText "10.0.0.9").toOption := by
    decide +kernel
  rw [near.offered htext, far.offered htext']
  refine ⟨⟨rfl, ?_⟩, rfl, rfl, fun heq => hne ?_⟩
  · rw [near.linesOf, far.linesOf]
    decide +kernel
  · rw [htext, htext']
    exact Option.some.inj heq

end Call

end Scallop
