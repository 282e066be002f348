import Scallop.Controller.Changes
import Scallop.Controller.Programs
import Scallop.SwitchAgent.Registry

/-!
# What a session announces

The messages that the callback of the controller writes for the streams of a session.

* `onNewStream_ok` : a call that returns has written the message of the stream;
* `Session.Announced` : every stream of a participant has its message in a log; `announced_kept` : every
  step of a session keeps that;
* `newSSRCs` : the streams of the sections with new mids; `Session.offeredSSRCs`, `Session.answeredSSRCs` : those
  of an offer and of an answer;
* `Told` : what the sections of an offer or of an answer add to the log; `addOffer_told`, `addAnswer_told`.
-/

namespace Scallop

/-! ## Messages -/

namespace Stream
variable (stream : Stream) (sessionId participantId : Nat)

def ssrcs : SSRC × SSRC := (stream.config.mainSSRC, stream.config.rtxSSRC)

/-- The message for a stream of a participant. -/
def message : Rpc.AddStream := stream.dataPlaneConfig.message sessionId participantId

@[simp] theorem message_sessionId : (stream.message sessionId participantId).sessionId = sessionId := by
  unfold message
  cases stream.dataPlaneConfig <;> rfl

@[simp] theorem message_ssrcs : (stream.message sessionId participantId).ssrcs = stream.ssrcs := by
  unfold message ssrcs config
  cases stream.dataPlaneConfig <;> rfl

theorem message_direction : (stream.message sessionId participantId).direction =
    if stream.isSend then .sendonly else .recvonly := by
  unfold message isSend
  cases stream.dataPlaneConfig <;> rfl

end Stream

theorem onNewStream_ok {s : Session} {id : Nat} {stream : Stream} {t : Switches}
    (h : (onNewStream s id stream t).result = .ok ()) :
    (onNewStream s id stream t).state.announced = t.announced ++ [stream.message s.id id] := by
  unfold onNewStream at h ⊢
  rw [if_neg stream.direction_ne_none] at h ⊢
  obtain ⟨i, hi, -, hst⟩ := Eff.bind_ok h
  have hconnection := @Switches.triple_connection allowedSwitchId t t rfl
  rw [hi] at hconnection
  rw [hst, hconnection.1]
  exact Switches.announced_write

/-! ## Announced streams -/

/-- A participant sends or receives a stream. -/
def Participant.Has (p : Participant) (stream : Stream) : Prop :=
  stream ∈ p.outgoingStreams ∨ ∃ sender, stream ∈ (p.receiver sender).streams

namespace Session

/-- Every stream of a participant has its message in the log. -/
structure Announced (s : Session) (log : List Rpc.AddStream) : Prop where
  consistent : Consistent s
  messages : ∀ k, s.participantExists k = true → ∀ stream, (s.participant k).Has stream →
    stream.message s.id k ∈ log

section Announced
variable {s s' : Session} {log log' : List Rpc.AddStream} {id : Nat} {f : Participant → Participant}

theorem announced_new {sfuConfig : SFUConfig} : Announced { id, sfuConfig } log where
  consistent := consistent_new
  messages _ hk := absurd hk not_participantExists_new

theorem Announced.update (h : s.Announced log) (hexists : s.participantExists id = true)
    (hconsistent : Consistent (s.update id f)) (hlog : log ⊆ log')
    (hf : ∀ stream, (f (s.participant id)).Has stream →
      (s.participant id).Has stream ∨ stream.message s.id id ∈ log') :
    (s.update id f).Announced log' where
  consistent := hconsistent
  messages k hk stream hstream := by
    by_cases heq : k = id
    · subst heq
      rw [participant_update_self] at hstream
      exact (hf stream hstream).elim (fun h' => hlog (h.messages k hexists stream h')) fun h' => h'
    · rw [participant_update_of_ne heq] at hstream
      exact hlog (h.messages k ((participantExists_update.mp hk).resolve_left heq) stream hstream)

theorem Announced.mono (h : s.Announced log) (hlog : log ⊆ log') : s.Announced log' :=
  ⟨h.consistent, fun k hk stream hstream => hlog (h.messages k hk stream hstream)⟩

theorem Announced.quiet (h : s.Announced log) (hchange : Change s none s') : s'.Announced log := by
  have hconsistent := h.consistent.change hchange
  cases hchange with
  | other hexists hf =>
      refine h.update hexists hconsistent (fun _ hm => hm) fun stream hstream => .inl ?_
      unfold Participant.Has at hstream ⊢
      simpa only [hf.sent, hf.received] using hstream

theorem Announced.told {n : Notification} (h : s.Announced log) (hchange : Change s (some n) s') :
    s'.Announced (log ++ [n.stream.message s'.id n.participantId]) := by
  have hconsistent := h.consistent.change hchange
  have hlog : ∀ m, log ⊆ log ++ [m] := fun m => List.subset_append_left _ _
  have hlast : ∀ m, m ∈ log ++ [m] := fun m => List.mem_append_right _ (List.mem_singleton_self m)
  cases hchange with
  | send hexists hsend hmid hnew hs' =>
      subst hs'
      refine h.update hexists hconsistent (hlog _) fun stream hstream => ?_
      unfold Participant.Has at hstream ⊢
      rw [Participant.outgoingStreams_addOutgoingStream, List.mem_append] at hstream
      rcases hstream with (hstream | hstream) | hstream
      · exact .inl (.inl hstream)
      · exact .inr (List.mem_singleton.mp hstream ▸ hlast _)
      · exact .inl (.inr hstream)
  | receive hexists hsender hsent hsentMid hreceives hmid hnew hs' hinitiator =>
      subst hs'
      refine h.update hexists hconsistent (hlog _) fun stream hstream => ?_
      rcases hstream with hstream | ⟨j, hstream⟩
      · exact .inl (.inl hstream)
      · rename_i sender _ _ _
        by_cases hj : j = sender
        · rw [hj, Participant.receiver_updateReceiver_self] at hstream
          rcases List.mem_append.mp hstream with hstream | hstream
          · exact .inl (.inr ⟨_, hstream⟩)
          · exact .inr (List.mem_singleton.mp hstream ▸ hlast _)
        · rw [Participant.receiver_updateReceiver_of_ne hj] at hstream
          exact .inl (.inr ⟨_, hstream⟩)

theorem Announced.joined {ip : String} {port : UInt16} (h : s.Announced log) :
    (s.joined ip port).Announced log where
  consistent := h.consistent.joined
  messages k hk stream hstream := by
    by_cases heq : k = s.nextId
    · rw [heq, participant_joined_self] at hstream
      rcases hstream with hstream | ⟨j, hstream⟩
      · exact absurd hstream List.not_mem_nil
      · rw [Participant.receiver, Std.ExtTreeMap.getD_empty] at hstream
        exact absurd hstream List.not_mem_nil
    · rw [participant_joined_of_ne heq] at hstream
      exact h.messages k ((participantExists_joined.mp hk).resolve_left heq) stream hstream

theorem Announced.erase (h : s.Announced log) (id : Nat) : (s.erase id).Announced log where
  consistent := h.consistent.erase id
  messages k hk stream hstream := by
    obtain ⟨hne, hk⟩ := participantExists_erase.mp hk
    rw [participant_erase_of_ne hne] at hstream
    exact h.messages k hk stream hstream

theorem announced_kept : KeptBy onNewStream fun s (t : Switches) => s.Announced t.announced where
  quiet h hchange := h.quiet hchange
  told h hchange hok := onNewStream_ok hok ▸ h.told hchange

end Announced

/-! ## Sections with new mids -/

/-- The SSRCs of the sections with new mids, in order. -/
def newSSRCs (known : String → Bool) : List (String × SSRC × SSRC) → List (SSRC × SSRC)
  | [] => []
  | (mid, ssrcs) :: sections =>
      if known mid then newSSRCs known sections
      else ssrcs :: newSSRCs (fun m => known m || m = mid) sections

/-- The SSRCs of a stream that has the description. -/
def describedSSRCs (d : Sdp.SSRCDescription) : Option (SSRC × SSRC) :=
  d.mainSSRC.map fun mainSSRC => (mainSSRC, d.rtxSSRC)

/-- The mid and the SSRCs of a stream that a section of an offer is about. -/
def offeredSection (media : Sdp.MediaDescription) : Option (String × SSRC × SSRC) :=
  if media.direction = some .sendonly then do
    let mid ← media.mid
    let d ← media.ssrcDescription
    let ssrcs ← describedSSRCs d
    return (mid, ssrcs)
  else none

/-- The SSRCs of the streams that an offer adds. -/
def offeredSSRCs (s : Session) (fromId : Nat) (offer : Sdp.SessionDescription) : List (SSRC × SSRC) :=
  newSSRCs (s.participant fromId).sendsStreamWithMid
    (offer.mediaDescriptions.flatMap fun media => (offeredSection media).toList)

/-- The mid and the SSRCs of a stream that a section of an answer is about, those of the stream that the
participant `initId` sends. -/
def answeredSection (s : Session) (initId : Nat) (media : Sdp.MediaDescription) :
    Option (String × SSRC × SSRC) := do
  let mid ← media.mid
  let d ← (s.sendSSRCs initId mid).toOption
  let ssrcs ← describedSSRCs d
  return (mid, ssrcs)

/-- The SSRCs of the streams that an answer adds. -/
def answeredSSRCs (s : Session) (initId fromId : Nat) (answer : Sdp.SessionDescription) :
    List (SSRC × SSRC) :=
  newSSRCs ((s.participant fromId).receiver initId).hasStreamWithMid
    (answer.mediaDescriptions.flatMap fun media => (s.answeredSection initId media).toList)

section NewSSRCs
variable {known : String → Bool} {sections rest : List (String × SSRC × SSRC)}

theorem newSSRCs_of_known (h : ∀ e ∈ sections, known e.1 = true) :
    newSSRCs known (sections ++ rest) = newSSRCs known rest := by
  induction sections with
  | nil => rfl
  | cons e sections ih =>
      rw [List.cons_append, newSSRCs, if_pos (h e List.mem_cons_self),
        ih fun e' he' => h e' (List.mem_cons_of_mem _ he')]

theorem mem_newSSRCs {ssrcs : SSRC × SSRC} (h : ssrcs ∈ newSSRCs known sections) :
    ∃ mid, (mid, ssrcs) ∈ sections := by
  induction sections generalizing known with
  | nil => exact absurd h List.not_mem_nil
  | cons e sections ih =>
      rw [newSSRCs] at h
      split at h
      · obtain ⟨mid, hmid⟩ := ih h
        exact ⟨mid, List.mem_cons_of_mem _ hmid⟩
      · rcases List.mem_cons.mp h with rfl | h
        · exact ⟨e.1, List.mem_cons_self⟩
        · obtain ⟨mid, hmid⟩ := ih h
          exact ⟨mid, List.mem_cons_of_mem _ hmid⟩

end NewSSRCs

/-! ## What sections announce -/

/-- From `s₀` to `s`, the sections have been announced whose mids `known` did not know. -/
def Told (dir : Direction) (known : Session → String → Bool) (sections : List (String × SSRC × SSRC))
    (s₀ s : Session × Switches) : Prop :=
  s.1.id = s₀.1.id ∧ ∃ ms : List Rpc.AddStream, s.2.announced = s₀.2.announced ++ ms ∧
    (∀ m ∈ ms, m.direction = dir ∧ m.sessionId = s₀.1.id) ∧
      ∀ rest, newSSRCs (known s₀.1) (sections ++ rest) =
        ms.map Rpc.AddStream.ssrcs ++ newSSRCs (known s.1) rest

section Told
variable {dir : Direction} {known : Session → String → Bool}
variable {sections sections' : List (String × SSRC × SSRC)} {s₀ s₁ s : Session × Switches}

theorem told_of_known (hid : s.1.id = s₀.1.id) (hlog : s.2.announced = s₀.2.announced)
    (hknown : known s.1 = known s₀.1) (h : ∀ e ∈ sections, known s₀.1 e.1 = true) :
    Told dir known sections s₀ s := by
  refine ⟨hid, [], ?_, fun _ hm => absurd hm List.not_mem_nil, fun rest => ?_⟩
  · rw [hlog, List.append_nil]
  · rw [newSSRCs_of_known h, hknown]
    rfl

theorem told_of_new {m : Rpc.AddStream} {mid : String} (hid : s.1.id = s₀.1.id)
    (hlog : s.2.announced = s₀.2.announced ++ [m]) (hdir : m.direction = dir)
    (hsession : m.sessionId = s₀.1.id) (hnew : ¬ known s₀.1 mid = true)
    (hknown : ∀ mid', known s.1 mid' = (known s₀.1 mid' || mid' = mid)) :
    Told dir known [(mid, m.ssrcs)] s₀ s := by
  refine ⟨hid, [m], hlog, fun m' hm' => List.mem_singleton.mp hm' ▸ ⟨hdir, hsession⟩, fun rest => ?_⟩
  have hknown' : known s.1 = fun mid' => known s₀.1 mid' || mid' = mid := funext hknown
  rw [List.singleton_append, newSSRCs, if_neg hnew, hknown']
  rfl

theorem Told.trans (h : Told dir known sections s₀ s₁) (h' : Told dir known sections' s₁ s) :
    Told dir known (sections ++ sections') s₀ s := by
  obtain ⟨hid, ms, hlog, hms, hsections⟩ := h
  obtain ⟨hid', ms', hlog', hms', hsections'⟩ := h'
  refine ⟨hid'.trans hid, ms ++ ms', ?_, fun m hm => ?_, fun rest => ?_⟩
  · rw [hlog', hlog, List.append_assoc]
  · rcases List.mem_append.mp hm with hm | hm
    · exact hms m hm
    · exact hid ▸ hms' m hm
  · rw [List.append_assoc, hsections, hsections', List.map_append, List.append_assoc]

end Told

section Operations
variable {id init : Nat} {media : Sdp.MediaDescription} {s₀ : Session × Switches}

theorem add_told {g : Session → Session} {stream : Stream} :
    Eff.Triple (· = s₀) (do modify g; notify (some onNewStream) id stream)
      (fun _ s => s.1 = g s₀.1 ∧
        s.2.announced = s₀.2.announced ++ [stream.message (g s₀.1).id id]) fun _ _ => True := by
  refine Eff.Triple.bind (R := fun _ s => s = (g s₀.1, s₀.2)) (Eff.triple_modify ?_) fun _ => ?_
  · rintro s rfl
    rfl
  unfold notify
  refine Eff.triple_get_bind ?_
  rintro s rfl
  dsimp only
  have hcall : Eff.Triple (· = s₀.2) (onNewStream (g s₀.1) id stream)
      (fun _ t => t.announced = s₀.2.announced ++ [stream.message (g s₀.1).id id]) fun _ _ => True := by
    rintro t rfl
    cases hres : (onNewStream (g s₀.1) id stream s₀.2).result with
    | ok u => exact onNewStream_ok hres
    | error e => trivial
  refine Eff.triple_zoom hcall ?_ ?_ fun _ _ _ _ _ => trivial
  · rintro s rfl
    rfl
  · rintro s - t rfl h
    exact ⟨rfl, h⟩

theorem withCandidate_ssrcDescription {t : Transceiver} {media' : Sdp.MediaDescription}
    (h : withCandidate t media = .ok media') : media'.ssrcDescription = media.ssrcDescription := by
  unfold withCandidate at h
  split at h
  · split at h
    · exact nomatch h
    · obtain rfl := Except.ok.inj h
      rfl
  · obtain rfl := Except.ok.inj h
    rfl

/-- A send stream has the SSRCs of its description. -/
theorem describedSSRCs_of_isSend {stream : Stream} {d : Sdp.SSRCDescription} (hsend : stream.isSend = true)
    (hd : stream.description.ssrcDescription = some d) : describedSSRCs d = some stream.ssrcs := by
  obtain ⟨hmain, hrtx⟩ := Stream.ssrcs_of_isSend hsend hd
  unfold describedSSRCs Stream.ssrcs
  rw [hmain, hrtx]
  rfl

theorem hasStreamWithMid_addStream_of_mid {t : Transceiver} {stream : Stream} {mid : String}
    (hmid : stream.HasMid mid) (mid' : String) :
    (t.addStream stream).hasStreamWithMid mid' = (t.hasStreamWithMid mid' || mid' = mid) := by
  rw [Transceiver.hasStreamWithMid_addStream]
  congr 1
  rw [decide_eq_decide]
  unfold Stream.HasMid at hmid ⊢
  rw [hmid, Option.some.injEq]
  exact eq_comm

/-- The stream of a section has the SSRCs that the section says. -/
theorem offeredSection_of_new {s : Session} {stream : Stream} {mid : String}
    (hdir : media.direction = some .sendonly) (hmid : media.mid = some mid)
    (h : s.newSendStream id media = .ok stream) : offeredSection media = some (mid, stream.ssrcs) := by
  have hsend := Stream.isSend_of_direction ((newSendStream_ok h).2.trans hdir)
  have hdescription : stream.description.ssrcDescription = media.ssrcDescription := by
    unfold newSendStream at h
    obtain ⟨media', hmedia, h⟩ := Except.of_bind_ok h
    rw [Stream.ofDescription_description h]
    exact withCandidate_ssrcDescription hmedia
  have hsome : ∃ d, media.ssrcDescription = some d := by
    have hfits := stream.fits
    unfold Stream.isSend at hsend
    cases hconfig : stream.dataPlaneConfig with
    | send c =>
        rw [hconfig] at hfits
        obtain ⟨-, d, hd, -⟩ := hfits
        exact ⟨d, hdescription.symm.trans hd⟩
    | receive c =>
        rw [hconfig] at hsend
        exact nomatch hsend
  obtain ⟨d, hd⟩ := hsome
  unfold offeredSection
  rw [if_pos hdir, hmid, hd]
  show (do
    let ssrcs ← describedSSRCs d
    return (mid, ssrcs)) = _
  rw [describedSSRCs_of_isSend hsend (hdescription.trans hd)]
  rfl

theorem mid_of_offeredSection {e : String × SSRC × SSRC} (h : offeredSection media = some e) :
    media.mid = some e.1 := by
  unfold offeredSection at h
  split at h
  · obtain ⟨mid, hmid, h⟩ := Option.bind_eq_some_iff.mp h
    obtain ⟨d, -, h⟩ := Option.bind_eq_some_iff.mp h
    obtain ⟨ssrcs, -, h⟩ := Option.bind_eq_some_iff.mp h
    obtain rfl := Option.some.inj h
    exact hmid
  · exact nomatch h

abbrev knownSent (id : Nat) (s : Session) : String → Bool := (s.participant id).sendsStreamWithMid

theorem addOfferMedia_told : Eff.Triple (· = s₀) (addOfferMedia (some onNewStream) id media)
    (fun _ s => Told .sendonly (knownSent id) (offeredSection media).toList s₀ s) fun _ _ => True := by
  have hsame : ∀ sections : List (String × SSRC × SSRC),
      (∀ e ∈ sections, knownSent id s₀.1 e.1 = true) →
      ∀ s, s = s₀ → Told .sendonly (knownSent id) sections s₀ s := by
    rintro sections h s rfl
    exact told_of_known rfl rfl rfl h
  unfold addOfferMedia
  split
  · rename_i hdir
    split
    · exact Eff.triple_throw fun _ _ => trivial
    · rename_i mid hmid
      refine Eff.triple_get_bind ?_
      rintro s rfl
      split
      · rename_i hsent
        refine Eff.triple_pure (hsame _ fun e he => ?_)
        have he := mid_of_offeredSection (Option.mem_toList.mp he)
        rw [← Option.some.inj (hmid.symm.trans he)]
        exact hsent
      · rename_i hsent
        refine Eff.Triple.bind (R := fun stream s' => s' = s ∧ s.1.newSendStream id media = .ok stream)
          (Eff.triple_ofExcept (fun _ _ hnew hs => ⟨hs, hnew⟩) fun _ _ _ _ => trivial) fun stream => ?_
        refine Eff.triple_intro ?_
        rintro s' ⟨rfl, hnew⟩
        have hstreamMid : stream.HasMid mid := (newSendStream_ok hnew).1.trans hmid
        have hsend := Stream.isSend_of_direction ((newSendStream_ok hnew).2.trans hdir)
        refine add_told.mono (fun _ h => h) ?_ fun _ _ _ => trivial
        rintro - s ⟨hs, hlog⟩
        rw [offeredSection_of_new hdir hmid hnew, ← stream.message_ssrcs s'.1.id id]
        refine told_of_new ?_ hlog ?_ (stream.message_sessionId _ _) hsent fun mid' => ?_
        · rw [hs]
          rfl
        · rw [stream.message_direction, if_pos hsend]
        · rw [hs]
          unfold knownSent
          rw [participant_update_self]
          exact hasStreamWithMid_addStream_of_mid hstreamMid mid'
  · rename_i hdir
    refine Eff.triple_pure (hsame _ ?_)
    unfold offeredSection
    rw [if_neg hdir]
    exact fun _ he => absurd he List.not_mem_nil

theorem addOfferMedias_told : ∀ {medias : List Sdp.MediaDescription} {s₀ : Session × Switches},
    Eff.Triple (· = s₀) (addOfferMedias (some onNewStream) id medias)
      (fun _ s => Told .sendonly (knownSent id)
        (medias.flatMap fun media => (offeredSection media).toList) s₀ s) fun _ _ => True
  | [], _ => Eff.triple_pure fun _ hs => hs ▸ told_of_known rfl rfl rfl fun _ he => absurd he List.not_mem_nil
  | _ :: _, _ => addOfferMedia_told.bind fun _ => Eff.triple_intro fun _ htold =>
      addOfferMedias_told.mono (fun _ h => h) (fun _ _ h => htold.trans h) fun _ _ h => h

/-- From `s₀` to `s`, messages have been written for the streams with the given SSRCs. -/
def Writes (dir : Direction) (ssrcs : List (SSRC × SSRC)) (s₀ s : Session × Switches) : Prop :=
  s.1.id = s₀.1.id ∧ ∃ ms : List Rpc.AddStream, s.2.announced = s₀.2.announced ++ ms ∧
    (∀ m ∈ ms, m.direction = dir ∧ m.sessionId = s₀.1.id) ∧ ms.map Rpc.AddStream.ssrcs = ssrcs

theorem Told.writes {dir : Direction} {known : Session → String → Bool}
    {sections : List (String × SSRC × SSRC)} {s : Session × Switches}
    (h : Told dir known sections s₀ s) : Writes dir (newSSRCs (known s₀.1) sections) s₀ s := by
  obtain ⟨hid, ms, hlog, hms, hsections⟩ := h
  refine ⟨hid, ms, hlog, hms, ?_⟩
  have hall := hsections []
  rw [List.append_nil] at hall
  exact (hall.trans (List.append_nil _)).symm

theorem addOffer_writes {offer : Sdp.SessionDescription} :
    Eff.Triple (· = s₀) (addOffer (some onNewStream) id offer)
      (fun _ s => ¬ s₀.1.signalingActive = true ∧ Writes .sendonly (s₀.1.offeredSSRCs id offer) s₀ s)
      fun _ _ => True := by
  unfold addOffer
  refine Eff.triple_get_bind ?_
  rintro s₁ rfl
  refine Eff.triple_require_bind (fun _ => ?_) fun _ _ _ => trivial
  refine Eff.triple_require_bind (fun hactive => ?_) fun _ _ _ => trivial
  let s₂ : Session × Switches := (s₁.1.update id fun p =>
    { p with sender := p.sender.updateICECandidates offer }, s₁.2)
  refine Eff.Triple.bind (R := fun _ s => s = s₂) (Eff.triple_modify ?_) fun _ => ?_
  · rintro s rfl
    rfl
  have hknown : knownSent id s₂.1 = knownSent id s₁.1 := by
    funext mid
    unfold knownSent Participant.sendsStreamWithMid Transceiver.hasStreamWithMid
    rw [participant_update_self]
    exact congrArg (fun l => l.any fun stream => stream.HasMid mid)
      (Transceiver.updateICECandidates_streams _ _)
  refine Eff.Triple.bind addOfferMedias_told fun _ => Eff.triple_modify ?_
  intro s htold
  obtain ⟨hid, ms, hlog, hms, hssrcs⟩ := htold.writes
  rw [hknown] at hssrcs
  exact ⟨hactive, hid, ms, hlog, hms, hssrcs⟩

/-! ### Answers -/

abbrev knownReceived (init id : Nat) (s : Session) : String → Bool :=
  ((s.participant id).receiver init).hasStreamWithMid

theorem answeredSection_congr {s s' : Session}
    (h : (s'.participant init).outgoingStreams = (s.participant init).outgoingStreams) :
    s'.answeredSection init = s.answeredSection init := by
  funext media
  unfold answeredSection
  simp only [sendSSRCs_congr h]

theorem answeredSection_of_sent {s : Session} {mid : String} {d : Sdp.SSRCDescription} {ssrcs : SSRC × SSRC}
    (hmid : media.mid = some mid) (hd : s.sendSSRCs init mid = .ok d) (hssrcs : describedSSRCs d = some ssrcs) :
    s.answeredSection init media = some (mid, ssrcs) := by
  unfold answeredSection
  rw [hmid]
  show (do
    let d ← (s.sendSSRCs init mid).toOption
    let ssrcs ← describedSSRCs d
    return (mid, ssrcs)) = _
  rw [hd]
  show (do
    let ssrcs ← describedSSRCs d
    return (mid, ssrcs)) = _
  rw [hssrcs]
  rfl

theorem addAnswerMedia_told (h₀ : Answering init id s₀.1) :
    Eff.Triple (· = s₀) (addAnswerMedia (some onNewStream) init init id media)
      (fun _ s => Told .recvonly (knownReceived init id) (s₀.1.answeredSection init media).toList s₀ s ∧
        (s.1.participant init).outgoingStreams = (s₀.1.participant init).outgoingStreams)
      fun _ _ => True := by
  unfold addAnswerMedia
  split
  · exact Eff.triple_throw fun _ _ => trivial
  rename_i mid hmid
  refine Eff.triple_get_bind ?_
  rintro s rfl
  refine Eff.Triple.bind (R := fun ssrcs s' => s' = s ∧ s.1.sendSSRCs init mid = .ok ssrcs)
    (Eff.triple_ofExcept (fun _ _ h hs => ⟨hs, h⟩) fun _ _ _ _ => trivial) fun ssrcs => ?_
  refine Eff.triple_intro ?_
  rintro s' ⟨rfl, hssrcs⟩
  obtain ⟨sent, hsent, -, hdescription⟩ := sendSSRCs_ok hssrcs
  have hsend := h₀.consistent.sends init h₀.initExists sent hsent
  have hsection := answeredSection_of_sent hmid hssrcs (describedSSRCs_of_isSend hsend hdescription)
  let touched := s'.1.touchReceiver init id
  refine Eff.Triple.bind (R := fun _ s => s = (touched, s'.2)) (Eff.triple_modify ?_) fun _ => ?_
  · rintro s rfl
    rfl
  refine Eff.triple_get_bind ?_
  rintro s rfl
  refine Eff.Triple.bind (R := fun stream s => s = (touched, s'.2) ∧
    touched.newReceiveStream init id media ssrcs = .ok stream) (Eff.triple_ofExcept
      (fun _ _ h hs => ⟨hs, h⟩) fun _ _ _ _ => trivial) fun stream => Eff.triple_intro ?_
  rintro s ⟨rfl, hnew⟩
  have htouched : ∀ mid', knownReceived init id touched mid' = knownReceived init id s'.1 mid' := by
    intro mid'
    unfold knownReceived
    rw [show touched.participant id = _ from participant_update_self,
      Participant.receiver_updateReceiver_self]
  rw [hsection]
  split
  · rename_i hreceived
    refine Eff.triple_pure ?_
    rintro s rfl
    refine ⟨told_of_known rfl rfl (funext htouched) fun e he => ?_, outgoingStreams_touchReceiver⟩
    rw [List.mem_singleton.mp he, ← htouched]
    exact hreceived
  · rename_i hreceived
    have hmid' : stream.HasMid mid := (newReceiveStream_mid hnew).trans hmid
    have hreceives := newReceiveStream_receives hnew hsend hdescription
    have hstream : stream.ssrcs = sent.ssrcs := Prod.ext hreceives.mainSSRC hreceives.rtxSSRC
    refine add_told.mono (fun _ h => h) ?_ fun _ _ _ => trivial
    rintro - s ⟨hs, hlog⟩
    rw [← hstream, ← stream.message_ssrcs s'.1.id id]
    refine ⟨told_of_new ?_ hlog ?_ (stream.message_sessionId _ _) ?_ fun mid'' => ?_, ?_⟩
    · rw [hs]
      rfl
    · rw [stream.message_direction, hreceives.receive]
      rfl
    · rw [← htouched]
      exact hreceived
    · rw [hs, ← htouched]
      unfold knownReceived
      rw [participant_update_self, Participant.receiver_updateReceiver_self]
      exact hasStreamWithMid_addStream_of_mid hmid' mid''
    · rw [hs, outgoingStreams_receive]
      exact outgoingStreams_touchReceiver

theorem addAnswerMedias_told : ∀ {medias : List Sdp.MediaDescription} {s₀ : Session × Switches},
    Answering init id s₀.1 →
      Eff.Triple (· = s₀) (addAnswerMedias (some onNewStream) init init id medias)
        (fun _ s => Told .recvonly (knownReceived init id)
          (medias.flatMap fun media => (s₀.1.answeredSection init media).toList) s₀ s) fun _ _ => True
  | [], _, _ =>
      Eff.triple_pure fun _ hs => hs ▸ told_of_known rfl rfl rfl fun _ he => absurd he List.not_mem_nil
  | media :: medias, s₀, h₀ => by
      have hanswering := @addAnswerMedia_makes Switches (Nat × ClientMessage) onNewStream
        (fun _ _ => True) id init media ⟨fun _ _ => trivial, fun _ _ _ => trivial⟩
      refine Eff.Triple.bind ((addAnswerMedia_told h₀).and hanswering |>.mono ?_ (fun _ _ h => h)
        fun _ _ _ => trivial) fun _ => Eff.triple_intro ?_
      · rintro s rfl
        exact ⟨rfl, trivial, h₀⟩
      rintro s ⟨⟨htold, hsent⟩, -, hanswering⟩
      have hsections := answeredSection_congr hsent
      refine (addAnswerMedias_told hanswering).mono (fun _ h => h) (fun _ s' h => ?_) fun _ _ h => h
      rw [hsections] at h
      exact htold.trans h

/-- An answer of a participant that is there announces its new streams. -/
theorem addAnswer_writes {answer : Sdp.SessionDescription} (hconsistent : Consistent s₀.1)
    (hexists : s₀.1.participantExists id = true) :
    Eff.Triple (· = s₀) (addAnswer (some onNewStream) id answer)
      (fun _ s => ∃ init, s₀.1.participantInState .gotOffer = .ok init ∧
        s₀.1.participantExists init = true ∧
        Writes .recvonly (s₀.1.answeredSSRCs init id answer) s₀ s) fun _ _ => True := by
  unfold addAnswer
  refine Eff.triple_get_bind ?_
  rintro s₁ rfl
  refine Eff.Triple.bind (R := fun initKey s => s = s₁ ∧
    s₁.1.participantInState .gotOffer = .ok initKey) (Eff.triple_ofExcept (fun _ _ h hs => ⟨hs, h⟩)
      fun _ _ _ _ => trivial) fun initKey => Eff.triple_intro ?_
  rintro s ⟨rfl, hquery⟩
  have hanswering := Answering.of_query hconsistent hquery hexists
  refine Eff.Triple.bind (R := fun _ s' => s' = s) (Eff.triple_modify ?_) fun _ => ?_
  · rintro s' rfl
    refine Prod.ext ?_ rfl
    show (s'.1.update initKey fun p => p).update id (fun p => p) = s'.1
    rw [update_eq_self hanswering.initExists rfl, update_eq_self hexists rfl]
  refine Eff.triple_get_bind ?_
  rintro s' rfl
  rw [hconsistent.ids initKey hanswering.initExists]
  refine Eff.triple_require_bind (fun _ => ?_) fun _ _ _ => trivial
  have hsame := @sameStreams_addAnswerCandidates initKey (s'.1.participant id) answer
  let s₂ : Session × Switches := (s'.1.update id fun p => addAnswerCandidates p initKey answer, s'.2)
  refine Eff.Triple.bind (R := fun _ s => s = s₂) (Eff.triple_modify ?_) fun _ => ?_
  · rintro s rfl
    rfl
  have hanswering' : Answering initKey id s₂.1 :=
    hanswering.update (g := fun p => addAnswerCandidates p initKey answer)
      (hconsistent.change (.other hexists hsame)) hsame.id
      (addAnswerCandidates_signalingState _ _ _)
  have hknown : knownReceived initKey id s₂.1 = knownReceived initKey id s'.1 := by
    funext mid
    unfold knownReceived Transceiver.hasStreamWithMid
    rw [participant_update_self, hsame.received]
  have hsections : s₂.1.answeredSection initKey = s'.1.answeredSection initKey := by
    refine answeredSection_congr ?_
    by_cases hk : initKey = id
    · subst hk
      rw [participant_update_self, hsame.sent]
    · rw [participant_update_of_ne hk]
  refine Eff.Triple.bind (addAnswerMedias_told hanswering') fun _ => Eff.triple_modify ?_
  intro s htold
  obtain ⟨hid, ms, hlog, hms, hssrcs⟩ := htold.writes
  rw [hknown, hsections] at hssrcs
  exact ⟨initKey, hquery, hanswering.initExists, hid, ms, hlog, hms, hssrcs⟩

theorem exists_sent_of_answeredSSRCs {s : Session} {answer : Sdp.SessionDescription} {ssrcs : SSRC × SSRC}
    (hconsistent : Consistent s) (hinit : s.participantExists init = true)
    (h : ssrcs ∈ s.answeredSSRCs init id answer) :
    ∃ sent ∈ (s.participant init).outgoingStreams, sent.isSend = true ∧ sent.ssrcs = ssrcs := by
  obtain ⟨mid, hmid⟩ := mem_newSSRCs h
  obtain ⟨media, -, hsection⟩ := List.mem_flatMap.mp hmid
  obtain ⟨mid', -, hsection⟩ := Option.bind_eq_some_iff.mp (Option.mem_toList.mp hsection)
  obtain ⟨d, hd, hsection⟩ := Option.bind_eq_some_iff.mp hsection
  obtain ⟨ssrcs', hssrcs, hsection⟩ := Option.bind_eq_some_iff.mp hsection
  obtain ⟨-, rfl⟩ := Prod.mk.inj (Option.some.inj hsection)
  cases hres : s.sendSSRCs init mid' with
  | error e =>
      rw [hres] at hd
      exact nomatch hd
  | ok d' =>
      rw [hres] at hd
      obtain rfl : d' = d := Option.some.inj hd
      obtain ⟨sent, hsent, -, hdescription⟩ := sendSSRCs_ok hres
      have hsend := hconsistent.sends init hinit sent hsent
      refine ⟨sent, hsent, hsend, ?_⟩
      exact Option.some.inj ((describedSSRCs_of_isSend hsend hdescription).symm.trans hssrcs)

end Operations

end Session

end Scallop
