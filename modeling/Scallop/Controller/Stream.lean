import Scallop.Lib.Except
import Scallop.Sdp

/-!
# Media streams

`p4sfu::Stream` of `lib/stream.{h,cc}`.

* `SendStreamConfig`, `ReceiveStreamConfig` : what the data plane needs to know of a stream;
* `Stream` : a media description with its configuration, which fits it;
* `Stream.ofDescription` : the constructor; `Stream.offer` : the description that is passed on;
* `Stream.Receives` : a receive stream with the SSRCs of a send stream; `ofDescription_receives`.
-/

namespace Scallop

structure DataPlaneConfig where
  addr : IPv4Port := {}
  iceUfrag : String := ""
  icePwd : String := ""
  mediaType : MediaType := .audio
  mainSSRC : SSRC := 0
  rtxSSRC : SSRC := 0
deriving DecidableEq, Repr

structure SendStreamConfig extends DataPlaneConfig
deriving DecidableEq, Repr

structure ReceiveStreamConfig extends DataPlaneConfig where
  rtcpSSRC : SSRC := 0
  rtcpRtxSSRC : SSRC := 0
deriving DecidableEq, Repr

/-- `std::variant<SendStreamConfig, ReceiveStreamConfig>`. -/
inductive StreamConfig where
  | send (config : SendStreamConfig)
  | receive (config : ReceiveStreamConfig)
deriving DecidableEq, Repr

namespace Sdp.SSRCDescription

def mainSSRC (d : SSRCDescription) : Option SSRC := d.ssrcs[0]?.map (·.ssrc)

/-- The second one, that of retransmissions, or `0`. -/
def rtxSSRC (d : SSRCDescription) : SSRC := (d.ssrcs[1]?.map (·.ssrc)).getD 0

end Sdp.SSRCDescription

/-- A configuration that the constructor makes of a description: a send stream has the SSRCs of its
description. -/
def StreamConfig.Fits (media : Sdp.MediaDescription) : StreamConfig → Prop
  | .send c => media.direction = some .sendonly ∧
      ∃ d, media.ssrcDescription = some d ∧ d.mainSSRC = some c.mainSSRC ∧ d.rtxSSRC = c.rtxSSRC
  | .receive _ => media.direction = some .recvonly

structure Stream where
  description : Sdp.MediaDescription
  dataPlaneConfig : StreamConfig
  fits : dataPlaneConfig.Fits description
deriving DecidableEq

namespace Stream

/-- The value of an optional, which must be there. -/
def deref {α : Type} : Option α → Except Fault α
  | some a => .ok a
  | none => .error .emptyOptional

def usedCandidate (media : Sdp.MediaDescription) (sfuConfig : SFUConfig) :
    Except Fault Sdp.ICECandidate := do
  let filtered ← Sdp.filterCandidatesBySubnet media.iceCandidates sfuConfig.netLimit
  match Sdp.highestPriorityICECandidate filtered with
  | some highest => return highest
  | none => .error (.invalidArgument "Stream: Stream(): no ICE candidates matching subnet filter")

/-- What both kinds of streams have: everything but the SSRCs. -/
def baseConfig (media : Sdp.MediaDescription) (sfuConfig : SFUConfig) :
    Except Fault DataPlaneConfig := do
  let highest ← usedCandidate media sfuConfig
  let ip ← IPv4.ofString highest.address
  let iceUfrag ← deref media.iceUfrag
  let icePwd ← deref media.icePwd
  return { addr := { ip, port := highest.port }, iceUfrag, icePwd, mediaType := media.type }

/-- The constructor, for `sendonly`. -/
def ofSendonly (media : Sdp.MediaDescription) (sfuConfig : SFUConfig)
    (ssrcDescription : Sdp.SSRCDescription) (hdir : media.direction = some .sendonly) :
    Except Fault Stream :=
  if ssrcDescription.ssrcValues ≠ [] then
    .error (.invalidArgument "Stream: Stream(): SSRCs can only be provided in recvonly streams")
  else match hssrc : media.ssrcDescription with
    | none => .error (.logicError "Stream: Stream: ssrc description not set in sendonly stream")
    | some d => do
        let base ← baseConfig media sfuConfig
        match hmain : d.mainSSRC with
        | none => .error .outOfBounds
        | some mainSSRC =>
            return {
              description := media
              dataPlaneConfig := .send { base with mainSSRC, rtxSSRC := d.rtxSSRC }
              fits := ⟨hdir, d, hssrc, hmain, rfl⟩ }

/-- The SSRCs with which a receiver sends feedback; without a description they are `1`. -/
def rtcpSSRCs : Option Sdp.SSRCDescription → Except Fault (SSRC × SSRC)
  | none => .ok (1, 1)
  | some d =>
      match d.mainSSRC with
      | none => .error .outOfBounds
      | some rtcpSSRC => .ok (rtcpSSRC, d.rtxSSRC)

/-- The constructor, for `recvonly`: the SSRCs are those of the send stream. -/
def ofRecvonly (media : Sdp.MediaDescription) (sfuConfig : SFUConfig)
    (ssrcDescription : Sdp.SSRCDescription) (hdir : media.direction = some .recvonly) :
    Except Fault Stream :=
  if ssrcDescription.ssrcValues = [] then
    .error (.invalidArgument "Stream: Stream(): SSRCs must be provided in recvonly streams")
  else do
    let base ← baseConfig media sfuConfig
    match ssrcDescription.mainSSRC with
    | none => .error .outOfBounds
    | some mainSSRC => do
        let (rtcpSSRC, rtcpRtxSSRC) ← rtcpSSRCs media.ssrcDescription
        return {
          description := media
          dataPlaneConfig := .receive
            { base with mainSSRC, rtxSSRC := ssrcDescription.rtxSSRC, rtcpSSRC, rtcpRtxSSRC }
          fits := hdir }

/-- The constructor of `p4sfu::Stream`. -/
def ofDescription (media : Sdp.MediaDescription) (sfuConfig : SFUConfig)
    (ssrcDescription : Sdp.SSRCDescription := {}) : Except Fault Stream :=
  match hdir : media.direction with
  | none => .error (.logicError "Stream: Stream: direction not set in description")
  | some .sendonly => ofSendonly media sfuConfig ssrcDescription hdir
  | some .recvonly => ofRecvonly media sfuConfig ssrcDescription hdir
  | some _ => .error (.invalidArgument "Stream: Stream: unsupported direction")

def offer (s : Stream) (sfuConfig : SFUConfig) : Except Fault Sdp.MediaDescription := do
  let connectionData ← deref s.description.connectionData
  return { s.description with
    port := sfuConfig.port
    connectionData := some { connectionData with connectionAddress := sfuConfig.ip }
    iceCandidates := [sfuConfig.iceCandidate]
    iceUfrag := some sfuConfig.iceUfrag
    icePwd := some sfuConfig.icePwd }

/-- What is common to both kinds of configurations. -/
def config (s : Stream) : DataPlaneConfig :=
  match s.dataPlaneConfig with
  | .send c => c.toDataPlaneConfig
  | .receive c => c.toDataPlaneConfig

/-- Whether the configuration is that of a send stream. -/
def isSend (s : Stream) : Bool :=
  match s.dataPlaneConfig with
  | .send _ => true
  | .receive _ => false

/-- A receive stream with the SSRCs of a send stream. -/
structure Receives (s sent : Stream) : Prop where
  receive : s.isSend = false
  mainSSRC : s.config.mainSSRC = sent.config.mainSSRC
  rtxSSRC : s.config.rtxSSRC = sent.config.rtxSSRC

def HasMid (s : Stream) (mid : String) : Prop := s.description.mid = some mid

instance (s : Stream) (mid : String) : Decidable (s.HasMid mid) :=
  inferInstanceAs (Decidable (s.description.mid = some mid))

/-! ## What the constructor makes -/

section Constructor
variable {media : Sdp.MediaDescription} {sfuConfig : SFUConfig} {ssrcs : Sdp.SSRCDescription}
variable {s sent : Stream}

theorem ofSendonly_description {hdir : media.direction = some .sendonly}
    (h : ofSendonly media sfuConfig ssrcs hdir = .ok s) : s.description = media := by
  unfold ofSendonly at h
  split at h
  · exact nomatch h
  · split at h
    · exact nomatch h
    · obtain ⟨base, -, h⟩ := Except.of_bind_ok h
      split at h
      · exact nomatch h
      · obtain rfl := Except.ok.inj h
        rfl

/-- A receive stream has the SSRCs that it was given. -/
theorem ofRecvonly_ok {hdir : media.direction = some .recvonly}
    (h : ofRecvonly media sfuConfig ssrcs hdir = .ok s) :
    s.description = media ∧ s.isSend = false ∧ ssrcs.mainSSRC = some s.config.mainSSRC ∧
      s.config.rtxSSRC = ssrcs.rtxSSRC := by
  unfold ofRecvonly at h
  split at h
  · exact nomatch h
  · obtain ⟨base, -, h⟩ := Except.of_bind_ok h
    split at h
    · exact nomatch h
    · rename_i mainSSRC hmain
      obtain ⟨⟨rtcpSSRC, rtcpRtxSSRC⟩, -, h⟩ := Except.of_bind_ok h
      obtain rfl := Except.ok.inj h
      exact ⟨rfl, rfl, hmain, rfl⟩

theorem ofDescription_description (h : ofDescription media sfuConfig ssrcs = .ok s) :
    s.description = media := by
  unfold ofDescription at h
  split at h
  · exact nomatch h
  · exact ofSendonly_description h
  · exact (ofRecvonly_ok h).1
  · exact nomatch h

theorem isSend_of_direction (h : s.description.direction = some .sendonly) : s.isSend = true := by
  have hfits := s.fits
  unfold isSend
  cases hconfig : s.dataPlaneConfig with
  | send c => rfl
  | receive c =>
      rw [hconfig] at hfits
      exact nomatch h.symm.trans hfits

/-- The SSRCs of a send stream are those of its description. -/
theorem ssrcs_of_isSend (hsend : sent.isSend = true)
    (hssrcs : sent.description.ssrcDescription = some ssrcs) :
    ssrcs.mainSSRC = some sent.config.mainSSRC ∧ ssrcs.rtxSSRC = sent.config.rtxSSRC := by
  have hfits := sent.fits
  unfold isSend at hsend
  unfold config
  cases hconfig : sent.dataPlaneConfig with
  | receive c =>
      rw [hconfig] at hsend
      exact nomatch hsend
  | send c =>
      rw [hconfig] at hfits
      obtain ⟨-, d, hd, hmain, hrtx⟩ := hfits
      obtain rfl := Option.some.inj (hssrcs.symm.trans hd)
      exact ⟨hmain, hrtx⟩

/-- A stream that is given the SSRCs of a send stream receives it. -/
theorem ofDescription_receives (h : ofDescription media sfuConfig ssrcs = .ok s)
    (hsend : sent.isSend = true) (hssrcs : sent.description.ssrcDescription = some ssrcs) :
    s.Receives sent := by
  obtain ⟨hmain, hrtx⟩ := ssrcs_of_isSend hsend hssrcs
  unfold ofDescription at h
  split at h
  · exact nomatch h
  · unfold ofSendonly at h
    split at h
    · exact nomatch h
    · rename_i hvalues
      have hnil : ssrcs.ssrcs = [] := List.map_eq_nil_iff.mp (not_not.mp hvalues)
      unfold Sdp.SSRCDescription.mainSSRC at hmain
      rw [hnil] at hmain
      exact nomatch hmain
  · obtain ⟨-, hreceive, hmain', hrtx'⟩ := ofRecvonly_ok h
    exact ⟨hreceive, Option.some.inj (hmain'.symm.trans hmain), hrtx'.trans hrtx⟩
  · exact nomatch h

end Constructor

theorem direction_ne_none (s : Stream) : s.description.direction ≠ none := by
  have hfits := s.fits
  cases hconfig : s.dataPlaneConfig with
  | send c =>
      rw [hconfig] at hfits
      intro h
      exact nomatch h.symm.trans hfits.1
  | receive c =>
      rw [hconfig] at hfits
      intro h
      exact nomatch h.symm.trans hfits

end Stream

end Scallop
