import Scallop.Net
import Scallop.Rpc

/-!
# Session descriptions

The classes of `lib/proto/sdp.h`, and `p4sfu::SFUConfig` of `lib/sfu_config.h`.

* `SessionDescription`, `MediaDescription` and their parts;
* `filterCandidatesBySubnet`, `highestPriorityICECandidate` : which candidate is used;
* `checkLines` : when a description can be printed;
* `SFUConfig`, `SFUConfig.of`.

How a description is read from a text is left open (`Parser`); how it is printed is left out.
-/

namespace Scallop

namespace Sdp

structure Origin where
  userName : String := "-"
  sessionId : Nat := 0
  sessionVersion : Nat := 0
  netType : String := "IN"
  addrType : String := "IP4"
  unicastAddr : String := "0.0.0.0"
deriving DecidableEq, Repr

structure Timing where
  start : Nat := 0
  stop : Nat := 0
deriving DecidableEq, Repr

structure ConnectionData where
  netType : String := ""
  addrType : String := ""
  connectionAddress : String := ""
deriving DecidableEq, Repr

/-- `SDP::SSRCDescription::SSRC`. -/
structure SSRCAttributes where
  ssrc : SSRC := 0
  cname : String := ""
  msid : String := ""
deriving DecidableEq, Repr

structure SSRCDescription where
  ssrcs : List SSRCAttributes := []
deriving DecidableEq, Repr

def SSRCDescription.ssrcValues (d : SSRCDescription) : List SSRC := d.ssrcs.map (·.ssrc)

structure ICECandidate where
  foundation : String := ""
  componentId : Nat := 0
  protocol : String := ""
  priority : Nat := 0
  address : String := ""
  port : UInt16 := 0
  type : String := ""
  remainder : String := ""
deriving DecidableEq, Repr

structure MediaFormat where
  pt : Nat := 0
  codec : String := ""
  clockRate : Nat := 0
  channels : Option Nat := none
  fbTypes : List String := []
  fmtParams : List String := []
deriving DecidableEq, Repr

structure RTPExtension where
  identifier : Nat
  uri : String
deriving DecidableEq, Repr

structure MediaStreamIdentifier where
  identifier : String := ""
  appData : String := ""
deriving DecidableEq, Repr

structure RTCPConfiguration where
  port : UInt16 := 9
  netType : String := ""
  addrType : String := ""
  connectionAddress : String := ""
deriving DecidableEq, Repr

/-- `SDP::MediaDescription`; its type is one of the two that `p4sfu::MediaType` has too. -/
structure MediaDescription where
  type : MediaType
  port : UInt16 := 0
  protocols : String := ""
  connectionData : Option ConnectionData := none
  rtcpConfiguration : Option RTCPConfiguration := none
  iceCandidates : List ICECandidate := []
  mediaFormats : List MediaFormat := []
  iceUfrag : Option String := none
  icePwd : Option String := none
  iceOtherLines : List String := []
  mid : Option String := none
  direction : Option Direction := none
  extensions : List RTPExtension := []
  msid : Option MediaStreamIdentifier := none
  rtcpOtherLines : List String := []
  ssrcDescription : Option SSRCDescription := none
  otherLines : List String := []
deriving DecidableEq, Repr

structure SessionDescription where
  version : Nat := 0
  origin : Origin := {}
  sessionName : String := "-"
  timing : List Timing := [{}]
  mediaDescriptions : List MediaDescription := []
  otherLines : List String := []
deriving DecidableEq, Repr

/-- `SDP::SessionDescription(const std::string&)`. -/
abbrev Parser := String → Except Fault SessionDescription

/-- What stops `SDP::SessionDescription::lines`, which prints a description. -/
def SessionDescription.checkLines (d : SessionDescription) : Except Fault Unit :=
  if d.mediaDescriptions.all (·.mid.isSome) then .ok ()
  else .error (.logicError "SessionDescription: lines() description has media w/o mid")

/-! ## Candidates -/

def filterCandidatesBySubnet (candidates : List ICECandidate) (net : IPv4Prefix) :
    Except Fault (List ICECandidate) :=
  candidates.filterM fun c => do
    let ip ← IPv4.ofString c.address
    return IPv4.isInSubnet ip net.ip net.prefixLength

/-- `SDP::highestPriorityICECandidate`: `std::max_element`, the first one of those with the highest
priority; `none` for no candidates. -/
def highestPriorityICECandidate : List ICECandidate → Option ICECandidate
  | [] => none
  | c :: cs => some (cs.foldl (fun best c => if best.priority < c.priority then c else best) c)

end Sdp

/-! ## Configuration -/

structure SFUConfig where
  ip : String
  port : UInt16
  iceUfrag : String
  icePwd : String
  sessionTemplate : Sdp.SessionDescription
  iceCandidate : Sdp.ICECandidate
  videoFbTypes : List String
  audioFbTypes : List String
  audioRTPExtensions : List Sdp.RTPExtension
  videoRTPExtensions : List Sdp.RTPExtension
  netLimit : IPv4Prefix
deriving DecidableEq, Repr

/-- The constructor of `p4sfu::SFUConfig`. -/
def SFUConfig.of (ip : String) (port : UInt16) (iceUfrag icePwd : String) (netLimit : IPv4Prefix)
    (av1ExtensionId : Nat := 13) : SFUConfig where
  ip := ip
  port := port
  iceUfrag := iceUfrag
  icePwd := icePwd
  netLimit := netLimit
  sessionTemplate :=
    { version := 0
      origin :=
        { userName := "-", sessionId := 0, sessionVersion := 0, netType := "IN", addrType := "IP4"
          unicastAddr := ip }
      otherLines := ["a=extmap-allow-mixed", "a=msid-semantic: WMS"] }
  iceCandidate :=
    { foundation := "0", componentId := 1, protocol := "udp", priority := 1, address := ip
      port := port, type := "host", remainder := "generation 0 network-id 1 network-cost 10" }
  videoFbTypes := ["goog-remb", "nack", "nack pli", "ccm fir"]
  audioFbTypes := ["goog-remb"]
  audioRTPExtensions :=
    [⟨2, "http://www.webrtc.org/experiments/rtp-hdrext/abs-send-time"⟩,
      ⟨9, "urn:ietf:params:rtp-hdrext:sdes:mid"⟩,
      ⟨14, "urn:ietf:params:rtp-hdrext:ssrc-audio-level"⟩]
  videoRTPExtensions :=
    [⟨2, "http://www.webrtc.org/experiments/rtp-hdrext/abs-send-time"⟩,
      ⟨9, "urn:ietf:params:rtp-hdrext:sdes:mid"⟩,
      ⟨av1ExtensionId,
        "https://aomediacodec.github.io/av1-rtp-spec/#dependency-descriptor-rtp-header-extension"⟩]

end Scallop
