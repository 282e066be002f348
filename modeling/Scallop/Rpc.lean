import Scallop.DataPlane.Rtp

/-!
# Messages to the switch agent

`MediaType` of `lib/p4sfu.h`, `SDP::Direction` of `lib/proto/sdp.h` and `rpc::sw::AddStream` of
`lib/rpc.h`.
-/

namespace Scallop

inductive MediaType where
  | audio
  | video
deriving DecidableEq, Repr

inductive Direction where
  | recvonly
  | sendrecv
  | sendonly
  | inactive
deriving DecidableEq, Repr

namespace Rpc

structure AddStream where
  sessionId : Nat := 0
  participantId : Nat := 0
  ip : UInt32 := 0
  port : UInt16 := 0
  iceUfrag : String := ""
  icePwd : String := ""
  mainSSRC : SSRC := 0
  rtxSSRC : SSRC := 0
  rtcpSSRC : SSRC := 0
  rtcpRtxSSRC : SSRC := 0
  mediaType : MediaType
  direction : Direction
deriving DecidableEq, Repr

def AddStream.addr (m : AddStream) : IPv4Port := { ip := m.ip, port := m.port }

end Rpc

end Scallop
