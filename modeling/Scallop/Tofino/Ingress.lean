import Scallop.Tofino.RewriteSeqnos

/-!
# The ingress control of the switch

`SwitchIngress` of `hardware/tofino/data_plane/scallop_tofino.p4`, with `Packet_Consumer` of
`includes/consumer.p4` and the ports of the testbed. A header that is not valid has fields all the same.

* `Header`, `Ingress`, `Tables` : headers, metadata and the contents of the tables;
* `consume`, `determineType`, `respond`, `classify`, `replicate`, `suppress`, `overwrite`, `bridge` : the
  blocks of the control, one after the other; `switchIngress` : the control;
* `Replicates`, `Suppresses` : the entries that a packet matches; `replicates_iff`, `suppresses_iff` : for a
  media packet they are found by its own fields;
* `switchIngress_of_replicates` : what a replicated packet leaves with; `keepsReplication_iff` : that is what it
  matched just when the entries hold the constants of `overwrite`.
-/

namespace Scallop

namespace Tofino

abbrev MacAddr := BitVec 48

abbrev Ipv4Addr := BitVec 32

abbrev TpPort := BitVec 16

abbrev PortId := BitVec 9

/-! ## Constants -/

def NULL : PacketType := 0

def PACKET_TYPE_CONSUME_SFU : PacketType := 0x01

def PACKET_TYPE_CONSUME_CLIENTS_HOST : PacketType := 0x02

def PACKET_TYPE_CONSUME_CONTROLLER : PacketType := 0x03

def PACKET_TYPE_CONSUME_FORWARDED : PacketType := 0x04

def PACKET_TYPE_CONSUME_BLUEFIELD_P0 : PacketType := 0x06

def PACKET_TYPE_CONSUME_BLUEFIELD_P1 : PacketType := 0x07

def PACKET_TYPE_SFU_ARP : PacketType := 0x11

def PACKET_TYPE_SFU_ICMP : PacketType := 0x12

def PACKET_TYPE_SFU_UDP : PacketType := 0x13

def PACKET_TYPE_SFU_TCP : PacketType := 0x14

def PACKET_TYPE_CPU_INCOMING : PacketType := 0x15

def PACKET_TYPE_APP_REPLICATE : PacketType := 0x16

def PACKET_TYPE_APP_FORWARD : PacketType := 0x17

def RTCP_SR : BitVec 8 := 200

def RTCP_RR : BitVec 8 := 201

def RTCP_NACK : BitVec 8 := 205

def RTCP_PLI : BitVec 8 := 206

def ETHERTYPE_ARP : BitVec 16 := 0x0806

def ARP_REQUEST : BitVec 16 := 1

def ARP_REPLY : BitVec 16 := 2

def CABERNET802_PORT : PortId := 4

def CABMEATY02_PORT : PortId := 44

def BLUEFIELD3_PORT_P0 : PortId := 20

def BLUEFIELD3_PORT_P1 : PortId := 36

def SFU_MAC_ADDR : MacAddr := 0x020202020202

def CABERNET802_MAC : MacAddr := 0x506b4bc40191

def CABMEATY02_MAC : MacAddr := 0x1c34da7587f3

def CABERNET802_IP : Ipv4Addr := 0x0a00d301

def CABMEATY02_IP : Ipv4Addr := 0x0a00d302

def BF3_SFU_IPV4_ADDR : Ipv4Addr := 0x0a00d3de

def BF3_LOOPBACK_UDP_PORT : TpPort := 3005

/-! ## Packets -/

structure Ethernet where
  dstAddr : MacAddr := 0
  srcAddr : MacAddr := 0
  etherType : BitVec 16 := 0
deriving DecidableEq, Repr

structure Arp where
  isValid : Bool := false
  opCode : BitVec 16 := 0
  srcMac : MacAddr := 0
  srcIp : Ipv4Addr := 0
  dstMac : MacAddr := 0
  dstIp : Ipv4Addr := 0
deriving DecidableEq, Repr

structure Ipv4 where
  isValid : Bool := false
  srcAddr : Ipv4Addr := 0
  dstAddr : Ipv4Addr := 0
deriving DecidableEq, Repr

structure Icmp where
  isValid : Bool := false
  type : BitVec 8 := 0
deriving DecidableEq, Repr

structure Udp where
  isValid : Bool := false
  srcPort : TpPort := 0
  dstPort : TpPort := 0
deriving DecidableEq, Repr

structure Rtp where
  isValid : Bool := false
  ssrc : BitVec 32 := 0
deriving DecidableEq, Repr

structure Rtcp where
  packetType : BitVec 8 := 0
  senderSsrc : BitVec 32 := 0
deriving DecidableEq, Repr

structure Av1 where
  isValid : Bool := false
  depTemplateId : BitVec 6 := 0
deriving DecidableEq, Repr

/-- `header_t`, as far as the control uses it. -/
structure Header where
  ethernet : Ethernet := {}
  arp : Arp := {}
  ipv4 : Ipv4 := {}
  icmp : Icmp := {}
  tcpIsValid : Bool := false
  udp : Udp := {}
  stunIsValid : Bool := false
  rtp : Rtp := {}
  rtcp : Rtcp := {}
  av1 : Av1 := {}
deriving DecidableEq, Repr

/-- `ig_metadata_t`, with the bridged header if it is valid. -/
structure IgMetadata where
  packetType : PacketType := 0
  bypassEgress : BitVec 1 := 0
  rtpRtcpSsrc : BitVec 32 := 0
  templateIdMod : BitVec 8 := 0
  bridgedMd : Option (BitVec 8) := none
deriving DecidableEq, Repr

/-- `ingress_intrinsic_metadata_for_tm_t`, as far as the control writes it. -/
structure TmMetadata where
  ucastEgressPort : PortId := 0
  bypassEgress : BitVec 1 := 0
  copyToCpu : BitVec 1 := 0
  mcastGrpA : BitVec 16 := 0
  rid : BitVec 16 := 0
  level1ExclusionId : BitVec 16 := 0
  level2ExclusionId : BitVec 9 := 0
deriving DecidableEq, Repr

/-- What the control reads and writes; `ingressPort` and `dropCtl` are of the other metadata. -/
structure Ingress where
  ingressPort : PortId
  hdr : Header
  igMd : IgMetadata := {}
  igTmMd : TmMetadata := {}
  dropCtl : BitVec 3 := 0
deriving DecidableEq, Repr

/-! ## Tables -/

/-- The actions of `packet_replication`. -/
inductive ReplicationAction where
  | setupReplication (mgid packetRid : BitVec 16) (l2Xid : BitVec 9)
  | noOp
deriving DecidableEq, Repr

/-- The actions of `recv_report_forwarding` and `nack_pli_forwarding`. -/
inductive ForwardingAction where
  | setupForwarding (ipDstAddr : Ipv4Addr) (udpDstPort : TpPort)
  | drop
deriving DecidableEq, Repr

/-- The actions of `video_layer_suppression`. -/
inductive SuppressionAction where
  | setLevel1ExclusionId (l1Xid : BitVec 16)
  | noOp
deriving DecidableEq, Repr

/-- The entries that the control plane has written, by their keys. -/
structure Tables where
  packetReplication : Ipv4Addr → TpPort → BitVec 32 → Option ReplicationAction := fun _ _ _ => none
  recvReportForwarding : Ipv4Addr → TpPort → Option ForwardingAction := fun _ _ => none
  nackPliForwarding : Ipv4Addr → TpPort → Option ForwardingAction := fun _ _ => none
  av1TemplateIdModLookup : BitVec 6 → Option (BitVec 8) := fun _ => none
  videoLayerSuppression : Ipv4Addr → TpPort → BitVec 32 → BitVec 8 → Option SuppressionAction :=
    fun _ _ _ _ => none

/-- The constant entries of `packet_reflector`. -/
def packetReflector (ingressPort : PortId) (udpIsValid : Bool) (udpDstPort : TpPort) : PacketType :=
  if (ingressPort, udpIsValid, udpDstPort) = (BLUEFIELD3_PORT_P0, true, BF3_LOOPBACK_UDP_PORT) then
    PACKET_TYPE_CONSUME_BLUEFIELD_P0
  else if (ingressPort, udpIsValid, udpDstPort) = (BLUEFIELD3_PORT_P1, true, BF3_LOOPBACK_UDP_PORT) then
    PACKET_TYPE_CONSUME_BLUEFIELD_P1
  else NULL

/-- A key of `packet_consumer`; what is missing matches anything. -/
structure ConsumerKey where
  ingressPort : PortId
  etherType : Option (BitVec 16)
  arpIsValid : Bool
  arpDstIp : Option Ipv4Addr
  arpOpCode : Option (BitVec 16)
  ipv4IsValid : Bool
  ipv4SrcAddr : Option Ipv4Addr
  ipv4DstAddr : Option Ipv4Addr

/-- The constant entries of `packet_consumer`; the first that matches counts. -/
def packetConsumerEntries : List (ConsumerKey × PacketType) := [
  -- to the Bluefield DPU, and from it to the clients host or the controller
  (⟨CABERNET802_PORT, none, false, none, none, true, some CABERNET802_IP, some BF3_SFU_IPV4_ADDR⟩,
    PACKET_TYPE_CONSUME_BLUEFIELD_P0),
  (⟨CABMEATY02_PORT, none, false, none, none, true, some CABMEATY02_IP, some BF3_SFU_IPV4_ADDR⟩,
    PACKET_TYPE_CONSUME_BLUEFIELD_P0),
  (⟨BLUEFIELD3_PORT_P0, none, false, none, none, true, some BF3_SFU_IPV4_ADDR, some CABMEATY02_IP⟩,
    PACKET_TYPE_CONSUME_CLIENTS_HOST),
  (⟨BLUEFIELD3_PORT_P0, none, false, none, none, true, some BF3_SFU_IPV4_ADDR, some CABERNET802_IP⟩,
    PACKET_TYPE_CONSUME_CONTROLLER),
  (⟨BLUEFIELD3_PORT_P1, none, false, none, none, true, some BF3_SFU_IPV4_ADDR, some CABMEATY02_IP⟩,
    PACKET_TYPE_CONSUME_CLIENTS_HOST),
  (⟨BLUEFIELD3_PORT_P1, none, false, none, none, true, some BF3_SFU_IPV4_ADDR, some CABERNET802_IP⟩,
    PACKET_TYPE_CONSUME_CONTROLLER),
  -- ARP
  (⟨CABERNET802_PORT, some ETHERTYPE_ARP, true, some SFU_IPV4_ADDR, some ARP_REQUEST, false, none, none⟩,
    PACKET_TYPE_CONSUME_SFU),
  (⟨CABMEATY02_PORT, some ETHERTYPE_ARP, true, some SFU_IPV4_ADDR, some ARP_REQUEST, false, none, none⟩,
    PACKET_TYPE_CONSUME_SFU),
  (⟨CABERNET802_PORT, some ETHERTYPE_ARP, true, none, none, false, none, none⟩, PACKET_TYPE_CONSUME_CLIENTS_HOST),
  (⟨CABMEATY02_PORT, some ETHERTYPE_ARP, true, none, none, false, none, none⟩, PACKET_TYPE_CONSUME_CONTROLLER),
  -- IP
  (⟨CABERNET802_PORT, none, false, none, none, true, some CABERNET802_IP, some SFU_IPV4_ADDR⟩,
    PACKET_TYPE_CONSUME_SFU),
  (⟨CABMEATY02_PORT, none, false, none, none, true, some CABMEATY02_IP, some SFU_IPV4_ADDR⟩,
    PACKET_TYPE_CONSUME_SFU),
  (⟨CABERNET802_PORT, none, false, none, none, true, some CABERNET802_IP, some CABMEATY02_IP⟩,
    PACKET_TYPE_CONSUME_CLIENTS_HOST),
  (⟨CABMEATY02_PORT, none, false, none, none, true, some CABMEATY02_IP, some CABERNET802_IP⟩,
    PACKET_TYPE_CONSUME_CONTROLLER),
  -- from the switch agent
  (⟨.ofNat 9 CPU_PORT, some ETHERTYPE_ARP, true, none, none, false, none, none⟩, NULL),
  (⟨.ofNat 9 CPU_PORT, none, false, none, none, true, some SFU_IPV4_ADDR, some CABMEATY02_IP⟩,
    PACKET_TYPE_CONSUME_CLIENTS_HOST),
  (⟨.ofNat 9 CPU_PORT, none, false, none, none, true, some SFU_IPV4_ADDR, some CABERNET802_IP⟩,
    PACKET_TYPE_CONSUME_CONTROLLER),
  -- any other IP
  (⟨CABERNET802_PORT, none, false, none, none, true, none, none⟩, PACKET_TYPE_CONSUME_CLIENTS_HOST),
  (⟨CABMEATY02_PORT, none, false, none, none, true, none, none⟩, PACKET_TYPE_CONSUME_CONTROLLER)]

def ternary {w : Nat} (key : Option (BitVec w)) (x : BitVec w) : Bool := key.all (· = x)

def ConsumerKey.matches (k : ConsumerKey) (ingressPort : PortId) (hdr : Header) : Bool :=
  k.ingressPort = ingressPort && ternary k.etherType hdr.ethernet.etherType && k.arpIsValid == hdr.arp.isValid &&
    ternary k.arpDstIp hdr.arp.dstIp && ternary k.arpOpCode hdr.arp.opCode && k.ipv4IsValid == hdr.ipv4.isValid &&
    ternary k.ipv4SrcAddr hdr.ipv4.srcAddr && ternary k.ipv4DstAddr hdr.ipv4.dstAddr

def packetConsumer (ingressPort : PortId) (hdr : Header) : PacketType :=
  let packetType := packetReflector ingressPort hdr.udp.isValid hdr.udp.dstPort
  if packetType = NULL then
    ((packetConsumerEntries.find? fun e => e.1.matches ingressPort hdr).map (·.2)).getD NULL
  else packetType

namespace Ingress

/-! ## Actions -/

def drop (s : Ingress) : Ingress := { s with dropCtl := 1 }

def copyToCpu (s : Ingress) : Ingress := { s with igTmMd := { s.igTmMd with copyToCpu := 1 } }

def bypassEgress (s : Ingress) : Ingress :=
  { s with igTmMd := { s.igTmMd with bypassEgress := 1 }, igMd := { s.igMd with bypassEgress := 1 } }

def setEgressPort (egressPort : PortId) (s : Ingress) : Ingress :=
  { s with igTmMd := { s.igTmMd with ucastEgressPort := egressPort } }

def setPacketType (packetType : PacketType) (s : Ingress) : Ingress :=
  { s with igMd := { s.igMd with packetType } }

def setEthernet (srcAddr dstAddr : MacAddr) (s : Ingress) : Ingress :=
  { s with hdr := { s.hdr with ethernet := { s.hdr.ethernet with srcAddr, dstAddr } } }

def craftArpReply (s : Ingress) : Ingress :=
  { s with hdr := { s.hdr with
      arp := { s.hdr.arp with
        opCode := ARP_REPLY
        dstMac := s.hdr.arp.srcMac
        srcMac := SFU_MAC_ADDR
        dstIp := s.hdr.arp.srcIp
        srcIp := SFU_IPV4_ADDR }
      ethernet := { s.hdr.ethernet with dstAddr := s.hdr.ethernet.srcAddr, srcAddr := SFU_MAC_ADDR } } }

def craftIcmpResponse (s : Ingress) : Ingress :=
  { s with hdr := { s.hdr with
      icmp := { s.hdr.icmp with type := 0 }
      ipv4 := { s.hdr.ipv4 with dstAddr := s.hdr.ipv4.srcAddr, srcAddr := SFU_IPV4_ADDR }
      ethernet := { s.hdr.ethernet with dstAddr := s.hdr.ethernet.srcAddr, srcAddr := SFU_MAC_ADDR } } }

def setMacForCpuIncoming (s : Ingress) : Ingress := s.setEthernet SFU_MAC_ADDR CABMEATY02_MAC

/-- `setup_forwarding` or `drop`. -/
def forward : ForwardingAction → Ingress → Ingress
  | .setupForwarding ipDstAddr udpDstPort, s =>
      { s with hdr := { s.hdr with
          ipv4 := { s.hdr.ipv4 with srcAddr := SFU_IPV4_ADDR, dstAddr := ipDstAddr }
          udp := { s.hdr.udp with srcPort := SFU_UDP_PORT, dstPort := udpDstPort }
          ethernet := { s.hdr.ethernet with srcAddr := SFU_MAC_ADDR, dstAddr := CABMEATY02_MAC } } }
  | .drop, s => s.drop

/-- `setup_replication` or `no_op`; the unicast port is set to an invalid value. -/
def setupReplication : ReplicationAction → Ingress → Ingress
  | .setupReplication mgid packetRid l2Xid, s =>
      { s with igTmMd := { s.igTmMd with
          mcastGrpA := mgid
          rid := packetRid
          level2ExclusionId := l2Xid
          ucastEgressPort := 0x1ff } }
  | .noOp, s => s

/-- `set_level1_exclusion_id` or `no_op`. -/
def setLevel1ExclusionId : SuppressionAction → Ingress → Ingress
  | .setLevel1ExclusionId l1Xid, s => { s with igTmMd := { s.igTmMd with level1ExclusionId := l1Xid } }
  | .noOp, s => s

/-! ## The blocks of the control -/

def forwarded (s : Ingress) : Ingress := s.bypassEgress.setPacketType PACKET_TYPE_CONSUME_FORWARDED

def consume (s : Ingress) : Ingress :=
  { s with igMd := { s.igMd with packetType := packetConsumer s.ingressPort s.hdr, bypassEgress := 0 } }

/-- Of which type the packet is; what a host consumes is passed on. -/
def determineType (s : Ingress) : Ingress :=
  if s.igMd.packetType = NULL then s.drop.bypassEgress
  else if s.igMd.packetType = PACKET_TYPE_CONSUME_BLUEFIELD_P0 then
    (s.setEgressPort BLUEFIELD3_PORT_P0).forwarded
  else if s.igMd.packetType = PACKET_TYPE_CONSUME_BLUEFIELD_P1 then
    (s.setEgressPort BLUEFIELD3_PORT_P1).forwarded
  else if s.igMd.packetType = PACKET_TYPE_CONSUME_CLIENTS_HOST then
    ((s.setEgressPort CABMEATY02_PORT).setEthernet CABERNET802_MAC CABMEATY02_MAC).forwarded
  else if s.igMd.packetType = PACKET_TYPE_CONSUME_CONTROLLER then
    ((s.setEgressPort CABERNET802_PORT).setEthernet CABMEATY02_MAC CABERNET802_MAC).forwarded
  else if s.hdr.arp.isValid ∧ s.hdr.arp.opCode = ARP_REQUEST then
    if s.hdr.arp.dstIp = SFU_IPV4_ADDR then s.setPacketType PACKET_TYPE_SFU_ARP else s
  else if s.hdr.ipv4.isValid ∧ s.hdr.icmp.isValid then s.setPacketType PACKET_TYPE_SFU_ICMP
  else if s.ingressPort = .ofNat 9 CPU_PORT then s.setPacketType PACKET_TYPE_CPU_INCOMING
  else if s.hdr.ipv4.isValid ∧ s.hdr.ipv4.dstAddr = SFU_IPV4_ADDR then
    if s.hdr.udp.isValid ∧ s.hdr.udp.dstPort = SFU_UDP_PORT then s.setPacketType PACKET_TYPE_SFU_UDP
    else if s.hdr.tcpIsValid then s.setPacketType PACKET_TYPE_SFU_TCP
    else s
  else s

def respond (t : Tables) (s : Ingress) : Ingress :=
  if s.igMd.packetType = PACKET_TYPE_SFU_ARP then
    (s.craftArpReply.setEgressPort s.ingressPort).bypassEgress
  else if s.igMd.packetType = PACKET_TYPE_SFU_ICMP then
    (s.craftIcmpResponse.setEgressPort s.ingressPort).bypassEgress
  else if s.igMd.packetType = PACKET_TYPE_CPU_INCOMING then
    (s.setMacForCpuIncoming.setEgressPort CABMEATY02_PORT).bypassEgress
  else if s.igMd.packetType ≠ PACKET_TYPE_CONSUME_FORWARDED ∧ s.igMd.packetType ≠ PACKET_TYPE_SFU_UDP then
    s.drop.bypassEgress
  else if s.igMd.packetType ≠ PACKET_TYPE_CONSUME_FORWARDED ∧ s.hdr.stunIsValid then s.copyToCpu.bypassEgress
  else if s.igMd.packetType ≠ PACKET_TYPE_CONSUME_FORWARDED ∧ s.hdr.av1.isValid then
    let templateIdMod := (t.av1TemplateIdModLookup s.hdr.av1.depTemplateId).getD 64
    let s := { s with igMd := { s.igMd with templateIdMod } }
    if s.igMd.templateIdMod = 0 then s.copyToCpu else s
  else s

/-- To be replicated, or forwarded to the sender. -/
def classify (t : Tables) (s : Ingress) : Ingress :=
  if s.igMd.packetType ≠ PACKET_TYPE_CONSUME_FORWARDED ∧ s.hdr.rtp.isValid then
    { s with igMd := { s.igMd with
        rtpRtcpSsrc := s.hdr.rtp.ssrc, packetType := PACKET_TYPE_APP_REPLICATE } }
  else if s.igMd.packetType ≠ PACKET_TYPE_CONSUME_FORWARDED ∧ s.hdr.rtcp.packetType = RTCP_SR then
    { s with igMd := { s.igMd with
        rtpRtcpSsrc := s.hdr.rtcp.senderSsrc, packetType := PACKET_TYPE_APP_REPLICATE } }
  else if s.igMd.packetType ≠ PACKET_TYPE_CONSUME_FORWARDED ∧ s.hdr.rtcp.packetType = RTCP_RR then
    let action := (t.recvReportForwarding s.hdr.ipv4.srcAddr s.hdr.udp.srcPort).getD .drop
    ((s.forward action).setPacketType PACKET_TYPE_APP_FORWARD).bypassEgress
  else if s.igMd.packetType ≠ PACKET_TYPE_CONSUME_FORWARDED ∧
      (s.hdr.rtcp.packetType = RTCP_NACK ∨ s.hdr.rtcp.packetType = RTCP_PLI) then
    let action := (t.nackPliForwarding s.hdr.ipv4.srcAddr s.hdr.udp.srcPort).getD .drop
    ((s.forward action).setPacketType PACKET_TYPE_APP_FORWARD).bypassEgress
  else s

/-- The entry of `packet_replication` for the packet. -/
def replicationEntry (t : Tables) (s : Ingress) : Option ReplicationAction :=
  t.packetReplication s.hdr.ipv4.srcAddr s.hdr.udp.srcPort s.igMd.rtpRtcpSsrc

def replicate (t : Tables) (s : Ingress) : Ingress :=
  if s.igMd.packetType = PACKET_TYPE_APP_REPLICATE then s.setupReplication ((s.replicationEntry t).getD .noOp) else s

/-- The entry of `video_layer_suppression` for the packet. -/
def suppressionEntry (t : Tables) (s : Ingress) : Option SuppressionAction :=
  t.videoLayerSuppression s.hdr.ipv4.srcAddr s.hdr.udp.srcPort s.hdr.rtp.ssrc s.igMd.templateIdMod

def suppress (t : Tables) (s : Ingress) : Ingress :=
  if s.igMd.packetType ≠ PACKET_TYPE_CONSUME_FORWARDED ∧ s.hdr.av1.isValid then
    s.setLevel1ExclusionId ((s.suppressionEntry t).getD .noOp)
  else s

/-- The metadata that is written whatever has been looked up. -/
def overwrite (s : Ingress) : Ingress :=
  if s.igMd.packetType ≠ PACKET_TYPE_CONSUME_FORWARDED then
    { s with igTmMd := { s.igTmMd with rid := 2, level1ExclusionId := 1, level2ExclusionId := 1 } }
  else s

/-- The template goes with the packet to the egress. -/
def bridge (s : Ingress) : Ingress :=
  if s.igMd.bypassEgress = 0 then
    { s with igMd := { s.igMd with bridgedMd := some s.igMd.templateIdMod } }
  else s

/-- What the tables for replication are applied to. -/
def classified (t : Tables) (s : Ingress) : Ingress := (s.consume.determineType.respond t).classify t

end Ingress

def switchIngress (t : Tables) (s : Ingress) : Ingress :=
  (((s.classified t).replicate t).suppress t).overwrite.bridge

/-! ## The entries that are matched -/

/-- The packet is replicated, and matches an entry that says how. -/
def Replicates (t : Tables) (s : Ingress) (mgid packetRid : BitVec 16) (l2Xid : BitVec 9) : Prop :=
  (s.classified t).igMd.packetType = PACKET_TYPE_APP_REPLICATE ∧
    (s.classified t).replicationEntry t = some (.setupReplication mgid packetRid l2Xid)

/-- The packet is a video packet, and matches an entry that says whom it is not sent to. -/
def Suppresses (t : Tables) (s : Ingress) (l1Xid : BitVec 16) : Prop :=
  ((s.classified t).replicate t).hdr.av1.isValid = true ∧
    ((s.classified t).replicate t).suppressionEntry t = some (.setLevel1ExclusionId l1Xid)

/-- What has been looked up is what the packet leaves with. -/
def KeepsReplication (t : Tables) (s : Ingress) : Prop :=
  ∀ mgid packetRid l2Xid, Replicates t s mgid packetRid l2Xid →
    (switchIngress t s).igTmMd.mcastGrpA = mgid ∧ (switchIngress t s).igTmMd.rid = packetRid ∧
      (switchIngress t s).igTmMd.level2ExclusionId = l2Xid ∧
      ∀ l1Xid, Suppresses t s l1Xid → (switchIngress t s).igTmMd.level1ExclusionId = l1Xid

section Replication
variable {t : Tables} {s : Ingress} {mgid packetRid : BitVec 16} {l2Xid : BitVec 9}

@[simp] theorem replicate_igMd : (s.replicate t).igMd = s.igMd := by
  unfold Ingress.replicate
  split
  next =>
    unfold Ingress.setupReplication
    split
    next => rfl
    next => rfl
  next => rfl

@[simp] theorem suppress_igMd : (s.suppress t).igMd = s.igMd := by
  unfold Ingress.suppress
  split
  next =>
    unfold Ingress.setLevel1ExclusionId
    split
    next => rfl
    next => rfl
  next => rfl

/-- Suppression writes nothing but the level-1 exclusion id. -/
theorem suppress_igTmMd : ∃ l1Xid, (s.suppress t).igTmMd = { s.igTmMd with level1ExclusionId := l1Xid } := by
  unfold Ingress.suppress
  split
  next =>
    unfold Ingress.setLevel1ExclusionId
    split
    next => exact ⟨_, rfl⟩
    next => exact ⟨_, rfl⟩
  next => exact ⟨_, rfl⟩

@[simp] theorem bridge_igTmMd : s.bridge.igTmMd = s.igTmMd := by
  unfold Ingress.bridge
  split
  next => rfl
  next => rfl

theorem overwrite_igTmMd (h : s.igMd.packetType ≠ PACKET_TYPE_CONSUME_FORWARDED) :
    s.overwrite.igTmMd = { s.igTmMd with rid := 2, level1ExclusionId := 1, level2ExclusionId := 1 } := by
  unfold Ingress.overwrite
  rw [if_pos h]

/-- A replicated packet keeps its multicast group only. -/
theorem switchIngress_of_replicates (h : Replicates t s mgid packetRid l2Xid) :
    (switchIngress t s).igTmMd = { (s.classified t).igTmMd with
      mcastGrpA := mgid
      ucastEgressPort := 0x1ff
      rid := 2
      level1ExclusionId := 1
      level2ExclusionId := 1 } := by
  obtain ⟨htype, hentry⟩ := h
  have hne : (((s.classified t).replicate t).suppress t).igMd.packetType ≠ PACKET_TYPE_CONSUME_FORWARDED := by
    rw [suppress_igMd, replicate_igMd, htype]
    decide
  have hreplicate : ((s.classified t).replicate t).igTmMd = { (s.classified t).igTmMd with
      mcastGrpA := mgid, rid := packetRid, level2ExclusionId := l2Xid, ucastEgressPort := 0x1ff } := by
    unfold Ingress.replicate
    rw [if_pos htype, hentry]
    rfl
  obtain ⟨l1Xid, hsuppress⟩ := suppress_igTmMd (t := t) (s := (s.classified t).replicate t)
  unfold switchIngress
  rw [bridge_igTmMd, overwrite_igTmMd hne, hsuppress, hreplicate]

/-- A media packet for the SFU, as the parser leaves it. -/
structure MediaForSfu (s : Ingress) : Prop where
  sfu : s.consume.determineType.igMd.packetType = PACKET_TYPE_SFU_UDP
  rtp : s.hdr.rtp.isValid = true
  stun : s.hdr.stunIsValid = false

/-- The headers of a packet that is not passed on stay as they are. -/
theorem determineType_hdr :
    s.determineType.igMd.packetType = PACKET_TYPE_CONSUME_FORWARDED ∨ s.determineType.hdr = s.hdr := by
  unfold Ingress.determineType
  split
  next => exact .inr rfl
  next =>
    split
    next => exact .inl rfl
    next =>
      split
      next => exact .inl rfl
      next =>
        split
        next => exact .inl rfl
        next =>
          split
          next => exact .inl rfl
          next =>
            right
            split_ifs <;> rfl

/-- The template of a video packet is looked up. -/
theorem respond_sfu (h : s.igMd.packetType = PACKET_TYPE_SFU_UDP) (hstun : s.hdr.stunIsValid = false) :
    (s.respond t).hdr = s.hdr ∧ (s.respond t).igMd = if s.hdr.av1.isValid then
      { s.igMd with templateIdMod := (t.av1TemplateIdModLookup s.hdr.av1.depTemplateId).getD 64 } else s.igMd := by
  have hne (c : PacketType) (hc : PACKET_TYPE_SFU_UDP ≠ c) : ¬ s.igMd.packetType = c := by
    rw [h]
    exact hc
  unfold Ingress.respond
  rw [if_neg (hne _ (by decide)), if_neg (hne _ (by decide)), if_neg (hne _ (by decide)),
    if_neg fun hboth => hboth.2 h, if_neg fun hboth => absurd (hstun.symm.trans hboth.2) (by decide)]
  split
  next hav1 =>
    rw [if_pos hav1.2]
    dsimp only
    split
    next => exact ⟨rfl, rfl⟩
    next => exact ⟨rfl, rfl⟩
  next hav1 =>
    rw [if_neg fun hvalid => hav1 ⟨hne _ (by decide), hvalid⟩]
    exact ⟨rfl, rfl⟩

theorem classify_rtp (h : s.igMd.packetType ≠ PACKET_TYPE_CONSUME_FORWARDED) (hrtp : s.hdr.rtp.isValid = true) :
    s.classify t = { s with igMd := { s.igMd with
      rtpRtcpSsrc := s.hdr.rtp.ssrc, packetType := PACKET_TYPE_APP_REPLICATE } } := if_pos ⟨h, hrtp⟩

/-- The headers and the type of a media packet, and its template if it has one. -/
theorem MediaForSfu.classified (h : MediaForSfu s) : (s.classified t).hdr = s.hdr ∧
    (s.classified t).igMd.packetType = PACKET_TYPE_APP_REPLICATE ∧
    (s.classified t).igMd.rtpRtcpSsrc = s.hdr.rtp.ssrc ∧
    (s.hdr.av1.isValid = true →
      (s.classified t).igMd.templateIdMod = (t.av1TemplateIdModLookup s.hdr.av1.depTemplateId).getD 64) := by
  have hdetermined : s.consume.determineType.hdr = s.hdr :=
    determineType_hdr.resolve_left (by rw [h.sfu]; decide)
  obtain ⟨hhdr, higMd⟩ := respond_sfu (t := t) h.sfu (hdetermined ▸ h.stun)
  rw [hdetermined] at hhdr higMd
  have htype : (s.consume.determineType.respond t).igMd.packetType ≠ PACKET_TYPE_CONSUME_FORWARDED := by
    rw [higMd]
    split
    next => exact h.sfu ▸ (by decide)
    next => exact h.sfu ▸ (by decide)
  unfold Ingress.classified
  rw [classify_rtp htype (hhdr ▸ h.rtp), hhdr]
  refine ⟨rfl, rfl, rfl, fun hav1 => ?_⟩
  rw [higMd, if_pos hav1]

/-- A media packet is replicated by its source and its SSRC. -/
theorem replicates_iff (h : MediaForSfu s) : Replicates t s mgid packetRid l2Xid ↔
    t.packetReplication s.hdr.ipv4.srcAddr s.hdr.udp.srcPort s.hdr.rtp.ssrc =
      some (.setupReplication mgid packetRid l2Xid) := by
  obtain ⟨hhdr, htype, hssrc, -⟩ := h.classified (t := t)
  unfold Replicates Ingress.replicationEntry
  rw [hhdr, htype, hssrc]
  exact and_iff_right rfl

@[simp] theorem replicate_hdr : (s.replicate t).hdr = s.hdr := by
  unfold Ingress.replicate
  split
  next =>
    unfold Ingress.setupReplication
    split
    next => rfl
    next => rfl
  next => rfl

/-- Whom a video packet is not sent to goes by its template as well. -/
theorem suppresses_iff (h : MediaForSfu s) {l1Xid : BitVec 16} : Suppresses t s l1Xid ↔ s.hdr.av1.isValid = true ∧
    t.videoLayerSuppression s.hdr.ipv4.srcAddr s.hdr.udp.srcPort s.hdr.rtp.ssrc
      ((t.av1TemplateIdModLookup s.hdr.av1.depTemplateId).getD 64) = some (.setLevel1ExclusionId l1Xid) := by
  obtain ⟨hhdr, -, -, htemplate⟩ := h.classified (t := t)
  unfold Suppresses Ingress.suppressionEntry
  rw [replicate_hdr, replicate_igMd, hhdr]
  exact and_congr_right fun hav1 => by rw [htemplate hav1]

/-- What has been looked up is kept just when the entries hold what is written in the end. -/
theorem keepsReplication_iff (t : Tables) (s : Ingress) :
    KeepsReplication t s ↔ ∀ mgid packetRid l2Xid, Replicates t s mgid packetRid l2Xid →
      packetRid = 2 ∧ l2Xid = 1 ∧ ∀ l1Xid, Suppresses t s l1Xid → l1Xid = 1 := by
  unfold KeepsReplication
  refine forall_congr' fun mgid => forall_congr' fun packetRid => forall_congr' fun l2Xid =>
    forall_congr' fun h => ?_
  rw [switchIngress_of_replicates h]
  constructor
  · intro ⟨_, hrid, hl2, hl1⟩
    exact ⟨hrid.symm, hl2.symm, fun l1Xid hs => (hl1 l1Xid hs).symm⟩
  · intro ⟨hrid, hl2, hl1⟩
    exact ⟨rfl, hrid.symm, hl2.symm, fun l1Xid hs => (hl1 l1Xid hs).symm⟩

/-- A video packet from one of the hosts, and entries for its sender. -/
def senderPacket : Ingress where
  ingressPort := CABERNET802_PORT
  hdr :=
    { ipv4 := { isValid := true, srcAddr := CABERNET802_IP, dstAddr := SFU_IPV4_ADDR }
      udp := { isValid := true, srcPort := 50000, dstPort := SFU_UDP_PORT }
      rtp := { isValid := true, ssrc := 7 }
      av1 := { isValid := true } }

def senderTables : Tables where
  packetReplication _ _ _ := some (.setupReplication 1 1 4)
  videoLayerSuppression _ _ _ _ := some (.setLevel1ExclusionId 3)

/-- The packet leaves with other identifiers than its sender's. -/
theorem senderPacket_not_keeps : Replicates senderTables senderPacket 1 1 4 ∧ Suppresses senderTables senderPacket 3 ∧
    ¬ KeepsReplication senderTables senderPacket := by
  have hreplicates : Replicates senderTables senderPacket 1 1 4 := ⟨by decide, by decide⟩
  refine ⟨hreplicates, ⟨by decide, by decide⟩, fun h => ?_⟩
  have hrid := (h 1 1 4 hreplicates).2.1
  rw [switchIngress_of_replicates hreplicates] at hrid
  exact absurd hrid (by decide)

end Replication

end Tofino

end Scallop
