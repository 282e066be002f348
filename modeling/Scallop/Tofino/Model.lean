import Scallop.Lib.Allocation
import Scallop.Net

/-!
# The packet replication of the switch

The class `PRE` of `hardware/tofino/control_plane/tofino_interface.py`.

* `Pre` : the dictionaries of the class, and the tables of the switch;
* `updateLocalState`, `updateMappings`, `processRules` : the three parts of `add_stream`;
* `Pre.addStream`, `Pre.addStreams` : one call and many.
-/

namespace Scallop

namespace Tofino

inductive PyError where
  | keyError
  | attributeError
  | typeError
  | addressValueError
  | rpcException
deriving DecidableEq, Repr

/-- Reserved SSRC to indicate no retransmission stream. -/
def NO_RTX_SSRC : Int := 0

def EGRESS_PORTS : List (String × Nat) := [("10.0.211.1", 4), ("10.0.211.2", 44)]

abbrev Endpoint := String × Int

variable {μ κ α τ σ : Type}

/-- The arguments of `add_stream`. -/
structure AddStream (μ : Type) where
  mid : μ
  sip : String
  sport : Int
  ssrc : Int
  ssrcRtx : Int
  dip : String
  dport : Int
deriving DecidableEq, Repr

def AddStream.src (c : AddStream μ) : Endpoint := (c.sip, c.sport)

def AddStream.dst (c : AddStream μ) : Endpoint := (c.dip, c.dport)

/-- `f` for the stream, and for its retransmissions if there is such a stream. -/
def AddStream.forEachSsrc (c : AddStream μ) (f : Int → σ → Except PyError σ) (s : σ) :
    Except PyError σ := do
  let s ← f c.ssrc s
  if c.ssrcRtx ≠ NO_RTX_SSRC then f c.ssrcRtx s else return s

variable [DecidableEq μ] [DecidableEq κ] [DecidableEq τ]

/-! ## Dictionaries -/

/-- `d[k]`. -/
def item (m : UnorderedMap κ α) (k : κ) : Except PyError α :=
  match m.lookup k with
  | some a => .ok a
  | none => .error .keyError

/-- `EGRESS_PORTS[ip]`. -/
def egressPort (ip : String) : Except PyError Nat :=
  match EGRESS_PORTS.lookup ip with
  | some eport => .ok eport
  | none => .error .keyError

/-! ## Local state -/

/-- What the class remembers of the meetings. -/
structure LocalState (μ : Type) where
  senderMeetingMap : UnorderedMap (String × Int × Int) μ := ∅
  meetingParticipants : UnorderedMap μ (List Endpoint) := ∅
  meetingparticipantEportMap : UnorderedMap (μ × Endpoint) Nat := ∅

def addParticipant (participants : List Endpoint) (e : Endpoint) : List Endpoint :=
  if e ∈ participants then participants else participants ++ [e]

/-- The egress port of a participant, unless it is known. -/
def assignEport (mid : μ) (e : Endpoint) (m : UnorderedMap (μ × Endpoint) Nat) :
    Except PyError (UnorderedMap (μ × Endpoint) Nat) :=
  if (m.lookup (mid, e)).isSome then .ok m
  else (egressPort e.1).map fun eport => m.insert (mid, e) eport

def updateLocalState (c : AddStream μ) (s : LocalState μ) : Except PyError (LocalState μ) := do
  let senderMeetingMap :=
    if (s.senderMeetingMap.lookup (c.sip, c.sport, c.ssrc)).isSome then s.senderMeetingMap
    else
      let m := s.senderMeetingMap.insert (c.sip, c.sport, c.ssrc) c.mid
      if c.ssrcRtx ≠ NO_RTX_SSRC then m.insert (c.sip, c.sport, c.ssrcRtx) c.mid else m
  let participants := (s.meetingParticipants.lookup c.mid).getD []
  let meetingParticipants := s.meetingParticipants.insert c.mid
    (addParticipant (addParticipant participants c.src) c.dst)
  let eports ← assignEport c.mid c.src s.meetingparticipantEportMap
  let meetingparticipantEportMap ← assignEport c.mid c.dst eports
  return { senderMeetingMap, meetingParticipants, meetingparticipantEportMap }

/-! ## Data plane mappings -/

/-- The identifiers of meetings and participants. -/
structure Mappings (μ : Type) where
  meetingMgidMap : UnorderedMap μ Nat := ∅
  participantNodeidMap : UnorderedMap Endpoint Nat := ∅
  meetingparticipantReplicationidMap : UnorderedMap (μ × Endpoint) Nat := ∅
  meetingparticipantL1exclusionidMap : UnorderedMap (μ × Endpoint) Nat := ∅
  eportL2exclusionidMap : UnorderedMap Nat Nat := ∅

/-- How a call ends before its end: with `return`, or with an exception. -/
inductive Exit (σ : Type) where
  | returned (s : σ)
  | raised (e : PyError)

/-- `x`, or `return` with what has been done so far. -/
def orReturn (s : σ) (x : Option α) : Except (Exit σ) α :=
  match x with
  | some a => .ok a
  | none => .error (.returned s)

/-- 2.1. Assign meeting to multicast group. -/
def assignMgid (mid : μ) (m : Mappings μ) : Except (Exit (Mappings μ)) (Mappings μ) :=
  (orReturn m (Allocation.assign 64000 m.meetingMgidMap mid)).map fun d =>
    { m with meetingMgidMap := d }

def assignNodeid (e : Endpoint) (m : Mappings μ) : Except (Exit (Mappings μ)) (Mappings μ) :=
  (orReturn m (Allocation.assign (2 ^ 32 - 1) m.participantNodeidMap e)).map fun d =>
    { m with participantNodeidMap := d }

/-- 2.3. Assign meeting participant to replication ID. -/
def assignReplicationid (mid : μ) (e : Endpoint) (m : Mappings μ) :
    Except (Exit (Mappings μ)) (Mappings μ) :=
  (orReturn m (Allocation.assign (2 ^ 16 - 1) m.meetingparticipantReplicationidMap (mid, e))).map
    fun d => { m with meetingparticipantReplicationidMap := d }

def assignL1exclusionid (mid : μ) (e : Endpoint) (m : Mappings μ) :
    Except (Exit (Mappings μ)) (Mappings μ) :=
  if (m.meetingparticipantL1exclusionidMap.lookup (mid, e)).isSome then .ok m
  else match item m.meetingparticipantReplicationidMap (mid, e) with
    | .ok l1Xid => .ok { m with meetingparticipantL1exclusionidMap :=
        m.meetingparticipantL1exclusionidMap.insert (mid, e) l1Xid }
    | .error err => .error (.raised err)

def assignL2exclusionid (ip : String) (m : Mappings μ) : Except (Exit (Mappings μ)) (Mappings μ) :=
  match egressPort ip with
  | .ok eport =>
      if (m.eportL2exclusionidMap.lookup eport).isSome then .ok m
      else .ok { m with eportL2exclusionidMap := m.eportL2exclusionidMap.insert eport eport }
  | .error err => .error (.raised err)

def updateMappings (c : AddStream μ) (m : Mappings μ) : Except (Exit (Mappings μ)) (Mappings μ) := do
  let m ← assignMgid c.mid m
  let m ← assignNodeid c.src m
  let m ← assignNodeid c.dst m
  let m ← assignReplicationid c.mid c.src m
  let m ← assignReplicationid c.mid c.dst m
  let m ← assignL1exclusionid c.mid c.src m
  let m ← assignL1exclusionid c.mid c.dst m
  let m ← assignL2exclusionid c.sip m
  assignL2exclusionid c.dip m

/-! ## Tofino rules -/

/-- `int(IPv4Address(ip))`. -/
def ipv4Address (ip : String) : Except PyError Nat :=
  match IPv4.ofString ip with
  | .ok n => .ok n.toNat
  | .error _ => .error .addressValueError

/-- `BFRuntimeAgent.add_entry`; the switch has one entry for a key. -/
def addEntry (table : UnorderedMap κ α) (k : κ) (a : α) : Except PyError (UnorderedMap κ α) :=
  if (table.lookup k).isSome then .error .rpcException else .ok (table.insert k a)

def modEntry (table : UnorderedMap κ α) (k : κ) (a : α) : Except PyError (UnorderedMap κ α) :=
  if (table.lookup k).isSome then .ok (table.insert k a) else .error .rpcException

/-- The rules that the class has installed, and the table of the switch they are in. -/
structure Installed (τ κ α : Type) where
  rules : List τ := []
  table : UnorderedMap κ α := ∅

/-- A rule is installed unless it has been. -/
def Installed.add (entry : τ → Except PyError (κ × α)) (x : τ) (r : Installed τ κ α) :
    Except PyError (Installed τ κ α) :=
  if x ∈ r.rules then .ok r
  else do
    let e ← entry x
    let table ← addEntry r.table e.1 e.2
    return { rules := x :: r.rules, table }

/-- A rule of `SwitchIngress.packet_replication`. -/
structure SenderRule where
  sip : String
  sport : Int
  ssrc : Int
  mgid : Nat
  rid : Nat
  l2Xid : Nat
deriving DecidableEq, Repr

/-- `add_sender_to_replication_setup`. -/
def SenderRule.entry (x : SenderRule) : Except PyError ((Nat × Int × Int) × Nat × Nat × Nat) :=
  (ipv4Address x.sip).map fun ip => ((ip, x.sport, x.ssrc), x.mgid, x.rid, x.l2Xid)

/-- A rule of `$pre.node`. -/
structure NodeRule where
  nid : Nat
  rid : Nat
  eport : Nat
deriving DecidableEq, Repr

/-- `add_multicast_node`. -/
def NodeRule.entry (x : NodeRule) : Except PyError (Nat × Nat × List Nat) :=
  .ok (x.nid, x.rid, [x.eport])

/-- The nodes of a multicast group, with their L1 exclusion ids. -/
structure Group where
  nids : List Nat
  l1Xids : List Nat
  l1XidsValidity : List Bool
deriving DecidableEq, Repr

/-- A rule of `$pre.prune`. -/
structure PruneRule where
  eport : Nat
  l2Xid : Nat
deriving DecidableEq, Repr

/-- `add_l2_exclusion_port`, to which the port is passed as the exclusion id and the exclusion id as
the port. -/
def PruneRule.entry (x : PruneRule) : Except PyError (Nat × List Nat) := .ok (x.eport, [x.l2Xid])

/-- A rule of `SwitchEgress.ipv4_route`. -/
structure RouteRule where
  sip : String
  sport : Int
  ssrc : Int
  rid : Nat
  dip : String
  dport : Int
deriving DecidableEq, Repr

/-- `add_ipv4_route`. -/
def RouteRule.entry (x : RouteRule) :
    Except PyError ((Nat × Int × Int × Nat) × Nat × Int) := do
  let sip ← ipv4Address x.sip
  let dip ← ipv4Address x.dip
  return ((sip, x.sport, x.ssrc, x.rid), dip, x.dport)

structure Rules where
  sendersReplication : Installed SenderRule (Nat × Int × Int) (Nat × Nat × Nat) := {}
  participantsNodes : Installed NodeRule Nat (Nat × List Nat) := {}
  mgidsParticipants : Installed (Nat × Group) Nat Group := {}
  eportsL2exclusionids : Installed PruneRule Nat (List Nat) := {}
  ipv4Routes : Installed RouteRule (Nat × Int × Int × Nat) (Nat × Int) := {}

def addSender (c : AddStream μ) (s : LocalState μ) (m : Mappings μ) (r : Rules) :
    Except PyError Rules := do
  let mgid ← item m.meetingMgidMap c.mid
  let rid ← item m.meetingparticipantReplicationidMap (c.mid, c.src)
  let eport ← item s.meetingparticipantEportMap (c.mid, c.src)
  let l2Xid ← item m.eportL2exclusionidMap eport
  let sendersReplication ← c.forEachSsrc (fun ssrc =>
    Installed.add SenderRule.entry { sip := c.sip, sport := c.sport, ssrc, mgid, rid, l2Xid })
    r.sendersReplication
  return { r with sendersReplication }

/-- 3.2. Add meeting participants to multicast nodes. -/
def addNode (mid : μ) (e : Endpoint) (s : LocalState μ) (m : Mappings μ) (r : Rules) :
    Except PyError Rules := do
  let nid ← item m.participantNodeidMap e
  let rid ← item m.meetingparticipantReplicationidMap (mid, e)
  let eport ← item s.meetingparticipantEportMap (mid, e)
  let participantsNodes ← r.participantsNodes.add NodeRule.entry { nid, rid, eport }
  return { r with participantsNodes }

def endpointLe (a b : Endpoint) : Bool := a.1 < b.1 ∨ a.1 = b.1 ∧ a.2 ≤ b.2

def group (mid : μ) (participants : List Endpoint) (m : Mappings μ) : Except PyError Group := do
  let nodes ← (participants.mergeSort endpointLe).mapM fun e => do
    let nid ← item m.participantNodeidMap e
    let l1Xid ← item m.meetingparticipantL1exclusionidMap (mid, e)
    return (nid, l1Xid)
  return {
    nids := nodes.map Prod.fst
    l1Xids := nodes.map Prod.snd
    l1XidsValidity := nodes.map fun _ => false }

/-- `update_multicast_group`, when it is called and how. -/
def Installed.setGroup (mgid : Nat) (g : Group) (r : Installed (Nat × Group) Nat Group) :
    Except PyError (Installed (Nat × Group) Nat Group) :=
  if mgid ∉ r.rules.map Prod.fst then
    (addEntry r.table mgid g).map fun table => { rules := r.rules ++ [(mgid, g)], table }
  else if (mgid, g) ∉ r.rules then
    (modEntry r.table mgid g).map fun table => { rules := r.rules ++ [(mgid, g)], table }
  else .ok r

/-- 3.3. Add meeting participants to multicast group. -/
def updateGroup (c : AddStream μ) (s : LocalState μ) (m : Mappings μ) (r : Rules) :
    Except PyError Rules := do
  let mgid ← item m.meetingMgidMap c.mid
  let participants ← item s.meetingParticipants c.mid
  let g ← group c.mid participants m
  let mgidsParticipants ← r.mgidsParticipants.setGroup mgid g
  return { r with mgidsParticipants }

def addL2exclusionPort (c : AddStream μ) (s : LocalState μ) (m : Mappings μ) (r : Rules) :
    Except PyError Rules := do
  let eport ← item s.meetingparticipantEportMap (c.mid, c.src)
  let l2Xid ← item m.eportL2exclusionidMap eport
  let eportsL2exclusionids ← r.eportsL2exclusionids.add PruneRule.entry { eport, l2Xid }
  return { r with eportsL2exclusionids }

def addIpv4Routes (c : AddStream μ) (m : Mappings μ) (r : Rules) : Except PyError Rules := do
  let rid ← item m.meetingparticipantReplicationidMap (c.mid, c.dst)
  let ipv4Routes ← c.forEachSsrc (fun ssrc =>
    Installed.add RouteRule.entry
      { sip := c.sip, sport := c.sport, ssrc, rid, dip := c.dip, dport := c.dport })
    r.ipv4Routes
  return { r with ipv4Routes }

/-- 3. Process (add/update/delete) Tofino rules. -/
def processRules (c : AddStream μ) (s : LocalState μ) (m : Mappings μ) (r : Rules) :
    Except PyError Rules := do
  let r ← addSender c s m r
  let r ← addNode c.mid c.src s m r
  let r ← addNode c.mid c.dst s m r
  let r ← updateGroup c s m r
  let r ← addL2exclusionPort c s m r
  addIpv4Routes c m r

/-! ## The class -/

/-- The entries of `SwitchIngress.av1_template_id_mod_lookup` for a divisor. -/
def templateIdMods (divisor : Nat) : UnorderedMap Nat Nat :=
  (List.range (2 ^ 6)).foldl (fun table id => table.insert id (id % divisor)) ∅

def AV1_TEMPLATE_ID_MODS : List (String × Nat) := [("L1T2", 3), ("L1T3", 5)]

/-- `PRE`, as its constructor leaves it unless stated otherwise. -/
structure Pre (μ : Type) where
  state : LocalState μ := {}
  maps : Mappings μ := {}
  rules : Rules := {}
  av1TemplateIdModLookup : UnorderedMap Nat Nat := templateIdMods 3

def Pre.updateAv1SvcStructure (structureName : String) (p : Pre μ) : Pre μ :=
  match AV1_TEMPLATE_ID_MODS.lookup structureName with
  | some divisor => { p with av1TemplateIdModLookup := templateIdMods divisor }
  | none => p

def Pre.addStream (c : AddStream μ) (p : Pre μ) : Except PyError (Pre μ) :=
  (updateLocalState c p.state).bind fun state =>
    match updateMappings c p.maps with
    | .ok maps => (processRules c state maps p.rules).map fun rules => { p with state, maps, rules }
    | .error (.returned maps) => .ok { p with state, maps }
    | .error (.raised e) => .error e

def Pre.addStreams : List (AddStream μ) → Pre μ → Except PyError (Pre μ)
  | [], p => .ok p
  | c :: cs, p => (p.addStream c).bind (Pre.addStreams cs)

end Tofino

end Scallop
