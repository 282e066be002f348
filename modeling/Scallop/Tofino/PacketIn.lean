import Scallop.DataPlane.Model

/-!
# Packets of the switch

`_onDataPlanePacket` and `sendPacket` of `lib/tofino_data_plane.cc`, on Ethernet frames.

* `PcapPkt`, `capture` : what `PCAPInterface::next` gives of a frame;
* `headers`, `onDataPlanePacket` : the reads of the headers, and the handler that is called; `sendPacket` : the
  frame that is built;
* `delivered` : what should be passed on of a frame, the payload that the UDP length delimits;
* `Regular` : frames with all their headers, whose datagram ends with them; `packetIn_right_iff` : just these are
  passed on as they should, and what is sent is read back.
-/

namespace Scallop

namespace Tofino

/-! ## Reading -/

/-- `pcap_pkt`: the bytes captured, and the length of the frame on 16 bits. -/
structure PcapPkt where
  buf : Buf
  frameLen : UInt16

/-- What `PCAPInterface::next` gives of a frame: of its bytes, at most 2048. -/
def capture (frame : Buf) : PcapPkt := ⟨frame.take 2048, .ofNat frame.length⟩

/-- The handlers `_handleSTUN`, `_handleRTP` and `_handleRTCP`. -/
inductive PayloadKind where
  | stun
  | rtp
  | rtcp
deriving DecidableEq, Repr

/-- A call of a handler: the payload has `len` bytes, from `start` on in the frame. -/
structure PacketIn where
  kind : PayloadKind
  sender : IPv4Port
  start : Nat
  len : Nat
deriving DecidableEq, Repr

section Read
variable (buf : Buf)

def readU16 (i : Nat) : Except Fault UInt16 := do
  let hi ← buf.readByte i
  let lo ← buf.readByte (i + 1)
  return .ofNat (256 * hi.toNat + lo.toNat)

def readU32 (i : Nat) : Except Fault UInt32 := do
  let hi ← readU16 buf i
  let lo ← readU16 buf (i + 2)
  return .ofNat (65536 * hi.toNat + lo.toNat)

/-- Whether bytes stand from `i` on, up to the first that does not. -/
def bytesAre : Nat → List UInt8 → Except Fault Bool
  | _, [] => .ok true
  | i, b :: bs => do
      let c ← buf.readByte i
      if c = b then bytesAre (i + 1) bs else return false

/-- `stun::bufferContainsSTUN`, with its reads. -/
def readsSTUN (start len : Nat) : Except Fault Bool :=
  if len < 20 then .ok false
  else do
    let b ← buf.readByte start
    if b >>> 6 = 0 then bytesAre buf (start + 4) [0x21, 0x12, 0xa4, 0x42] else return false

/-- `rtp::contains_rtp_or_rtcp`, with its reads. -/
def readsRtpOrRtcp (start len : Nat) : Except Fault Bool :=
  if len < 12 then .ok false
  else do
    let b ← buf.readByte start
    return (b >>> 6) &&& 0x03 = 0x02

def payloadKind (start len : Nat) : Except Fault (Option PayloadKind) := do
  let stun ← readsSTUN buf start len
  if stun then return some .stun
  else do
    let rtpOrRtcp ← readsRtpOrRtcp buf start len
    if rtpOrRtcp then do
      let pt ← buf.readByte (start + 1)
      return some (if 200 ≤ pt ∧ pt ≤ 207 then .rtcp else .rtp)
    else return none

end Read

/-- What is read of the headers: who sent the datagram, where its UDP header is, and the length of the payload. -/
structure PktHeaders where
  sender : IPv4Port
  udp : Nat
  payloadLen : UInt32

/-- The headers of a frame with a UDP datagram; the length is computed on 32 bits without a sign. -/
def headers (pkt : PcapPkt) : Except Fault (Option PktHeaders) := do
  let etherType ← readU16 pkt.buf 12
  if etherType = 0x0800 then do
    let proto ← pkt.buf.readByte 23
    if proto = 17 then do
      let versionIhl ← pkt.buf.readByte 14
      let udp := 14 + (versionIhl &&& 0x0f).toNat * 4
      let ip ← readU32 pkt.buf 26
      let port ← readU16 pkt.buf udp
      return some { sender := ⟨ip, port⟩, udp, payloadLen := pkt.frameLen.toUInt32 - .ofNat (udp + 8) }
    else return none
  else return none

/-- `_onDataPlanePacket`; the frame is logged first. -/
def onDataPlanePacket (pkt : PcapPkt) : Except Fault (Option PacketIn) := do
  let _ ← pkt.buf.readBytes 0 pkt.frameLen.toNat
  let h ← headers pkt
  match h with
  | none => return none
  | some h => do
      let kind ← payloadKind pkt.buf (h.udp + 8) h.payloadLen.toNat
      return kind.map fun kind =>
        { kind, sender := h.sender, start := h.udp + 8, len := h.payloadLen.toNat }

/-! ## Sending -/

/-- `net::IPv4{"10.0.211.111"}`. -/
def srcAddr : UInt32 := 0x0a00d36f

/-- `sendPacket`: the frame that is injected; it is built in 1024 bytes. -/
def sendPacket (toAddr : IPv4Port) (payload : Buf) : Except Fault Buf :=
  if 42 + payload.length ≤ 1024 then
    .ok (List.replicate 12 0 ++ Rtcp.bytes16 0x0800
      ++ ([0x45, 0] ++ Rtcp.bytes16 (.ofNat (payload.length + 20 + 8)) ++ [0, 0, 0, 0, 64, 17, 0, 0]
        ++ Rtcp.bytes32 srcAddr ++ Rtcp.bytes32 toAddr.ip)
      ++ (Rtcp.bytes16 3000 ++ Rtcp.bytes16 toAddr.port ++ Rtcp.bytes16 (.ofNat (payload.length + 8)) ++ [0, 0])
      ++ payload)
  else .error .outOfBounds

/-! ## What should be passed on -/

section Delivered
variable (frame : Buf)

def udpAt : Nat := 14 + (frame.u8 14 &&& 0x0f).toNat * 4

def dgramLen : Nat := (frame.u16 (udpAt frame + 4)).toNat

/-- A frame with an Ethernet, an IPv4 and a UDP header. -/
structure HasUdp : Prop where
  ipv4 : 34 ≤ frame.length
  etherType : frame.u16 12 = 0x0800
  proto : frame.u8 23 = 17
  udp : udpAt frame + 8 ≤ frame.length

def kindOf (payload : Buf) : Option PayloadKind :=
  if DataPlaneModel.bufferContainsSTUN payload then some .stun
  else if Rtp.containsRtpOrRtcp payload then some (if Rtp.isRtcp payload then .rtcp else .rtp)
  else none

instance : Decidable (HasUdp frame) :=
  decidable_of_iff (34 ≤ frame.length ∧ frame.u16 12 = 0x0800 ∧ frame.u8 23 = 17 ∧
    udpAt frame + 8 ≤ frame.length) ⟨fun h => ⟨h.1, h.2.1, h.2.2.1, h.2.2.2⟩, fun h => ⟨h.1, h.2, h.3, h.4⟩⟩

/-- The payload that the UDP length delimits, if it is there, goes to the handler for it. -/
def delivered : Option PacketIn :=
  if HasUdp frame ∧ 8 ≤ dgramLen frame ∧ udpAt frame + dgramLen frame ≤ frame.length then
    (kindOf ((frame.drop (udpAt frame + 8)).take (dgramLen frame - 8))).map fun kind =>
      { kind, sender := ⟨frame.u32 26, frame.u16 (udpAt frame)⟩, start := udpAt frame + 8
        len := dgramLen frame - 8 }
  else none

/-- What is behind the headers, as far as a length on 16 bits says; all of it if that does not cover the headers. -/
def behind : Buf :=
  if udpAt frame + 8 ≤ frame.length % 65536 then
    (frame.drop (udpAt frame + 8)).take (frame.length % 65536 - (udpAt frame + 8))
  else frame.drop (udpAt frame + 8)

/-- A frame that is captured as a whole, with all headers that it announces. A UDP datagram ends with the frame, or
there is no payload for a handler in it. -/
structure Regular : Prop where
  captured : frame.length % 65536 ≤ min frame.length 2048
  ethernet : 14 ≤ frame.length
  ipv4 : frame.u16 12 = 0x0800 → 24 ≤ frame.length
  udp : frame.u16 12 = 0x0800 → frame.u8 23 = 17 → 30 ≤ frame.length ∧ udpAt frame + 8 ≤ frame.length
  datagram : HasUdp frame → (8 ≤ dgramLen frame ∧ frame.length % 65536 = udpAt frame + dgramLen frame) ∨
    (kindOf (behind frame) = none ∧ delivered frame = none)

end Delivered

section Reads
variable {frame buf payload : Buf} {i start len : Nat}

theorem udpAt_le (frame : Buf) : udpAt frame ≤ 74 := by
  have h : (frame.u8 14 &&& 0x0f).toNat ≤ 0x0f := by
    rw [UInt8.toNat_and]
    exact Nat.and_le_right
  unfold udpAt
  omega

theorem readByte_take (h : i < frame.length) (hi : i < 2048) :
    Buf.readByte (frame.take 2048) i = .ok (frame.u8 i) := by
  have hlen : i < (frame.take 2048).length := by
    rw [List.length_take]
    omega
  have hu : Buf.u8 (frame.take 2048) i = frame.u8 i := by simp [Buf.u8, List.getD_eq_getElem?_getD, hi]
  rw [Buf.readByte_of_lt hlen, hu]

theorem readByte_of_ge (h : buf.length ≤ i) : buf.readByte i = .error .outOfBounds := by
  unfold Buf.readByte
  rw [List.getElem?_eq_none h]

theorem readU16_take (h : i + 1 < frame.length) (hi : i + 1 < 2048) :
    readU16 (frame.take 2048) i = .ok (frame.u16 i) := by
  rw [readU16, readByte_take (by omega) (by omega), Except.bind_ok, readByte_take h hi]
  rfl

theorem readU16_of_ge (h : buf.length ≤ i + 1) : ∃ e, readU16 buf i = .error e := by
  rw [readU16]
  cases hb : buf.readByte i with
  | error e => exact ⟨e, rfl⟩
  | ok b =>
      rw [Except.bind_ok, readByte_of_ge h]
      exact ⟨_, rfl⟩

theorem readU32_take (h : i + 3 < frame.length) (hi : i + 3 < 2048) :
    readU32 (frame.take 2048) i = .ok (frame.u32 i) := by
  rw [readU32, readU16_take (by omega) (by omega), Except.bind_ok, readU16_take (by omega) (by omega)]
  rfl

theorem readU32_of_ge (h : buf.length ≤ i + 3) : ∃ e, readU32 buf i = .error e := by
  rw [readU32]
  cases hb : readU16 buf i with
  | error e => exact ⟨e, rfl⟩
  | ok b =>
      obtain ⟨e, he⟩ := readU16_of_ge (i := i + 2) h
      rw [Except.bind_ok, he]
      exact ⟨e, rfl⟩

theorem bytesAre_four (h : i + 4 ≤ buf.length) (a b c d : UInt8) : bytesAre buf i [a, b, c, d] =
    .ok (decide (buf.u8 i = a ∧ buf.u8 (i + 1) = b ∧ buf.u8 (i + 2) = c ∧ buf.u8 (i + 3) = d)) := by
  have hstep (j : Nat) (hj : j < buf.length) (x : UInt8) (bs : List UInt8) : bytesAre buf j (x :: bs) =
      if buf.u8 j = x then bytesAre buf (j + 1) bs else .ok false := by
    rw [bytesAre, Buf.readByte_of_lt hj]
    rfl
  rw [hstep i (by omega)]
  by_cases h0 : buf.u8 i = a
  · rw [if_pos h0, hstep (i + 1) (by omega)]
    by_cases h1 : buf.u8 (i + 1) = b
    · rw [if_pos h1, hstep (i + 2) (by omega)]
      by_cases h2 : buf.u8 (i + 2) = c
      · rw [if_pos h2, hstep (i + 3) (by omega)]
        by_cases h3 : buf.u8 (i + 3) = d
        · simp [h0, h1, h2, h3, bytesAre]
        · simp [h3]
      · simp [h2]
    · simp [h1]
  · simp [h0]

/-- What is read of a payload is enough to tell its handler. -/
theorem payloadKind_eq (h20 : 20 ≤ payload.length ↔ 20 ≤ len) (h12 : 12 ≤ payload.length ↔ 12 ≤ len)
    (hin : start + min len 20 ≤ buf.length) (hb : ∀ i < min len 8, payload.u8 i = buf.u8 (start + i)) :
    payloadKind buf start len = .ok (kindOf payload) := by
  have hstun : readsSTUN buf start len = .ok (DataPlaneModel.bufferContainsSTUN payload) := by
    unfold readsSTUN DataPlaneModel.bufferContainsSTUN
    by_cases hl : len < 20
    · rw [if_pos hl]
      simp [h20, show ¬ 20 ≤ len by omega]
    · rw [if_neg hl, Buf.readByte_of_lt (by omega), Except.bind_ok, ← Nat.add_zero start, ← hb 0 (by omega),
        Nat.add_zero, bytesAre_four (by omega), ← hb 4 (by omega), Nat.add_assoc, Nat.add_assoc, Nat.add_assoc,
        ← hb 5 (by omega), ← hb 6 (by omega), ← hb 7 (by omega)]
      have h20' : 20 ≤ payload.length := h20.mpr (by omega)
      split
      · rename_i h0
        simp [h0, h20']
      · rename_i h0
        simp [h0]
        rfl
  have hrtp : readsRtpOrRtcp buf start len = .ok (Rtp.containsRtpOrRtcp payload) := by
    unfold readsRtpOrRtcp Rtp.containsRtpOrRtcp
    by_cases hl : len < 12
    · rw [if_pos hl]
      simp [h12, show ¬ 12 ≤ len by omega]
    · rw [if_neg hl, Buf.readByte_of_lt (by omega), Except.bind_ok, ← Nat.add_zero start, ← hb 0 (by omega)]
      have h12' : 12 ≤ payload.length := h12.mpr (by omega)
      simp [h12']
      rfl
  rw [payloadKind, hstun, Except.bind_ok, kindOf]
  split
  · rfl
  · rw [hrtp, Except.bind_ok]
    split
    · rename_i hr
      have hl : 12 ≤ len := by
        rw [← h12]
        unfold Rtp.containsRtpOrRtcp at hr
        rw [decide_eq_true_eq] at hr
        exact hr.1
      rw [Buf.readByte_of_lt (by omega), Except.bind_ok, ← hb 1 (by omega), Rtp.isRtcp]
      simp [pure, Except.pure]
    · rfl

/-! ### The headers -/

theorem headers_of_short (h : frame.length < 14) : ∃ e, headers (capture frame) = .error e := by
  obtain ⟨e, he⟩ := @readU16_of_ge (frame.take 2048) 12 (by rw [List.length_take]; omega)
  exact ⟨e, by rw [headers, capture, he]; rfl⟩

theorem headers_of_not_ipv4 (h : 14 ≤ frame.length) (het : frame.u16 12 ≠ 0x0800) :
    headers (capture frame) = .ok none := by
  rw [headers, capture, readU16_take (by omega) (by omega), Except.bind_ok, if_neg het]
  rfl

theorem headers_of_short_ipv4 (h : 14 ≤ frame.length) (het : frame.u16 12 = 0x0800) (h24 : frame.length < 24) :
    ∃ e, headers (capture frame) = .error e := by
  have hread : Buf.readByte (frame.take 2048) 23 = .error .outOfBounds := by
    apply readByte_of_ge
    rw [List.length_take]
    omega
  refine ⟨.outOfBounds, ?_⟩
  rw [headers, capture, readU16_take (by omega) (by omega), Except.bind_ok, if_pos het, hread]
  rfl

theorem headers_of_not_udp (het : frame.u16 12 = 0x0800) (h24 : 24 ≤ frame.length) (hp : frame.u8 23 ≠ 17) :
    headers (capture frame) = .ok none := by
  rw [headers, capture, readU16_take (by omega) (by omega), Except.bind_ok, if_pos het,
    readByte_take (by omega) (by omega), Except.bind_ok, if_neg hp]
  rfl

/-- Behind the protocol, the addresses and the ports are read. -/
theorem headers_of_udp (het : frame.u16 12 = 0x0800) (h24 : 24 ≤ frame.length) (hp : frame.u8 23 = 17) :
    headers (capture frame) = (do
      let ip ← readU32 (frame.take 2048) 26
      let port ← readU16 (frame.take 2048) (udpAt frame)
      return some { sender := ⟨ip, port⟩, udp := udpAt frame
                    payloadLen := (UInt16.ofNat frame.length).toUInt32 - .ofNat (udpAt frame + 8) }) := by
  rw [headers, capture, readU16_take (by omega) (by omega), Except.bind_ok, if_pos het,
    readByte_take (by omega) (by omega), Except.bind_ok, if_pos hp, readByte_take (by omega) (by omega)]
  rfl

theorem headers_of_short_udp (het : frame.u16 12 = 0x0800) (h24 : 24 ≤ frame.length) (hp : frame.u8 23 = 17)
    (hshort : frame.length < 30 ∨ frame.length < udpAt frame + 2) : ∃ e, headers (capture frame) = .error e := by
  rw [headers_of_udp het h24 hp]
  cases hip : readU32 (frame.take 2048) 26 with
  | error e => exact ⟨e, rfl⟩
  | ok ip =>
      rw [Except.bind_ok]
      have hlen : 30 ≤ frame.length := by
        by_contra hlt
        obtain ⟨e, he⟩ := @readU32_of_ge (frame.take 2048) 26 (by rw [List.length_take]; omega)
        exact nomatch hip.symm.trans he
      obtain ⟨e, he⟩ := @readU16_of_ge (frame.take 2048) (udpAt frame) (by rw [List.length_take]; omega)
      exact ⟨e, by rw [he]; rfl⟩

theorem headers_of_complete (het : frame.u16 12 = 0x0800) (h30 : 30 ≤ frame.length) (hp : frame.u8 23 = 17)
    (hudp : udpAt frame + 2 ≤ frame.length) : headers (capture frame) = .ok (some {
      sender := ⟨frame.u32 26, frame.u16 (udpAt frame)⟩
      udp := udpAt frame
      payloadLen := (UInt16.ofNat frame.length).toUInt32 - .ofNat (udpAt frame + 8) }) := by
  have hle := udpAt_le frame
  rw [headers_of_udp het (by omega) hp, readU32_take (by omega) (by omega), Except.bind_ok,
    readU16_take (by omega) (by omega)]
  rfl

theorem payloadLen_eq (frame : Buf) :
    ((UInt16.ofNat frame.length).toUInt32 - UInt32.ofNat (udpAt frame + 8)).toNat =
      if udpAt frame + 8 ≤ frame.length % 65536 then frame.length % 65536 - (udpAt frame + 8)
      else 4294967296 + frame.length % 65536 - (udpAt frame + 8) := by
  have hle := udpAt_le frame
  rw [UInt32.toNat_sub, UInt16.toNat_toUInt32, UInt16.toNat_ofNat', UInt32.toNat_ofNat']
  split <;> omega

theorem payloadKind_behind (hudp : udpAt frame + 8 ≤ frame.length) :
    payloadKind (frame.take 2048) (udpAt frame + 8)
      ((UInt16.ofNat frame.length).toUInt32 - UInt32.ofNat (udpAt frame + 8)).toNat =
        .ok (kindOf (behind frame)) := by
  have hle := udpAt_le frame
  have hcapt : (frame.take 2048).length = min 2048 frame.length := List.length_take
  have hu (i : Nat) (hi : i < 2048) : Buf.u8 (frame.take 2048) i = frame.u8 i := by
    simp [Buf.u8, List.getD_eq_getElem?_getD, hi]
  rw [payloadLen_eq, behind]
  split
  · rename_i hF
    have hlen : ((frame.drop (udpAt frame + 8)).take (frame.length % 65536 - (udpAt frame + 8))).length =
        frame.length % 65536 - (udpAt frame + 8) := by
      rw [List.length_take, List.length_drop]
      omega
    apply payloadKind_eq
    · rw [hlen]
    · rw [hlen]
    · rw [hcapt]
      omega
    · intro i hi
      rw [hu _ (by omega)]
      simp [Buf.u8, List.getD_eq_getElem?_getD, show i < frame.length % 65536 - (udpAt frame + 8) by omega]
  · rename_i hF
    have hlen : (frame.drop (udpAt frame + 8)).length = frame.length - (udpAt frame + 8) := List.length_drop
    apply payloadKind_eq
    · rw [hlen]
      omega
    · rw [hlen]
      omega
    · rw [hcapt]
      omega
    · intro i hi
      rw [hu _ (by omega)]
      simp [Buf.u8, List.getD_eq_getElem?_getD]

/-- Without a whole UDP header the length wraps, and the payload is looked for behind the frame. -/
theorem payloadKind_of_short (hudp : frame.length < udpAt frame + 8) :
    ∃ e, payloadKind (frame.take 2048) (udpAt frame + 8)
      ((UInt16.ofNat frame.length).toUInt32 - UInt32.ofNat (udpAt frame + 8)).toNat = .error e := by
  have hle := udpAt_le frame
  have hread : Buf.readByte (frame.take 2048) (udpAt frame + 8) = .error .outOfBounds := by
    apply readByte_of_ge
    rw [List.length_take]
    omega
  rw [payloadLen_eq, if_neg (by omega), payloadKind, readsSTUN, if_neg (by omega), hread]
  exact ⟨_, rfl⟩

/-! ### The handler -/

/-- Nothing is looked at of a frame that is longer than what was captured of it. -/
theorem onDataPlanePacket_of_cut (h : ¬ frame.length % 65536 ≤ min frame.length 2048) :
    ∃ e, onDataPlanePacket (capture frame) = .error e := by
  have hread : Buf.readBytes (frame.take 2048) 0 (UInt16.ofNat frame.length).toNat = .error .outOfBounds := by
    apply if_neg
    rw [List.length_take, UInt16.toNat_ofNat']
    omega
  exact ⟨.outOfBounds, by rw [onDataPlanePacket, capture, hread]; rfl⟩

theorem onDataPlanePacket_eq (h : frame.length % 65536 ≤ min frame.length 2048) :
    onDataPlanePacket (capture frame) = (do
      let hs ← headers (capture frame)
      match hs with
      | none => return none
      | some hs => do
          let kind ← payloadKind (frame.take 2048) (hs.udp + 8) hs.payloadLen.toNat
          return kind.map fun kind =>
            { kind, sender := hs.sender, start := hs.udp + 8, len := hs.payloadLen.toNat }) := by
  have hread : ∃ bytes, Buf.readBytes (frame.take 2048) 0 (UInt16.ofNat frame.length).toNat = .ok bytes := by
    refine ⟨_, if_pos ?_⟩
    rw [List.length_take, UInt16.toNat_ofNat']
    omega
  obtain ⟨bytes, hbytes⟩ := hread
  rw [onDataPlanePacket]
  show (Buf.readBytes (frame.take 2048) 0 (UInt16.ofNat frame.length).toNat >>= _) = _
  rw [hbytes]
  rfl

theorem delivered_of_not_udp (h : ¬ HasUdp frame) : delivered frame = none := if_neg fun hd => h hd.1

/-- What becomes of a frame with a UDP datagram. -/
theorem onDataPlanePacket_of_udp (hcap : frame.length % 65536 ≤ min frame.length 2048)
    (het : frame.u16 12 = 0x0800) (h30 : 30 ≤ frame.length) (hp : frame.u8 23 = 17)
    (hudp : udpAt frame + 8 ≤ frame.length) :
    onDataPlanePacket (capture frame) = .ok ((kindOf (behind frame)).map fun kind =>
      { kind, sender := ⟨frame.u32 26, frame.u16 (udpAt frame)⟩, start := udpAt frame + 8
        len := ((UInt16.ofNat frame.length).toUInt32 - UInt32.ofNat (udpAt frame + 8)).toNat }) := by
  rw [onDataPlanePacket_eq hcap, headers_of_complete het h30 hp (by omega), Except.bind_ok]
  dsimp only
  rw [payloadKind_behind hudp]
  rfl

/-- What is behind the headers of a short frame is no payload for a handler. -/
theorem kindOf_behind_of_short (hudp : udpAt frame + 8 ≤ frame.length) (h34 : frame.length < 34) :
    kindOf (behind frame) = none := by
  have hlen : (behind frame).length < 12 := by
    have hge : 14 ≤ udpAt frame := Nat.le_add_right _ _
    unfold behind
    rw [if_pos (by omega), List.length_take]
    omega
  unfold kindOf DataPlaneModel.bufferContainsSTUN Rtp.containsRtpOrRtcp
  simp [show ¬ 20 ≤ (behind frame).length by omega, show ¬ 12 ≤ (behind frame).length by omega]

/-- A complete UDP datagram is passed on as it should be iff it ends with the frame, or goes to no handler. -/
theorem passed_on_iff (hu : HasUdp frame) :
    ((kindOf (behind frame)).map fun kind => (
      { kind, sender := ⟨frame.u32 26, frame.u16 (udpAt frame)⟩, start := udpAt frame + 8
        len := ((UInt16.ofNat frame.length).toUInt32 - UInt32.ofNat (udpAt frame + 8)).toNat } : PacketIn)) =
      delivered frame ↔
    (8 ≤ dgramLen frame ∧ frame.length % 65536 = udpAt frame + dgramLen frame) ∨
      (kindOf (behind frame) = none ∧ delivered frame = none) := by
  have hle := udpAt_le frame
  have hdg : dgramLen frame < 65536 := UInt16.toNat_lt _
  constructor
  · intro h
    cases hk : kindOf (behind frame) with
    | none =>
        rw [hk, Option.map_none] at h
        exact .inr ⟨rfl, h.symm⟩
    | some kind =>
        rw [hk, Option.map_some] at h
        unfold delivered at h
        split at h
        · rename_i hd
          obtain ⟨kind', -, he⟩ := Option.map_eq_some_iff.mp h.symm
          have hl := congrArg PacketIn.len he
          dsimp only at hl
          rw [payloadLen_eq] at hl
          refine .inl ⟨hd.2.1, ?_⟩
          split at hl <;> omega
        · exact nomatch h
  · rintro (⟨h8, hF⟩ | ⟨hk, hd⟩)
    · have hlen : ((UInt16.ofNat frame.length).toUInt32 - UInt32.ofNat (udpAt frame + 8)).toNat =
          dgramLen frame - 8 := by
        rw [payloadLen_eq, if_pos (by omega)]
        omega
      have hb : behind frame = (frame.drop (udpAt frame + 8)).take (dgramLen frame - 8) := by
        rw [behind, if_pos (by omega), hF, Nat.add_sub_add_left]
      rw [delivered, if_pos ⟨hu, h8, by omega⟩, hlen, hb]
    · rw [hk, hd]
      rfl

def Right (frame : Buf) : Prop := onDataPlanePacket (capture frame) = .ok (delivered frame)

theorem right_iff (frame : Buf) : Right frame ↔ Regular frame := by
  unfold Right
  by_cases hcap : frame.length % 65536 ≤ min frame.length 2048
  swap
  · obtain ⟨e, he⟩ := onDataPlanePacket_of_cut hcap
    rw [he]
    exact ⟨fun h => (nomatch h), fun h => absurd h.captured hcap⟩
  have hfail {e : Fault} (he : headers (capture frame) = .error e) :
      ¬ onDataPlanePacket (capture frame) = .ok (delivered frame) := by
    rw [onDataPlanePacket_eq hcap, he]
    exact fun h => nomatch h
  have hnone (hh : headers (capture frame) = .ok none) (hu : ¬ HasUdp frame) :
      onDataPlanePacket (capture frame) = .ok (delivered frame) := by
    rw [onDataPlanePacket_eq hcap, hh, delivered_of_not_udp hu]
    rfl
  by_cases h14 : 14 ≤ frame.length
  swap
  · obtain ⟨e, he⟩ := headers_of_short (Nat.lt_of_not_le h14)
    exact iff_of_false (hfail he) fun h => h14 h.ethernet
  by_cases het : frame.u16 12 = 0x0800
  swap
  · have hu : ¬ HasUdp frame := fun hu => het hu.etherType
    exact iff_of_true (hnone (headers_of_not_ipv4 h14 het) hu)
      ⟨hcap, h14, fun h => absurd h het, fun h => absurd h het, fun h => absurd h hu⟩
  by_cases h24 : 24 ≤ frame.length
  swap
  · obtain ⟨e, he⟩ := headers_of_short_ipv4 h14 het (Nat.lt_of_not_le h24)
    exact iff_of_false (hfail he) fun h => h24 (h.ipv4 het)
  by_cases hp : frame.u8 23 = 17
  swap
  · have hu : ¬ HasUdp frame := fun hu => hp hu.proto
    exact iff_of_true (hnone (headers_of_not_udp het h24 hp) hu)
      ⟨hcap, h14, fun _ => h24, fun _ h => absurd h hp, fun h => absurd h hu⟩
  by_cases h30 : 30 ≤ frame.length ∧ udpAt frame + 2 ≤ frame.length
  swap
  · obtain ⟨e, he⟩ := headers_of_short_udp het h24 hp (by omega)
    refine iff_of_false (hfail he) fun h => h30 ?_
    have := h.udp het hp
    omega
  by_cases hudp : udpAt frame + 8 ≤ frame.length
  swap
  · obtain ⟨e, he⟩ := @payloadKind_of_short frame (Nat.lt_of_not_le hudp)
    refine iff_of_false ?_ fun h => hudp (h.udp het hp).2
    rw [onDataPlanePacket_eq hcap, headers_of_complete het h30.1 hp h30.2, Except.bind_ok]
    dsimp only
    rw [he]
    exact fun h => nomatch h
  rw [onDataPlanePacket_of_udp hcap het h30.1 hp hudp, Except.ok.injEq]
  by_cases h34 : 34 ≤ frame.length
  · have hu : HasUdp frame := ⟨h34, het, hp, hudp⟩
    rw [passed_on_iff hu]
    constructor
    · exact fun h => ⟨hcap, h14, fun _ => h24, fun _ _ => ⟨h30.1, hudp⟩, fun _ => h⟩
    · exact fun h => h.datagram hu
  · have hu : ¬ HasUdp frame := fun hu => h34 hu.ipv4
    rw [kindOf_behind_of_short hudp (Nat.lt_of_not_le h34), delivered_of_not_udp hu]
    exact iff_of_true rfl ⟨hcap, h14, fun _ => h24, fun _ _ => ⟨h30.1, hudp⟩, fun h => absurd h hu⟩

/-! ## What was sent -/

/-- A frame is read back as the payload, its length and the endpoint that it was sent to. -/
def ReadBack (toAddr : IPv4Port) (payload frame : Buf) : Prop :=
  ∃ h, headers (capture frame) = .ok (some h) ∧ (frame.drop (h.udp + 8)).take h.payloadLen.toNat = payload ∧
    h.payloadLen.toNat = payload.length ∧ dgramLen frame = payload.length + 8 ∧
    (⟨frame.u32 30, frame.u16 (h.udp + 2)⟩ : IPv4Port) = toAddr

theorem readBack_sendPacket (toAddr : IPv4Port) (h : payload.length ≤ 512) :
    ∃ sent, sendPacket toAddr payload = .ok sent ∧ ReadBack toAddr payload sent := by
  obtain ⟨sent, hsent⟩ : ∃ sent, sendPacket toAddr payload = .ok sent := ⟨_, if_pos (by omega)⟩
  refine ⟨sent, hsent, ?_⟩
  rw [sendPacket, if_pos (by omega)] at hsent
  have hs := (Except.ok.inj hsent).symm
  have hlen : sent.length = 42 + payload.length := by
    rw [hs, List.length_append]
    rfl
  have het : sent.u16 12 = 0x0800 := by
    rw [hs]
    rfl
  have hp : sent.u8 23 = 17 := by
    rw [hs]
    rfl
  have hihl : sent.u8 14 = 0x45 := by
    rw [hs]
    rfl
  have hudp : udpAt sent = 34 := by
    rw [udpAt, hihl]
    rfl
  have hip : sent.u32 30 = toAddr.ip := by
    rw [hs]
    exact Rtcp.u32_of_bytes32 toAddr.ip []
  have hport : sent.u16 36 = toAddr.port := by
    rw [hs]
    exact Rtcp.u16_of_bytes16 toAddr.port
  have hdg : dgramLen sent = payload.length + 8 := by
    rw [dgramLen, hudp, hs]
    have hw := Rtcp.u16_of_bytes16 (.ofNat (payload.length + 8))
    refine (congrArg UInt16.toNat hw).trans ?_
    rw [UInt16.toNat_ofNat']
    omega
  have hdrop : sent.drop 42 = payload := by
    rw [hs]
    rfl
  have hpl := payloadLen_eq sent
  rw [hudp, hlen, if_pos (by omega)] at hpl
  have hn : (42 + payload.length) % 65536 - (34 + 8) = payload.length := by omega
  rw [hn] at hpl
  refine ⟨_, headers_of_complete het (by omega) hp (by omega), ?_⟩
  dsimp only
  rw [hudp, hlen, hpl, hip, hport]
  exact ⟨by rw [hdrop, List.take_length], rfl, hdg, rfl⟩

/-- **Packets of the switch.** A frame is read inside of its bytes and passed on as its UDP datagram, and a packet
is read back as it was sent, iff the frame is regular. -/
theorem packetIn_right_iff (frame : Buf) (toAddr : IPv4Port) (h : payload.length ≤ 512) :
    (Right frame ∧ ∃ sent, sendPacket toAddr payload = .ok sent ∧ ReadBack toAddr payload sent) ↔
      Regular frame := by
  rw [right_iff]
  exact and_iff_left (readBack_sendPacket toAddr h)

theorem packetIn_right_iff_short :
    (Right (List.replicate 14 0) ∧
      ∃ sent, sendPacket ⟨1, 2⟩ [7, 8, 9] = .ok sent ∧ ReadBack ⟨1, 2⟩ [7, 8, 9] sent) ↔
    Regular (List.replicate 14 0) :=
  packetIn_right_iff _ _ (by decide)

/-- An RTP header of 12 bytes in a frame that is padded to 60. -/
def paddedFrame : Buf :=
  List.replicate 12 0 ++ [8, 0] ++ [0x45, 0, 0, 40, 0, 0, 0, 0, 64, 17, 0, 0, 10, 0, 0, 1, 10, 0, 0, 2]
    ++ [0, 1, 0, 2, 0, 20, 0, 0] ++ [0x80, 96, 0, 0, 0, 0, 0, 0, 0, 0, 0, 7] ++ List.replicate 6 0

/-- Padding is passed on, and a frame without a header is read beyond its end. -/
theorem packetIn_not_right :
    onDataPlanePacket (capture paddedFrame) = .ok (some ⟨.rtp, ⟨0x0a000001, 1⟩, 42, 18⟩) ∧
      delivered paddedFrame = some ⟨.rtp, ⟨0x0a000001, 1⟩, 42, 12⟩ ∧
      onDataPlanePacket (capture (List.replicate 13 0)) = .error .outOfBounds ∧
      delivered (List.replicate 13 0) = none := by
  refine ⟨rfl, by decide, rfl, by decide⟩

end Reads

end Tofino

end Scallop
