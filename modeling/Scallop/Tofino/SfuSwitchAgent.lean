import Mathlib.Data.Set.Insert
import Scallop.Lib.Except
import Scallop.Lib.Replay
import Scallop.Tofino.Commands

/-!
# The bookkeeping of the switch agent

The class `SFUSwitchAgent` of `hardware/tofino/control_plane/sfu_switch_agent.py`, for one call after the other.

* `SfuSwitchAgent` : its dictionaries, and what it has sent;
* `addStream`, `removeStream`, `recomposeReceiveStreams` : its operations; `run` : any number of calls;
* `joined` : the receive stream that a send stream and another participant of its meeting make;
* `recomposeReceiveStreams_ok` : the receive streams become the joined ones, and the messages say what changes;
* `run_follows` : over any run, all dictionaries follow the send streams, and the messages mirror the receive streams.
-/

namespace Scallop

namespace Tofino

/-! ## The class -/

def portnameEportMap : List (String × Int) :=
  [("veth0", 0), ("veth2", 1), ("veth4", 2), ("veth6", 3), ("veth8", 4), ("veth10", 5), ("veth12", 6),
    ("veth14", 7), ("veth16", 8), ("veth18", 9), ("veth20", 10), ("veth22", 11), ("veth24", 12), ("veth26", 13),
    ("veth28", 14), ("veth30", 15), ("veth32", 16), ("veth250", 64)]

def eport (portname : String) : Except PyError Int :=
  match portnameEportMap.lookup portname with
  | some eport => .ok eport
  | none => .error .keyError

inductive Media where
  | video
  | audio
  | screenshare
deriving DecidableEq, Repr

structure Meeting where
  meetingId : Int
deriving DecidableEq, Repr

structure Participant where
  meetingId : Int
  ip : String
  port : Int
  egressPort : Int
deriving DecidableEq, Repr

structure SendStream where
  meetingId : Int
  sourceIp : String
  sourcePort : Int
  ssrc : Int
  ssrcRtx : Int
  mediaType : Media
deriving DecidableEq, Repr

/-- A receive stream as the agent keeps it, with the media type, which no message has. -/
structure KeptReceiveStream extends ReceiveStream where
  mediaType : Media
deriving DecidableEq, Repr

/-- The meeting, the address and the port of a participant. -/
abbrev ParticipantKey := Int × String × Int

/-- The meeting, the address and the port of the source, and the SSRC. -/
abbrev SendKey := Int × String × Int × Int

/-- The meeting, the address and the port of the source and of the destination, and the SSRC. -/
abbrev ReceiveKey := Int × String × Int × String × Int × Int

def ReceiveStream.key (r : ReceiveStream) : ReceiveKey :=
  (r.meetingId, r.sourceIp, r.sourcePort, r.destIp, r.destPort, r.ssrc)

def receiveStreamOf (k : ReceiveKey) (ss : SendStream) (p : Participant) : KeptReceiveStream :=
  let (mid, sip, sport, dip, dport, ssrc) := k
  { meetingId := mid, sourceIp := sip, sourcePort := sport, destIp := dip, destPort := dport, ssrc,
    ssrcRtx := ss.ssrcRtx, egressPort := p.egressPort, mediaType := ss.mediaType }

/-- `SFUSwitchAgent`, as its constructor leaves it unless stated otherwise, and what it has sent. -/
structure SfuSwitchAgent where
  meetings : UnorderedMap Int Meeting := ∅
  participants : UnorderedMap ParticipantKey Participant := ∅
  sndStreams : UnorderedMap SendKey SendStream := ∅
  rcvStreams : UnorderedMap ReceiveKey KeptReceiveStream := ∅
  sent : List Json := []

/-- `list(d)`: the keys, the first inserted one first. -/
def keysOf {κ α : Type} (d : UnorderedMap κ α) : List κ := d.keys.reverse

namespace SfuSwitchAgent

/-- `websocket.send`, if there is a message. -/
def send (msg : Option Json) (a : SfuSwitchAgent) : SfuSwitchAgent :=
  match msg with
  | some msg => { a with sent := a.sent ++ [msg] }
  | none => a

def addMeeting (meetingId : Int) (a : SfuSwitchAgent) : SfuSwitchAgent :=
  if (a.meetings.lookup meetingId).isSome then a
  else { a with meetings := a.meetings.insert meetingId { meetingId } }

def addParticipant (meetingId : Int) (ip : String) (port : Int) (veport : String) (a : SfuSwitchAgent) :
    Except PyError SfuSwitchAgent := do
  let egressPort ← eport veport
  if (a.meetings.lookup meetingId).isNone then return a
  if (a.participants.lookup (meetingId, ip, port)).isSome then return a
  return { a with
    participants := a.participants.insert (meetingId, ip, port) { meetingId, ip, port, egressPort } }

def removeParticipant (meetingId : Int) (sip : String) (sport : Int) (a : SfuSwitchAgent) : SfuSwitchAgent :=
  if (a.participants.lookup (meetingId, sip, sport)).isNone then a
  else { a with participants := a.participants.erase (meetingId, sip, sport) }

def removeMeeting (meetingId : Int) (a : SfuSwitchAgent) : SfuSwitchAgent :=
  if (a.meetings.lookup meetingId).isNone then a else { a with meetings := a.meetings.erase meetingId }

/-- The keys of a send stream and another participant of its meeting, for all of them. -/
def activeRcvStreamKeys (a : SfuSwitchAgent) : List ReceiveKey :=
  (keysOf a.sndStreams).flatMap fun (ssMid, ssIp, ssPort, ssSsrc) =>
    (keysOf a.participants).filterMap fun (pMid, pIp, pPort) =>
      if ssMid = pMid ∧ (ssIp ≠ pIp ∨ ssPort ≠ pPort) then some (ssMid, ssIp, ssPort, pIp, pPort, ssSsrc)
      else none

/-- The body of the loop that removes the receive streams that have become inactive. -/
def removeRcvStream (active : List ReceiveKey) (a : SfuSwitchAgent) (k : ReceiveKey) :
    Except PyError SfuSwitchAgent :=
  if k ∉ active then do
    let r ← item a.rcvStreams k
    let a := a.send (r.getApiMessage "remove_stream")
    return { a with rcvStreams := a.rcvStreams.erase k }
  else return a

/-- The body of the loop that adds the receive streams that have become active. -/
def addRcvStream (a : SfuSwitchAgent) (k : ReceiveKey) : Except PyError SfuSwitchAgent :=
  if (a.rcvStreams.lookup k).isNone then do
    let (mid, sip, sport, dip, dport, ssrc) := k
    let ss ← item a.sndStreams (mid, sip, sport, ssrc)
    let p ← item a.participants (mid, dip, dport)
    let r := receiveStreamOf k ss p
    return send (r.getApiMessage "add_stream") { a with rcvStreams := a.rcvStreams.insert k r }
  else return a

def recomposeReceiveStreams (a : SfuSwitchAgent) : Except PyError SfuSwitchAgent := do
  let active := a.activeRcvStreamKeys
  let a ← (keysOf a.rcvStreams).foldlM (removeRcvStream active) a
  active.foldlM addRcvStream a

def addStream (meetingId : Int) (sip : String) (sport ssrc ssrcRtx : Int) (veport : String) (mediaType : Media)
    (a : SfuSwitchAgent) : Except PyError SfuSwitchAgent := do
  let a := if (a.meetings.lookup meetingId).isNone then a.addMeeting meetingId else a
  let a ← (if (a.participants.lookup (meetingId, sip, sport)).isNone then
      a.addParticipant meetingId sip sport veport
    else pure a : Except PyError SfuSwitchAgent)
  if (a.sndStreams.lookup (meetingId, sip, sport, ssrc)).isSome then return a
  recomposeReceiveStreams { a with
    sndStreams := a.sndStreams.insert (meetingId, sip, sport, ssrc)
      { meetingId, sourceIp := sip, sourcePort := sport, ssrc, ssrcRtx, mediaType } }

def removeStream (meetingId : Int) (sip : String) (sport ssrc : Int) (a : SfuSwitchAgent) :
    Except PyError SfuSwitchAgent := do
  if (a.sndStreams.lookup (meetingId, sip, sport, ssrc)).isNone then return a
  let a := { a with sndStreams := a.sndStreams.erase (meetingId, sip, sport, ssrc) }
  let isParticipantActive := (keysOf a.sndStreams).any fun (ssMid, ssSip, ssSport, _) =>
    ssMid = meetingId ∧ ssSip = sip ∧ ssSport = sport
  let a := if isParticipantActive then a else a.removeParticipant meetingId sip sport
  let isMeetingActive := (keysOf a.participants).any fun (pMid, _, _) => pMid = meetingId
  let a := if isMeetingActive then a else a.removeMeeting meetingId
  recomposeReceiveStreams a

end SfuSwitchAgent

inductive AgentCall where
  | addStream (meetingId : Int) (sip : String) (sport ssrc ssrcRtx : Int) (veport : String) (mediaType : Media)
  | removeStream (meetingId : Int) (sip : String) (sport ssrc : Int)

namespace SfuSwitchAgent

def call (a : SfuSwitchAgent) : AgentCall → Except PyError SfuSwitchAgent
  | .addStream meetingId sip sport ssrc ssrcRtx veport mediaType =>
      a.addStream meetingId sip sport ssrc ssrcRtx veport mediaType
  | .removeStream meetingId sip sport ssrc => a.removeStream meetingId sip sport ssrc

def run (a : SfuSwitchAgent) (calls : List AgentCall) : Except PyError SfuSwitchAgent := calls.foldlM call a

end SfuSwitchAgent

/-! ## What the dictionaries stand for -/

/-- A call changes the set of the send streams. -/
def AgentCall.apply (sends : Set SendKey) : AgentCall → Set SendKey
  | addStream meetingId sip sport ssrc _ _ _ => insert (meetingId, sip, sport, ssrc) sends
  | removeStream meetingId sip sport ssrc => sends \ {(meetingId, sip, sport, ssrc)}

/-- The name of the egress port, if there is one, is known. -/
def AgentCall.KnownPort : AgentCall → Prop
  | addStream _ _ _ _ _ veport _ => ∃ q, eport veport = .ok q
  | removeStream _ _ _ _ => True

section Keys
variable {κ α : Type} [DecidableEq κ] {d : UnorderedMap κ α} {k : κ}

theorem mem_keysOf : k ∈ keysOf d ↔ (d.lookup k).isSome := by
  rw [keysOf, List.mem_reverse, ← AList.mem_keys, AList.lookup_isSome]

omit [DecidableEq κ] in
theorem nodup_keysOf (d : UnorderedMap κ α) : (keysOf d).Nodup := List.nodup_reverse.mpr d.nodupKeys

end Keys

/-- What a message to the switch adds, with the SSRC of the retransmissions and the port, or removes. -/
def changeOf (msg : Json) : Except PyError (Change ReceiveKey (Int × Int)) := do
  let k := (← number (← key msg "mid"), ← text (← key msg "sip"), ← number (← key msg "sport"),
    ← text (← key msg "dip"), ← number (← key msg "dport"), ← number (← key msg "ssrc"))
  match ← key msg "api" with
  | .str "add_stream" => return .add k (← number (← key msg "ssrc_rtx"), ← number (← key msg "eport"))
  | .str "remove_stream" => return .remove k
  | _ => .error .typeError

def KeptReceiveStream.told (r : KeptReceiveStream) : Int × Int := (r.ssrcRtx, r.egressPort)

theorem changeOf_add (r : KeptReceiveStream) :
    (r.getApiMessage "add_stream").map changeOf = some (.ok (.add r.key r.told)) := rfl

theorem changeOf_remove (r : KeptReceiveStream) :
    (r.getApiMessage "remove_stream").map changeOf = some (.ok (.remove r.key)) := rfl

namespace SfuSwitchAgent

variable {a a' : SfuSwitchAgent} {k : ReceiveKey} {r : KeptReceiveStream}

/-- The receive stream of a send stream and another participant of its meeting, if there are both. -/
def joined (a : SfuSwitchAgent) (k : ReceiveKey) : Option KeptReceiveStream := do
  let (mid, sip, sport, dip, dport, ssrc) := k
  let ss ← a.sndStreams.lookup (mid, sip, sport, ssrc)
  let p ← a.participants.lookup (mid, dip, dport)
  if sip ≠ dip ∨ sport ≠ dport then some (receiveStreamOf k ss p) else none

/-- The messages make the receive streams, and none adds one that is there or removes one that is not. -/
def Mirrored (a : SfuSwitchAgent) : Prop :=
  ∃ changes, a.sent.mapM changeOf = .ok changes ∧ Mirrors KeptReceiveStream.told changes a.rcvStreams

theorem joined_iff {mid sport dport ssrc : Int} {sip dip : String} :
    a.joined (mid, sip, sport, dip, dport, ssrc) = some r ↔ ∃ ss p,
      a.sndStreams.lookup (mid, sip, sport, ssrc) = some ss ∧ a.participants.lookup (mid, dip, dport) = some p ∧
        (sip ≠ dip ∨ sport ≠ dport) ∧ r = receiveStreamOf (mid, sip, sport, dip, dport, ssrc) ss p := by
  unfold joined
  simp only [Option.bind_eq_bind, Option.bind_eq_some_iff, Option.ite_none_right_eq_some, Option.some.injEq]
  constructor
  · rintro ⟨ss, hs, p, hp, hne, rfl⟩
    exact ⟨ss, p, hs, hp, hne, rfl⟩
  · rintro ⟨ss, p, hs, hp, hne, rfl⟩
    exact ⟨ss, hs, p, hp, hne, rfl⟩

theorem key_of_joined (h : a.joined k = some r) : r.key = k := by
  obtain ⟨mid, sip, sport, dip, dport, ssrc⟩ := k
  obtain ⟨ss, p, -, -, -, rfl⟩ := joined_iff.mp h
  rfl

/-- What is joined from less is joined from more. -/
theorem joined_mono (hs : ∀ l ss, a.sndStreams.lookup l = some ss → a'.sndStreams.lookup l = some ss)
    (hp : ∀ l p, a.participants.lookup l = some p → a'.participants.lookup l = some p)
    (h : a.joined k = some r) : a'.joined k = some r := by
  obtain ⟨mid, sip, sport, dip, dport, ssrc⟩ := k
  obtain ⟨ss, p, hss, hpp, hne, hr⟩ := joined_iff.mp h
  exact joined_iff.mpr ⟨ss, p, hs _ _ hss, hp _ _ hpp, hne, hr⟩

theorem mem_activeRcvStreamKeys : k ∈ a.activeRcvStreamKeys ↔ ∃ r, a.joined k = some r := by
  obtain ⟨mid, sip, sport, dip, dport, ssrc⟩ := k
  unfold activeRcvStreamKeys
  simp only [List.mem_flatMap, List.mem_filterMap, mem_keysOf, Option.isSome_iff_exists, joined_iff,
    Option.ite_none_right_eq_some, Option.some.injEq]
  constructor
  · rintro ⟨⟨mid', sip', sport', ssrc'⟩, ⟨ss, hss⟩, ⟨pmid, pip, pport⟩, ⟨p, hp⟩, ⟨hmid, hne⟩, heq⟩
    obtain ⟨rfl, rfl, rfl, rfl, rfl, rfl⟩ : mid' = mid ∧ sip' = sip ∧ sport' = sport ∧ pip = dip ∧ pport = dport ∧
      ssrc' = ssrc := by simpa using heq
    dsimp only at hmid
    subst hmid
    exact ⟨_, ss, p, hss, hp, hne, rfl⟩
  · rintro ⟨r, ss, p, hss, hp, hne, -⟩
    exact ⟨(mid, sip, sport, ssrc), ⟨ss, hss⟩, (mid, dip, dport), ⟨p, hp⟩, ⟨rfl, hne⟩, rfl⟩

/-! ## The receive streams -/

/-- The send streams, and the participants and meetings, are left as they are. -/
structure KeepsSends (a a' : SfuSwitchAgent) : Prop where
  meetings : a'.meetings = a.meetings
  participants : a'.participants = a.participants
  sndStreams : a'.sndStreams = a.sndStreams

theorem KeepsSends.refl (a : SfuSwitchAgent) : a.KeepsSends a := ⟨rfl, rfl, rfl⟩

theorem KeepsSends.trans {a'' : SfuSwitchAgent} (h : a.KeepsSends a') (h' : a'.KeepsSends a'') : a.KeepsSends a'' :=
  ⟨h'.meetings.trans h.meetings, h'.participants.trans h.participants, h'.sndStreams.trans h.sndStreams⟩

theorem KeepsSends.joined (h : a.KeepsSends a') (k : ReceiveKey) : a'.joined k = a.joined k := by
  unfold SfuSwitchAgent.joined
  rw [h.sndStreams, h.participants]

/-- One more message, and the change that it tells. -/
theorem Mirrored.send (h : a.Mirrored) {msg : Json} {change : Change ReceiveKey (Int × Int)}
    (hmsg : changeOf msg = .ok change) {m : UnorderedMap ReceiveKey KeptReceiveStream}
    (hm : ∀ changes, Mirrors KeptReceiveStream.told changes a.rcvStreams →
      Mirrors KeptReceiveStream.told (changes ++ [change]) m) :
    Mirrored { a with rcvStreams := m, sent := a.sent ++ [msg] } := by
  obtain ⟨changes, hsent, hmirrors⟩ := h
  refine ⟨changes ++ [change], ?_, hm changes hmirrors⟩
  show (a.sent ++ [msg]).mapM changeOf = _
  rw [List.mapM_append, hsent, List.mapM_cons, hmsg]
  rfl

theorem removeRcvStream_ok (active : List ReceiveKey) (h : a.Mirrored)
    (hk : ∃ r, a.rcvStreams.lookup k = some r ∧ r.key = k) :
    ∃ a', removeRcvStream active a k = .ok a' ∧ (a.KeepsSends a' ∧ a'.Mirrored) ∧
      ∀ l, a'.rcvStreams.lookup l = if l = k ∧ l ∉ active then none else a.rcvStreams.lookup l := by
  unfold removeRcvStream
  by_cases hactive : k ∉ active
  · obtain ⟨r, hr, hkey⟩ := hk
    have hmsg := Option.some.inj (changeOf_remove r)
    rw [if_pos hactive, item_ok hr, Except.bind_ok]
    refine ⟨_, rfl, ⟨⟨rfl, rfl, rfl⟩, ?_⟩, fun l => ?_⟩
    · exact h.send hmsg fun changes hm => hkey ▸ hm.remove (hkey.symm ▸ hr)
    · show (a.rcvStreams.erase k).lookup l = _
      by_cases hl : l = k
      · subst hl
        rw [AList.lookup_erase, if_pos ⟨rfl, hactive⟩]
      · rw [AList.lookup_erase_ne hl, if_neg fun hc => hl hc.1]
  · rw [if_neg hactive]
    refine ⟨a, rfl, ⟨.refl a, h⟩, fun l => (if_neg ?_).symm⟩
    rintro ⟨rfl, hl⟩
    exact hactive hl

theorem addRcvStream_ok (h : a.Mirrored) (hk : a.joined k = some r) :
    ∃ a', addRcvStream a k = .ok a' ∧ (a.KeepsSends a' ∧ a'.Mirrored) ∧
      ∀ l, a'.rcvStreams.lookup l =
        if l = k then (a.rcvStreams.lookup k).orElse fun _ => some r else a.rcvStreams.lookup l := by
  unfold addRcvStream
  by_cases hnone : (a.rcvStreams.lookup k).isNone = true
  · rw [if_pos hnone]
    have hkey := key_of_joined hk
    have hnone := Option.isNone_iff_eq_none.mp hnone
    obtain ⟨mid, sip, sport, dip, dport, ssrc⟩ := k
    obtain ⟨ss, p, hss, hp, -, rfl⟩ := joined_iff.mp hk
    have hmsg := Option.some.inj (changeOf_add (receiveStreamOf (mid, sip, sport, dip, dport, ssrc) ss p))
    dsimp only
    rw [item_ok hss, Except.bind_ok, item_ok hp, Except.bind_ok]
    refine ⟨_, rfl, ⟨⟨rfl, rfl, rfl⟩, ?_⟩, fun l => ?_⟩
    · exact h.send hmsg fun changes hm => hkey ▸ hm.add (hkey.symm ▸ hnone) _
    · show (a.rcvStreams.insert (mid, sip, sport, dip, dport, ssrc) _).lookup l = _
      rw [hnone]
      by_cases hl : l = (mid, sip, sport, dip, dport, ssrc)
      · subst hl
        rw [AList.lookup_insert, if_pos rfl]
        rfl
      · rw [AList.lookup_insert_ne hl, if_neg hl]
  · rw [if_neg hnone]
    refine ⟨a, rfl, ⟨.refl a, h⟩, fun l => ?_⟩
    split
    · rename_i hl
      obtain ⟨r', hr'⟩ := Option.ne_none_iff_exists'.mp fun hn => hnone (Option.isNone_iff_eq_none.mpr hn)
      rw [hl, hr']
      rfl
    · rfl

/-- The first loop removes what is not active. -/
theorem removeInactive_ok (active : List ReceiveKey) (h : a.Mirrored)
    (hkey : ∀ k r, a.rcvStreams.lookup k = some r → r.key = k) :
    ∃ a', (keysOf a.rcvStreams).foldlM (removeRcvStream active) a = .ok a' ∧ (a.KeepsSends a' ∧ a'.Mirrored) ∧
      ∀ k, a'.rcvStreams.lookup k = if k ∈ active then a.rcvStreams.lookup k else none := by
  have hstart : (a.KeepsSends a ∧ a.Mirrored) ∧
      ∀ k, a.rcvStreams.lookup k = if k ∈ [] ∧ k ∉ active then none else a.rcvStreams.lookup k :=
    ⟨⟨.refl a, h⟩, fun k => (if_neg fun hk => List.not_mem_nil hk.1).symm⟩
  have hstep : ∀ done x rest b, keysOf a.rcvStreams = done ++ x :: rest →
      ((a.KeepsSends b ∧ b.Mirrored) ∧
        ∀ k, b.rcvStreams.lookup k = if k ∈ done ∧ k ∉ active then none else a.rcvStreams.lookup k) →
      ∃ b', removeRcvStream active b x = .ok b' ∧ (a.KeepsSends b' ∧ b'.Mirrored) ∧
        ∀ k, b'.rcvStreams.lookup k = if k ∈ done ++ [x] ∧ k ∉ active then none else a.rcvStreams.lookup k := by
    intro done x rest b hxs ⟨⟨hkeeps, hmirrored⟩, hlookup⟩
    have hx : x ∈ keysOf a.rcvStreams := hxs ▸ List.mem_append_right done List.mem_cons_self
    have hnodup : (done ++ x :: rest).Nodup := hxs ▸ nodup_keysOf a.rcvStreams
    have hnot : x ∉ done := fun hd => List.disjoint_of_nodup_append hnodup hd List.mem_cons_self
    obtain ⟨r, hr⟩ := Option.isSome_iff_exists.mp (mem_keysOf.mp hx)
    have hbx : b.rcvStreams.lookup x = some r := by rw [hlookup, if_neg fun hc => hnot hc.1, hr]
    obtain ⟨b', hb', ⟨hkeeps', hmirrored'⟩, hlookup'⟩ := removeRcvStream_ok active hmirrored
      ⟨r, hbx, hkey x r hr⟩
    refine ⟨b', hb', ⟨hkeeps.trans hkeeps', hmirrored'⟩, fun k => ?_⟩
    rw [hlookup', hlookup]
    by_cases hk : k ∈ active
    · simp [hk]
    · simp [hk, or_comm, ite_or]
  obtain ⟨a', ha', hkeeps, hlookup⟩ := Except.foldlM_ok hstart hstep
  refine ⟨a', ha', hkeeps, fun k => ?_⟩
  rw [hlookup]
  by_cases hk : k ∈ active
  · rw [if_pos hk, if_neg fun hc => hc.2 hk]
  · rw [if_neg hk]
    by_cases hmem : k ∈ keysOf a.rcvStreams
    · rw [if_pos ⟨hmem, hk⟩]
    · rw [if_neg fun hc => hmem hc.1]
      exact Option.not_isSome_iff_eq_none.mp fun hsome => hmem (mem_keysOf.mpr hsome)

theorem addActive_ok (h : a.Mirrored) (hcurrent : ∀ k r, a.rcvStreams.lookup k = some r → a.joined k = some r) :
    ∃ a', a.activeRcvStreamKeys.foldlM addRcvStream a = .ok a' ∧ (a.KeepsSends a' ∧ a'.Mirrored) ∧
      ∀ k, a'.rcvStreams.lookup k = a.joined k := by
  have hstart : (a.KeepsSends a ∧ a.Mirrored) ∧
      ∀ k, a.rcvStreams.lookup k = if k ∈ [] then a.joined k else a.rcvStreams.lookup k :=
    ⟨⟨.refl a, h⟩, fun k => (if_neg List.not_mem_nil).symm⟩
  have hstep : ∀ done x rest b, a.activeRcvStreamKeys = done ++ x :: rest →
      ((a.KeepsSends b ∧ b.Mirrored) ∧
        ∀ k, b.rcvStreams.lookup k = if k ∈ done then a.joined k else a.rcvStreams.lookup k) →
      ∃ b', addRcvStream b x = .ok b' ∧ (a.KeepsSends b' ∧ b'.Mirrored) ∧
        ∀ k, b'.rcvStreams.lookup k = if k ∈ done ++ [x] then a.joined k else a.rcvStreams.lookup k := by
    intro done x rest b hxs ⟨⟨hkeeps, hmirrored⟩, hlookup⟩
    obtain ⟨r, hr⟩ := mem_activeRcvStreamKeys.mp (hxs ▸ List.mem_append_right done List.mem_cons_self)
    obtain ⟨b', hb', ⟨hkeeps', hmirrored'⟩, hlookup'⟩ :=
      addRcvStream_ok hmirrored ((hkeeps.joined x).trans hr)
    refine ⟨b', hb', ⟨hkeeps.trans hkeeps', hmirrored'⟩, fun k => ?_⟩
    rw [hlookup']
    by_cases hk : k = x
    · subst hk
      rw [if_pos rfl, if_pos (List.mem_append_right done List.mem_cons_self), hlookup, hr]
      cases hcur : a.rcvStreams.lookup k with
      | none => split <;> rfl
      | some r' =>
          obtain rfl := Option.some.inj ((hcurrent k r' hcur).symm.trans hr)
          split <;> rfl
    · simp [hk, hlookup]
  obtain ⟨a', ha', hkeeps, hlookup⟩ := Except.foldlM_ok hstart hstep
  refine ⟨a', ha', hkeeps, fun k => ?_⟩
  rw [hlookup]
  split
  · rfl
  · rename_i hk
    have hjoined : a.joined k = none :=
      Option.eq_none_iff_forall_ne_some.mpr fun r hr => hk (mem_activeRcvStreamKeys.mpr ⟨r, hr⟩)
    rw [hjoined]
    exact Option.eq_none_iff_forall_ne_some.mpr fun r hr => nomatch hjoined.symm.trans (hcurrent k r hr)

/-- The receive streams become the joined ones, where those that are active are as they should be. -/
theorem recomposeReceiveStreams_ok (h : a.Mirrored) (hkey : ∀ k r, a.rcvStreams.lookup k = some r → r.key = k)
    (hcurrent : ∀ k r r', a.rcvStreams.lookup k = some r → a.joined k = some r' → r = r') :
    ∃ a', a.recomposeReceiveStreams = .ok a' ∧ (a.KeepsSends a' ∧ a'.Mirrored) ∧
      ∀ k, a'.rcvStreams.lookup k = a'.joined k := by
  obtain ⟨a₁, h₁, ⟨hkeeps₁, hmirrored₁⟩, hlookup₁⟩ := removeInactive_ok a.activeRcvStreamKeys h hkey
  have hcurrent₁ (k : ReceiveKey) (r : KeptReceiveStream) (hr : a₁.rcvStreams.lookup k = some r) :
      a₁.joined k = some r := by
    rw [hlookup₁] at hr
    split at hr
    · rename_i hk
      obtain ⟨r', hr'⟩ := mem_activeRcvStreamKeys.mp hk
      rw [hkeeps₁.joined, hr', hcurrent k r r' hr hr']
    · cases hr
  obtain ⟨a₂, h₂, ⟨hkeeps₂, hmirrored₂⟩, hlookup₂⟩ := addActive_ok hmirrored₁ hcurrent₁
  have hactive : a₁.activeRcvStreamKeys = a.activeRcvStreamKeys := by
    unfold activeRcvStreamKeys
    rw [hkeeps₁.sndStreams, hkeeps₁.participants]
  refine ⟨a₂, ?_, ⟨hkeeps₁.trans hkeeps₂, hmirrored₂⟩, fun k => ?_⟩
  · unfold recomposeReceiveStreams
    dsimp only
    rw [h₁, Except.bind_ok, ← hactive, h₂]
  · rw [hlookup₂, hkeeps₂.joined]

/-! ## Any run -/

/-- There is a send stream of a participant. -/
def Sending (a : SfuSwitchAgent) (k : ParticipantKey) : Prop :=
  ∃ ssrc, (a.sndStreams.lookup (k.1, k.2.1, k.2.2, ssrc)).isSome

/-- The meetings and the participants follow the send streams. -/
structure Attended (a : SfuSwitchAgent) : Prop where
  meetings : ∀ mid m, a.meetings.lookup mid = some m ↔ m = ⟨mid⟩ ∧ ∃ e, a.Sending (mid, e)
  participants : ∀ k, (a.participants.lookup k).isSome ↔ a.Sending k
  participant : ∀ mid ip port p, a.participants.lookup (mid, ip, port) = some p → ∃ q, p = ⟨mid, ip, port, q⟩
  sendStream : ∀ mid ip port ssrc ss, a.sndStreams.lookup (mid, ip, port, ssrc) = some ss →
    ∃ ssrcRtx mediaType, ss = ⟨mid, ip, port, ssrc, ssrcRtx, mediaType⟩

/-- All dictionaries follow the send streams, and the messages mirror the receive streams. -/
structure Follows (a : SfuSwitchAgent) : Prop extends a.Attended where
  rcvStreams : ∀ k, a.rcvStreams.lookup k = a.joined k
  mirrored : a.Mirrored

theorem follows_empty : Follows {} where
  meetings _ _ := iff_of_false nofun fun ⟨_, _, _, h⟩ => nomatch h
  participants _ := iff_of_false Bool.false_ne_true fun ⟨_, h⟩ => nomatch h
  participant _ _ _ _ := nofun
  sendStream _ _ _ _ _ := nofun
  rcvStreams _ := rfl
  mirrored := ⟨[], rfl, .nil _⟩

/-- After a change of the send streams that the meetings and participants have followed, the receive streams follow
as well. -/
theorem Follows.recompose (h : a.Follows) (hrcv : a'.rcvStreams = a.rcvStreams) (hsent : a'.sent = a.sent)
    (hcurrent : ∀ k r r', a.joined k = some r → a'.joined k = some r' → r = r') (hatt : a'.Attended) :
    ∃ a'', a'.recomposeReceiveStreams = .ok a'' ∧ a''.Follows ∧ a''.sndStreams = a'.sndStreams := by
  have hmirrored : a'.Mirrored := by
    unfold Mirrored
    rw [hrcv, hsent]
    exact h.mirrored
  have hjoined (k : ReceiveKey) : a'.rcvStreams.lookup k = a.joined k := by rw [hrcv, h.rcvStreams]
  obtain ⟨a'', ha'', ⟨hkeeps, hmirrored'⟩, hrcv'⟩ := recomposeReceiveStreams_ok hmirrored
    (fun k r hr => key_of_joined ((hjoined k).symm.trans hr))
    (fun k r r' hr hr' => hcurrent k r r' ((hjoined k).symm.trans hr) hr')
  refine ⟨a'', ha'', ⟨⟨?_, ?_, ?_, ?_⟩, hrcv', hmirrored'⟩, hkeeps.sndStreams⟩
  · unfold Sending
    rw [hkeeps.meetings, hkeeps.sndStreams]
    exact hatt.meetings
  · unfold Sending
    rw [hkeeps.participants, hkeeps.sndStreams]
    exact hatt.participants
  · rw [hkeeps.participants]
    exact hatt.participant
  · rw [hkeeps.sndStreams]
    exact hatt.sendStream

section AddStream
variable {mid : Int} {sip : String} {sport : Int} {veport : String}

theorem addMeeting_ok (h : ∀ m, a.meetings.lookup mid = some m → m = ⟨mid⟩) :
    ∃ ms, (if (a.meetings.lookup mid).isNone then a.addMeeting mid else a) = { a with meetings := ms } ∧
      ∀ l, ms.lookup l = if l = mid then some ⟨mid⟩ else a.meetings.lookup l := by
  cases hm : a.meetings.lookup mid with
  | none =>
      unfold addMeeting
      rw [hm]
      refine ⟨a.meetings.insert mid ⟨mid⟩, rfl, fun l => ?_⟩
      by_cases hl : l = mid
      · subst hl
        rw [AList.lookup_insert, if_pos rfl]
      · rw [AList.lookup_insert_ne hl, if_neg hl]
  | some m =>
      refine ⟨a.meetings, rfl, fun l => ?_⟩
      split
      · rename_i hl
        rw [hl, hm, h m hm]
      · rfl

theorem addParticipant_ok (hmeeting : (a.meetings.lookup mid).isSome) {q : Int} (hport : eport veport = .ok q) :
    ∃ ps, (if (a.participants.lookup (mid, sip, sport)).isNone then a.addParticipant mid sip sport veport
        else pure a) = .ok { a with participants := ps } ∧
      ∀ l, ps.lookup l = if l = (mid, sip, sport) then
        some ((a.participants.lookup l).getD ⟨mid, sip, sport, q⟩) else a.participants.lookup l := by
  cases hp : a.participants.lookup (mid, sip, sport) with
  | none =>
      obtain ⟨m, hm⟩ := Option.isSome_iff_exists.mp hmeeting
      unfold addParticipant
      rw [hport, hm, hp]
      refine ⟨a.participants.insert (mid, sip, sport) ⟨mid, sip, sport, q⟩, rfl, fun l => ?_⟩
      by_cases hl : l = (mid, sip, sport)
      · subst hl
        rw [AList.lookup_insert, if_pos rfl, hp, Option.getD_none]
      · rw [AList.lookup_insert_ne hl, if_neg hl]
  | some p =>
      refine ⟨a.participants, rfl, fun l => ?_⟩
      split
      · rename_i hl
        rw [hl, hp, Option.getD_some]
      · rfl

/-- A meeting and a participant that are there for a new stream. -/
theorem Attended.addStream (h : a.Attended) {ms : UnorderedMap Int Meeting}
    {ps : UnorderedMap ParticipantKey Participant} {q : Int}
    (hm : ∀ l, ms.lookup l = if l = mid then some ⟨mid⟩ else a.meetings.lookup l)
    (hp : ∀ l, ps.lookup l = if l = (mid, sip, sport) then
      some ((a.participants.lookup l).getD ⟨mid, sip, sport, q⟩) else a.participants.lookup l)
    (ssrc ssrcRtx : Int) (mediaType : Media) :
    Attended { a with meetings := ms, participants := ps,
                      sndStreams := a.sndStreams.insert (mid, sip, sport, ssrc)
                        ⟨mid, sip, sport, ssrc, ssrcRtx, mediaType⟩ } := by
  have hsending (k : ParticipantKey) : (∃ x, ((a.sndStreams.insert (mid, sip, sport, ssrc)
      ⟨mid, sip, sport, ssrc, ssrcRtx, mediaType⟩).lookup (k.1, k.2.1, k.2.2, x)).isSome) ↔
      a.Sending k ∨ k = (mid, sip, sport) := by
    obtain ⟨k₁, k₂, k₃⟩ := k
    constructor
    · rintro ⟨x, hx⟩
      by_cases hk : (k₁, k₂, k₃, x) = (mid, sip, sport, ssrc)
      · obtain ⟨rfl, rfl, rfl, -⟩ : k₁ = mid ∧ k₂ = sip ∧ k₃ = sport ∧ x = ssrc := by simpa using hk
        exact .inr rfl
      · rw [AList.lookup_insert_ne hk] at hx
        exact .inl ⟨x, hx⟩
    · rintro (⟨x, hx⟩ | hk)
      · refine ⟨x, ?_⟩
        by_cases hk : (k₁, k₂, k₃, x) = (mid, sip, sport, ssrc)
        · rw [hk, AList.lookup_insert]
          rfl
        · rw [AList.lookup_insert_ne hk]
          exact hx
      · refine ⟨ssrc, ?_⟩
        rw [hk, AList.lookup_insert]
        rfl
  refine ⟨fun l m => ?_, fun k => ?_, fun l ip port p hl => ?_, fun l ip port x ss hl => ?_⟩
  · refine Iff.trans ?_ (and_congr_right fun _ => exists_congr fun e => (hsending (l, e)).symm)
    show ms.lookup l = some m ↔ _
    rw [hm]
    by_cases hl : l = mid
    · subst hl
      rw [if_pos rfl, Option.some.injEq, eq_comm]
      exact (and_iff_left ⟨(sip, sport), .inr rfl⟩).symm
    · rw [if_neg hl, h.meetings]
      refine and_congr_right fun _ => exists_congr fun e => (or_iff_left fun heq => hl ?_).symm
      exact congrArg Prod.fst heq
  · refine Iff.trans ?_ (hsending k).symm
    show (ps.lookup k).isSome ↔ _
    rw [hp, ← h.participants]
    by_cases hk : k = (mid, sip, sport)
    · rw [if_pos hk]
      exact iff_of_true rfl (.inr hk)
    · rw [if_neg hk]
      exact (or_iff_left hk).symm
  · have hl : ps.lookup (l, ip, port) = some p := hl
    rw [hp] at hl
    by_cases hk : (l, ip, port) = (mid, sip, sport)
    · rw [if_pos hk, Option.some.injEq] at hl
      obtain ⟨rfl, rfl, rfl⟩ : l = mid ∧ ip = sip ∧ port = sport := by simpa using hk
      cases hold : a.participants.lookup (l, ip, port) with
      | none => exact ⟨q, by rw [← hl, hold, Option.getD_none]⟩
      | some p' =>
          rw [hold, Option.getD_some] at hl
          exact hl ▸ h.participant l ip port p' hold
    · rw [if_neg hk] at hl
      exact h.participant l ip port p hl
  · obtain ⟨hk, rfl⟩ | ⟨-, hl⟩ := UnorderedMap.lookup_insert_iff.mp hl
    · obtain ⟨rfl, rfl, rfl, rfl⟩ : l = mid ∧ ip = sip ∧ port = sport ∧ x = ssrc := by simpa using hk
      exact ⟨ssrcRtx, mediaType, rfl⟩
    · exact h.sendStream l ip port x ss hl

end AddStream

/-- A stream is added, and everything follows. -/
theorem Follows.addStream (h : a.Follows) (mid : Int) (sip : String) (sport ssrc ssrcRtx : Int) {veport : String}
    {q : Int} (hport : eport veport = .ok q) (mediaType : Media) :
    ∃ a', a.addStream mid sip sport ssrc ssrcRtx veport mediaType = .ok a' ∧ a'.Follows ∧
      ∀ l, (a'.sndStreams.lookup l).isSome ↔ (a.sndStreams.lookup l).isSome ∨ l = (mid, sip, sport, ssrc) := by
  unfold SfuSwitchAgent.addStream
  cases hs : a.sndStreams.lookup (mid, sip, sport, ssrc) with
  | some ss =>
      have hsending : a.Sending (mid, sip, sport) := ⟨ssrc, by rw [hs]; rfl⟩
      obtain ⟨p, hp⟩ := Option.isSome_iff_exists.mp ((h.participants _).mpr hsending)
      have hm := (h.meetings mid ⟨mid⟩).mpr ⟨rfl, (sip, sport), hsending⟩
      refine ⟨a, ?_, h, fun l => (or_iff_left_of_imp ?_).symm⟩
      · simp [hm, hp, hs]
        rfl
      · rintro rfl
        rw [hs]
        rfl
  | none =>
      obtain ⟨ms, hms, hmeetings⟩ := addMeeting_ok (a := a) fun m hm => ((h.meetings mid m).mp hm).1
      have hmid : (ms.lookup mid).isSome := by
        rw [hmeetings, if_pos rfl]
        rfl
      obtain ⟨ps, hps, hparticipants⟩ :=
        @addParticipant_ok { a with meetings := ms } mid sip sport veport hmid q hport
      let a₁ : SfuSwitchAgent := { a with
        meetings := ms, participants := ps
        sndStreams := a.sndStreams.insert (mid, sip, sport, ssrc) ⟨mid, sip, sport, ssrc, ssrcRtx, mediaType⟩ }
      have hcurrent (k : ReceiveKey) (r r' : KeptReceiveStream) (hr : a.joined k = some r)
          (hr' : a₁.joined k = some r') : r = r' := by
        have hr₁ : a₁.joined k = some r := by
          refine joined_mono (fun l ss hl => ?_) (fun l p hl => ?_) hr
          · have hne : l ≠ (mid, sip, sport, ssrc) := by
              rintro rfl
              exact nomatch hs.symm.trans hl
            exact (AList.lookup_insert_ne hne).trans hl
          · show ps.lookup l = some p
            rw [hparticipants]
            split
            · rw [show a.participants.lookup l = some p from hl, Option.getD_some]
            · exact hl
        exact Option.some.inj (hr₁.symm.trans hr')
      obtain ⟨a', ha', hfollows, hsnd⟩ := h.recompose (show a₁.rcvStreams = a.rcvStreams from rfl) rfl hcurrent
        (h.toAttended.addStream hmeetings hparticipants ssrc ssrcRtx mediaType)
      refine ⟨a', ?_, hfollows, fun l => ?_⟩
      · dsimp only
        rw [hms, hps, Except.bind_ok]
        dsimp only
        rw [hs]
        exact ha'
      · rw [hsnd]
        show ((a.sndStreams.insert _ _).lookup l).isSome ↔ _
        by_cases hl : l = (mid, sip, sport, ssrc)
        · subst hl
          rw [AList.lookup_insert]
          exact iff_of_true rfl (.inr rfl)
        · rw [AList.lookup_insert_ne hl]
          exact (or_iff_left hl).symm

section RemoveStream
variable {mid : Int} {sip : String} {sport ssrc : Int}

theorem removeParticipant_ok (active : Bool) :
    ∃ ps, (if active then a else a.removeParticipant mid sip sport) = { a with participants := ps } ∧
      ∀ l, ps.lookup l = if l = (mid, sip, sport) ∧ active = false then none else a.participants.lookup l := by
  cases active with
  | true => exact ⟨a.participants, rfl, fun l => (if_neg fun hc => nomatch hc.2).symm⟩
  | false =>
      unfold removeParticipant
      cases hp : a.participants.lookup (mid, sip, sport) with
      | none =>
          refine ⟨a.participants, rfl, fun l => ?_⟩
          split
          · rename_i hl
            rw [hl.1, hp]
          · rfl
      | some p =>
          refine ⟨a.participants.erase (mid, sip, sport), rfl, fun l => ?_⟩
          by_cases hl : l = (mid, sip, sport)
          · rw [if_pos ⟨hl, rfl⟩, hl, AList.lookup_erase]
          · rw [if_neg fun hc => hl hc.1, AList.lookup_erase_ne hl]

theorem removeMeeting_ok (active : Bool) :
    ∃ ms, (if active then a else a.removeMeeting mid) = { a with meetings := ms } ∧
      ∀ l, ms.lookup l = if l = mid ∧ active = false then none else a.meetings.lookup l := by
  cases active with
  | true => exact ⟨a.meetings, rfl, fun l => (if_neg fun hc => nomatch hc.2).symm⟩
  | false =>
      unfold removeMeeting
      cases hm : a.meetings.lookup mid with
      | none =>
          refine ⟨a.meetings, rfl, fun l => ?_⟩
          split
          · rename_i hl
            rw [hl.1, hm]
          · rfl
      | some m =>
          refine ⟨a.meetings.erase mid, rfl, fun l => ?_⟩
          by_cases hl : l = mid
          · rw [if_pos ⟨hl, rfl⟩, hl, AList.lookup_erase]
          · rw [if_neg fun hc => hl hc.1, AList.lookup_erase_ne hl]

/-- The meeting and the participant go with their last stream. -/
theorem Attended.removeStream (h : a.Attended) {ms : UnorderedMap Int Meeting}
    {ps : UnorderedMap ParticipantKey Participant} {isParticipantActive isMeetingActive : Bool}
    (hpa : isParticipantActive = true ↔
      ∃ x, ((a.sndStreams.erase (mid, sip, sport, ssrc)).lookup (mid, sip, sport, x)).isSome)
    (hma : isMeetingActive = true ↔ ∃ e, (ps.lookup (mid, e)).isSome)
    (hp : ∀ l, ps.lookup l =
      if l = (mid, sip, sport) ∧ isParticipantActive = false then none else a.participants.lookup l)
    (hm : ∀ l, ms.lookup l = if l = mid ∧ isMeetingActive = false then none else a.meetings.lookup l) :
    Attended { a with meetings := ms, participants := ps,
                      sndStreams := a.sndStreams.erase (mid, sip, sport, ssrc) } := by
  have hless (l : SendKey) (ss : SendStream)
      (hl : (a.sndStreams.erase (mid, sip, sport, ssrc)).lookup l = some ss) : a.sndStreams.lookup l = some ss := by
    by_cases hk : l = (mid, sip, sport, ssrc)
    · rw [hk, AList.lookup_erase] at hl
      cases hl
    · rwa [AList.lookup_erase_ne hk] at hl
  have hsending (k : ParticipantKey) : (ps.lookup k).isSome ↔
      ∃ x, ((a.sndStreams.erase (mid, sip, sport, ssrc)).lookup (k.1, k.2.1, k.2.2, x)).isSome := by
    rw [hp]
    by_cases hk : k = (mid, sip, sport)
    · subst hk
      cases hact : isParticipantActive with
      | true =>
          obtain ⟨x, hx⟩ := hpa.mp hact
          obtain ⟨ss, hss⟩ := Option.isSome_iff_exists.mp hx
          have hsend : a.Sending (mid, sip, sport) := ⟨x, by rw [hless _ ss hss]; rfl⟩
          rw [if_neg fun hc => nomatch hc.2]
          exact iff_of_true ((h.participants _).mpr hsend) ⟨x, hx⟩
      | false =>
          rw [if_pos ⟨rfl, rfl⟩]
          exact iff_of_false Bool.false_ne_true fun hx => nomatch hact.symm.trans (hpa.mpr hx)
    · rw [if_neg fun hc => hk hc.1, h.participants]
      refine exists_congr fun x => ?_
      have hne : (k.1, k.2.1, k.2.2, x) ≠ (mid, sip, sport, ssrc) := by
        intro heq
        obtain ⟨h₁, heq⟩ := Prod.mk.inj heq
        obtain ⟨h₂, heq⟩ := Prod.mk.inj heq
        exact hk (Prod.ext h₁ (Prod.ext h₂ (Prod.mk.inj heq).1))
      rw [AList.lookup_erase_ne hne]
  have hkeeps (k : ParticipantKey) (hk : (ps.lookup k).isSome) : a.Sending k := by
    rw [← h.participants]
    rw [hp] at hk
    split at hk
    · cases hk
    · exact hk
  refine ⟨fun l m => ?_, fun k => hsending k, fun l ip port p hl => ?_, fun l ip port x ss hl => ?_⟩
  · refine Iff.trans ?_ (and_congr_right fun _ => exists_congr fun e => hsending (l, e))
    show ms.lookup l = some m ↔ _
    rw [hm]
    by_cases hl : l = mid
    · subst hl
      cases hact : isMeetingActive with
      | true =>
          obtain ⟨e, he⟩ := hma.mp hact
          rw [if_neg fun hc => nomatch hc.2]
          have hsend : ∃ e, a.Sending (l, e) := ⟨e, hkeeps (l, e) he⟩
          rw [h.meetings]
          exact and_congr_right fun _ => iff_of_true hsend ⟨e, he⟩
      | false =>
          rw [if_pos ⟨rfl, rfl⟩]
          exact iff_of_false nofun fun hc => nomatch hact.symm.trans (hma.mpr hc.2)
    · rw [if_neg fun hc => hl hc.1, h.meetings]
      refine and_congr_right fun _ => exists_congr fun e => ?_
      rw [← h.participants, hp, if_neg fun hc => hl (congrArg Prod.fst hc.1)]
  · have hl : ps.lookup (l, ip, port) = some p := hl
    rw [hp] at hl
    split at hl
    · cases hl
    · exact h.participant l ip port p hl
  · exact h.sendStream l ip port x ss (hless _ ss hl)

end RemoveStream

/-- A stream is removed, and everything follows. -/
theorem Follows.removeStream (h : a.Follows) (mid : Int) (sip : String) (sport ssrc : Int) :
    ∃ a', a.removeStream mid sip sport ssrc = .ok a' ∧ a'.Follows ∧
      ∀ l, (a'.sndStreams.lookup l).isSome ↔ (a.sndStreams.lookup l).isSome ∧ l ≠ (mid, sip, sport, ssrc) := by
  unfold SfuSwitchAgent.removeStream
  cases hs : a.sndStreams.lookup (mid, sip, sport, ssrc) with
  | none =>
      refine ⟨a, rfl, h, fun l => (and_iff_left_of_imp ?_).symm⟩
      rintro hl rfl
      rw [hs] at hl
      cases hl
  | some ss =>
      let isParticipantActive := (keysOf (a.sndStreams.erase (mid, sip, sport, ssrc))).any
        fun (ssMid, ssSip, ssSport, _) => ssMid = mid ∧ ssSip = sip ∧ ssSport = sport
      obtain ⟨ps, hps, hparticipants⟩ := @removeParticipant_ok
        { a with sndStreams := a.sndStreams.erase (mid, sip, sport, ssrc) } mid sip sport isParticipantActive
      let isMeetingActive := (keysOf ps).any fun (pMid, _, _) => pMid = mid
      obtain ⟨ms, hms, hmeetings⟩ := @removeMeeting_ok
        { a with participants := ps, sndStreams := a.sndStreams.erase (mid, sip, sport, ssrc) } mid isMeetingActive
      let a₁ : SfuSwitchAgent := { a with
        meetings := ms, participants := ps, sndStreams := a.sndStreams.erase (mid, sip, sport, ssrc) }
      have hpa : isParticipantActive = true ↔
          ∃ x, ((a.sndStreams.erase (mid, sip, sport, ssrc)).lookup (mid, sip, sport, x)).isSome := by
        constructor
        · intro hany
          obtain ⟨⟨_, _, _, x⟩, hk, hd⟩ := List.any_eq_true.mp hany
          obtain ⟨rfl, rfl, rfl⟩ := of_decide_eq_true hd
          exact ⟨x, mem_keysOf.mp hk⟩
        · rintro ⟨x, hx⟩
          exact List.any_eq_true.mpr ⟨_, mem_keysOf.mpr hx, decide_eq_true ⟨rfl, rfl, rfl⟩⟩
      have hma : isMeetingActive = true ↔ ∃ e, (ps.lookup (mid, e)).isSome := by
        constructor
        · intro hany
          obtain ⟨⟨_, e⟩, hk, hd⟩ := List.any_eq_true.mp hany
          obtain rfl := of_decide_eq_true hd
          exact ⟨e, mem_keysOf.mp hk⟩
        · rintro ⟨e, he⟩
          exact List.any_eq_true.mpr ⟨_, mem_keysOf.mpr he, decide_eq_true rfl⟩
      have hatt : a₁.Attended := h.toAttended.removeStream hpa hma hparticipants hmeetings
      have hcurrent (k : ReceiveKey) (r r' : KeptReceiveStream) (hr : a.joined k = some r)
          (hr' : a₁.joined k = some r') : r = r' := by
        have hr₁ : a.joined k = some r' := by
          refine joined_mono (fun l ss hl => ?_) (fun l p hl => ?_) hr'
          · have hne : l ≠ (mid, sip, sport, ssrc) := by
              rintro rfl
              exact nomatch (AList.lookup_erase _ _).symm.trans hl
            exact (AList.lookup_erase_ne hne).symm.trans hl
          · have hl : ps.lookup l = some p := hl
            rw [hparticipants] at hl
            split at hl
            · cases hl
            · exact hl
        exact Option.some.inj (hr.symm.trans hr₁)
      obtain ⟨a', ha', hfollows, hsnd⟩ := h.recompose (show a₁.rcvStreams = a.rcvStreams from rfl) rfl hcurrent hatt
      refine ⟨a', ?_, hfollows, fun l => ?_⟩
      · dsimp only [Option.isNone_some]
        rw [if_neg Bool.false_ne_true, hps]
        dsimp only
        rw [hms]
        exact ha'
      · rw [hsnd]
        show ((a.sndStreams.erase _).lookup l).isSome ↔ _
        by_cases hl : l = (mid, sip, sport, ssrc)
        · rw [hl, AList.lookup_erase]
          exact iff_of_false Bool.false_ne_true fun hc => hc.2 rfl
        · rw [AList.lookup_erase_ne hl]
          exact (and_iff_left hl).symm

def sends (a : SfuSwitchAgent) : Set SendKey := {l | (a.sndStreams.lookup l).isSome}

theorem Follows.call (h : a.Follows) {c : AgentCall} (hc : c.KnownPort) :
    ∃ a', a.call c = .ok a' ∧ a'.Follows ∧ a'.sends = c.apply a.sends := by
  cases c with
  | addStream mid sip sport ssrc ssrcRtx veport mediaType =>
      obtain ⟨q, hq⟩ := hc
      obtain ⟨a', ha', hfollows, hsends⟩ := h.addStream mid sip sport ssrc ssrcRtx hq mediaType
      refine ⟨a', ha', hfollows, Set.ext fun l => (hsends l).trans ?_⟩
      show _ ↔ l ∈ insert _ a.sends
      rw [Set.mem_insert_iff, or_comm]
      rfl
  | removeStream mid sip sport ssrc =>
      obtain ⟨a', ha', hfollows, hsends⟩ := h.removeStream mid sip sport ssrc
      exact ⟨a', ha', hfollows, Set.ext hsends⟩

/-- Any calls with known ports, one after the other: none fails, the send streams are those that the calls ask for, the
meetings, the participants and the receive streams follow them, and the messages, none of which adds a receive stream
that is there or removes one that is not, make the receive streams. -/
theorem run_follows (calls : List AgentCall) (h : ∀ c ∈ calls, c.KnownPort) :
    ∃ a, run {} calls = .ok a ∧ a.Follows ∧ a.sends = calls.foldl AgentCall.apply ∅ := by
  have hstart : Follows {} ∧ sends {} = ([] : List AgentCall).foldl AgentCall.apply ∅ :=
    ⟨follows_empty, Set.eq_empty_iff_forall_notMem.mpr fun _ hl => nomatch hl⟩
  have hstep : ∀ done c rest (a : SfuSwitchAgent), calls = done ++ c :: rest →
      (a.Follows ∧ a.sends = done.foldl AgentCall.apply ∅) →
      ∃ a', a.call c = .ok a' ∧ a'.Follows ∧ a'.sends = (done ++ [c]).foldl AgentCall.apply ∅ := by
    intro done c rest a hcalls ⟨hfollows, hsends⟩
    have hmem : c ∈ calls := hcalls ▸ List.mem_append_right done List.mem_cons_self
    obtain ⟨a', ha', hfollows', hsends'⟩ := hfollows.call (h c hmem)
    refine ⟨a', ha', hfollows', ?_⟩
    rw [hsends', hsends, List.foldl_append]
    rfl
  exact Except.foldlM_ok hstart hstep

/-- Two participants join, and one of them leaves and comes back with another port and another SSRC for
retransmissions. -/
def comeBack : List AgentCall :=
  [.addStream 0 "10.0.211.1" 1111 110 111 "veth4" .video, .addStream 0 "10.0.211.2" 2222 210 211 "veth6" .video,
    .removeStream 0 "10.0.211.1" 1111 110, .addStream 0 "10.0.211.1" 1111 110 112 "veth8" .video]

example : (run {} comeBack).map (fun a => a.sent.length) = .ok 6 := by decide

theorem run_follows_comeBack :
    ∃ a, run {} comeBack = .ok a ∧ a.Follows ∧ a.sends = comeBack.foldl AgentCall.apply ∅ := by
  refine run_follows comeBack fun c hc => ?_
  simp only [comeBack, List.mem_cons, List.not_mem_nil, or_false] at hc
  obtain rfl | rfl | rfl | rfl := hc
  · exact ⟨2, by decide⟩
  · exact ⟨3, by decide⟩
  · trivial
  · exact ⟨4, by decide⟩

end SfuSwitchAgent

end Tofino

end Scallop
