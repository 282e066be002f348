import Scallop.DataPlane.Model
import Scallop.Lib.Json
import Scallop.Tofino.Rules

/-!
# The commands to the switch

* `TofinoDataPlane.addStream`, `TofinoDataPlane.adjustDecodeTarget` and
  `ReceiveStream.getApiMessage` : what the two switch agents send; `Cause` : why they send it;
* `dispatch`, `Call.run` : what the loop of `tofino_client_agent` does with it;
* `Served` : the command invokes an operation with its own values, and no key or attribute is missing;
* `OnlyRpc` : a computation fails on the switch only;
* `receive_served` : which commands are served, over whole runs.
-/

namespace Scallop

namespace Tofino

/-! ## The agents -/

namespace TofinoDataPlane

def addStream (s : DataPlaneStream) : Json :=
  let j := Json.null
  let j := j.set "api" (.str "add_stream")
  let j := j.set "sip" (.str (IPv4.str s.src.ip))
  let j := j.set "sport" (.int s.src.port.toNat)
  let j := j.set "ssrc" (.int s.ssrc.toNat)
  let j := j.set "ssrc_retx" (.int s.rtxSsrc.toNat)
  let j := j.set "dip" (.str (IPv4.str s.dst.ip))
  j.set "dport" (.int s.dst.port.toNat)

/-- `TofinoDataPlane::adjustDecodeTarget`; the target is not sent. -/
def adjustDecodeTarget (src dst : IPv4Port) (ssrc : SSRC) (_target : Nat) : Json :=
  let j := Json.null
  let j := j.set "api" (.str "disable_av1_enhancement_layer")
  let j := j.set "sip" (.str (IPv4.str src.ip))
  let j := j.set "sport" (.int src.port.toNat)
  let j := j.set "ssrc" (.int ssrc.toNat)
  let j := j.set "ssrc_retx" (.int 0)
  let j := j.set "dip" (.str (IPv4.str dst.ip))
  j.set "dport" (.int dst.port.toNat)

end TofinoDataPlane

inductive Quality where
  | base
  | mid
  | high
deriving DecidableEq, Repr

def Quality.name : Quality → String
  | base => "base"
  | mid => "mid"
  | high => "high"

/-- `ReceiveStream`, with what its messages say. -/
structure ReceiveStream where
  meetingId : Int
  sourceIp : String
  sourcePort : Int
  destIp : String
  destPort : Int
  ssrc : Int
  ssrcRtx : Int
  quality : Quality := .high
  egressPort : Int
deriving DecidableEq, Repr

def ReceiveStream.getApiMessage (r : ReceiveStream) (messageType : String) : Option Json :=
  match messageType with
  | "add_stream" => some (.obj [
      ("api", .str "add_stream"),
      ("mid", .int r.meetingId),
      ("sip", .str r.sourceIp), ("sport", .int r.sourcePort),
      ("ssrc", .int r.ssrc), ("ssrc_rtx", .int r.ssrcRtx),
      ("dip", .str r.destIp), ("dport", .int r.destPort),
      ("eport", .int r.egressPort)])
  | "remove_stream" => some (.obj [
      ("api", .str "remove_stream"),
      ("mid", .int r.meetingId),
      ("sip", .str r.sourceIp), ("sport", .int r.sourcePort),
      ("ssrc", .int r.ssrc), ("ssrc_rtx", .int r.ssrcRtx),
      ("dip", .str r.destIp), ("dport", .int r.destPort)])
  | "set_quality" => some (.obj [
      ("api", .str "set_quality"),
      ("mid", .int r.meetingId),
      ("sip", .str r.sourceIp), ("sport", .int r.sourcePort),
      ("ssrc", .int r.ssrc),
      ("dip", .str r.destIp), ("dport", .int r.destPort),
      ("quality", .str r.quality.name)])
  | _ => none

inductive Cause where
  | cxxAddStream (s : DataPlaneStream)
  | cxxAdjustDecodeTarget (src dst : IPv4Port) (ssrc : SSRC) (target : Nat)
  | pyAddStream (r : ReceiveStream)
  | pyRemoveStream (r : ReceiveStream)
  | pySetQuality (r : ReceiveStream)

def Cause.message : Cause → Option Json
  | cxxAddStream s => some (TofinoDataPlane.addStream s)
  | cxxAdjustDecodeTarget src dst ssrc target =>
      some (TofinoDataPlane.adjustDecodeTarget src dst ssrc target)
  | pyAddStream r => r.getApiMessage "add_stream"
  | pyRemoveStream r => r.getApiMessage "remove_stream"
  | pySetQuality r => r.getApiMessage "set_quality"

/-- The source, the destination and the SSRCs that a command is about. -/
structure Values where
  src : Endpoint
  dst : Endpoint
  ssrcs : List Int
deriving DecidableEq, Repr

def ReceiveStream.values (r : ReceiveStream) (ssrcs : List Int) : Values where
  src := (r.sourceIp, r.sourcePort)
  dst := (r.destIp, r.destPort)
  ssrcs := ssrcs

def endpoint (e : IPv4Port) : Endpoint := (IPv4.str e.ip, e.port.toNat)

def Cause.values : Cause → Values
  | cxxAddStream s => ⟨endpoint s.src, endpoint s.dst, [s.ssrc.toNat, s.rtxSsrc.toNat]⟩
  | cxxAdjustDecodeTarget src dst ssrc _ => ⟨endpoint src, endpoint dst, [ssrc.toNat]⟩
  | pyAddStream r => r.values [r.ssrc, r.ssrcRtx]
  | pyRemoveStream r => r.values [r.ssrc, r.ssrcRtx]
  | pySetQuality r => r.values [r.ssrc]

/-! ## The loop -/

/-- `api_message[k]`. -/
def key (msg : Json) (k : String) : Except PyError Json :=
  match msg with
  | .obj ms =>
      match Json.find k ms with
      | some x => .ok x
      | none => .error .keyError
  | _ => .error .typeError

/-- A string; no agent sends another value in its place. -/
def text : Json → Except PyError String
  | .str s => .ok s
  | _ => .error .typeError

/-- A number; no agent sends another value in its place. -/
def number : Json → Except PyError Int
  | .int n => .ok n
  | _ => .error .typeError

/-- What is called for a command, if anything. -/
inductive Call where
  | updateAv1SvcStructure (name : Json)
  | addStream (c : AddStream Int)
  | unknown

/-- The operations that the loop calls and that `PRE` does not have. -/
def missingOperations : List String :=
  ["remove_stream", "set_quality", "add_receive_report_forwarding_rule",
    "remove_receive_report_forwarding_rule", "add_nack_pli_forwarding_rule",
    "remove_nack_pli_forwarding_rule"]

/-- The arguments of `add_stream`. All keys are looked up before the call. -/
def addStreamArgs (msg : Json) : Except PyError (AddStream Int) := do
  let mid ← key msg "mid"
  let sip ← key msg "sip"
  let sport ← key msg "sport"
  let ssrc ← key msg "ssrc"
  let ssrcRtx ← key msg "ssrc_rtx"
  let dip ← key msg "dip"
  let dport ← key msg "dport"
  return {
    mid := ← number mid
    sip := ← text sip
    sport := ← number sport
    ssrc := ← number ssrc
    ssrcRtx := ← number ssrcRtx
    dip := ← text dip
    dport := ← number dport }

/-- The branches of `tofino_client_agent`. The operation is looked up before its arguments. -/
def dispatch (msg : Json) : Except PyError Call := do
  match ← key msg "api" with
  | .str "update_av1_svc_structure" => return .updateAv1SvcStructure (← key msg "structure")
  | .str "add_stream" => return .addStream (← addStreamArgs msg)
  | .str api => if api ∈ missingOperations then .error .attributeError else return .unknown
  | _ => return .unknown

/-- What is called; a list or an object is not looked for among the structures. -/
def Call.run : Call → Pre Int → Except PyError (Pre Int)
  | updateAv1SvcStructure (.str name), p => .ok (p.updateAv1SvcStructure name)
  | updateAv1SvcStructure (.arr _), _ => .error .typeError
  | updateAv1SvcStructure (.obj _), _ => .error .typeError
  | updateAv1SvcStructure _, p => .ok p
  | addStream c, p => p.addStream c
  | unknown, p => .ok p

/-- One command after the other; what is not sent is not received. -/
def receive : List Cause → Pre Int → Except PyError (Pre Int)
  | [], p => .ok p
  | cause :: causes, p => do
      match cause.message with
      | some msg => receive causes (← (← dispatch msg).run p)
      | none => receive causes p

def Call.values : Call → Option Values
  | addStream c => some ⟨c.src, c.dst, [c.ssrc, c.ssrcRtx]⟩
  | _ => none

def Found {α : Type} (x : Except PyError α) : Prop :=
  x ≠ .error .keyError ∧ x ≠ .error .attributeError

/-- The command is recognised, and invokes an operation with its own values. -/
def Served (p : Pre Int) (cause : Cause) : Prop :=
  ∃ msg call, cause.message = some msg ∧ dispatch msg = .ok call ∧
    call.values = some cause.values ∧ Found (call.run p)

/-! ## What is dispatched -/

/-- The call of `add_stream` that a receive stream asks for. -/
def ReceiveStream.command (r : ReceiveStream) : AddStream Int where
  mid := r.meetingId
  sip := r.sourceIp
  sport := r.sourcePort
  ssrc := r.ssrc
  ssrcRtx := r.ssrcRtx
  dip := r.destIp
  dport := r.destPort

section Dispatch
variable (r : ReceiveStream)

/-- There is no key `mid`, and `ssrc_rtx` is spelt differently. -/
theorem dispatch_cxxAddStream (s : DataPlaneStream) :
    dispatch (TofinoDataPlane.addStream s) = .error .keyError := rfl

theorem dispatch_cxxAdjustDecodeTarget (src dst : IPv4Port) (ssrc : SSRC) (target : Nat) :
    dispatch (TofinoDataPlane.adjustDecodeTarget src dst ssrc target) = .ok .unknown := rfl

theorem dispatch_pyAddStream :
    (r.getApiMessage "add_stream").map dispatch = some (.ok (.addStream r.command)) := rfl

theorem dispatch_pyRemoveStream :
    (r.getApiMessage "remove_stream").map dispatch = some (.error .attributeError) := rfl

theorem dispatch_pySetQuality :
    (r.getApiMessage "set_quality").map dispatch = some (.error .attributeError) := rfl

end Dispatch

/-- A command that is served is one of the Python agent for a new stream. -/
theorem Served.pyAddStream {p : Pre Int} {cause : Cause} (h : Served p cause) :
    ∃ r, cause = .pyAddStream r ∧ Found (p.addStream r.command) := by
  obtain ⟨msg, call, hmsg, hcall, hvalues, hfound⟩ := h
  have hdis : cause.message.map dispatch = some (.ok call) := by rw [hmsg, Option.map_some, hcall]
  cases cause with
  | cxxAddStream s =>
      have hkey := (congrArg some (dispatch_cxxAddStream s)).symm.trans hdis
      cases hkey
  | cxxAdjustDecodeTarget src dst ssrc target =>
      obtain rfl : Call.unknown = call := Except.ok.inj (Option.some.inj
        ((congrArg some (dispatch_cxxAdjustDecodeTarget src dst ssrc target)).symm.trans hdis))
      cases hvalues
  | pyAddStream r =>
      obtain rfl : Call.addStream r.command = call :=
        Except.ok.inj (Option.some.inj ((dispatch_pyAddStream r).symm.trans hdis))
      exact ⟨r, rfl, hfound⟩
  | pyRemoveStream r =>
      have hattr := (dispatch_pyRemoveStream r).symm.trans hdis
      cases hattr
  | pySetQuality r =>
      have hattr := (dispatch_pySetQuality r).symm.trans hdis
      cases hattr

/-! ## Failures of the switch -/

section OnlyRpc
variable {α β : Type} {κ τ : Type} [DecidableEq κ] [DecidableEq τ]

/-- If it fails, then because the switch refuses an entry. -/
def OnlyRpc (x : Except PyError α) : Prop := ∀ e, x = .error e → e = .rpcException

theorem onlyRpc_ok (a : α) : OnlyRpc (.ok a) := nofun

theorem OnlyRpc.bind {x : Except PyError α} {f : α → Except PyError β} (h : OnlyRpc x)
    (hf : ∀ a, OnlyRpc (f a)) : OnlyRpc (x >>= f) := by
  intro e he
  rcases Except.of_bind_error he with he | ⟨a, -, he⟩
  · exact h e he
  · exact hf a e he

theorem OnlyRpc.map {x : Except PyError α} (h : OnlyRpc x) (f : α → β) : OnlyRpc (x.map f) := by
  intro e he
  cases x with
  | error e' =>
      obtain rfl := Except.error.inj he
      exact h e' rfl
  | ok a => cases he

theorem OnlyRpc.found {x : Except PyError α} (h : OnlyRpc x) : Found x := by
  constructor
  · intro he
    cases h _ he
  · intro he
    cases h _ he

theorem onlyRpc_addEntry (table : UnorderedMap κ α) (k : κ) (a : α) :
    OnlyRpc (addEntry table k a) := by
  intro e he
  unfold addEntry at he
  split at he
  next => exact (Except.error.inj he).symm
  next => cases he

theorem onlyRpc_modEntry (table : UnorderedMap κ α) (k : κ) (a : α) :
    OnlyRpc (modEntry table k a) := by
  intro e he
  unfold modEntry at he
  split at he
  next => cases he
  next => exact (Except.error.inj he).symm

theorem onlyRpc_add {entry : τ → Except PyError (κ × α)} {x : τ} {e : κ × α}
    (h : entry x = .ok e) (r : Installed τ κ α) : OnlyRpc (r.add entry x) := by
  unfold Installed.add
  split
  next => exact onlyRpc_ok r
  next =>
    rw [h, Except.bind_ok]
    exact (onlyRpc_addEntry _ _ _).bind fun _ => onlyRpc_ok _

theorem onlyRpc_setGroup (mgid : Nat) (g : Group) (r : Installed (Nat × Group) Nat Group) :
    OnlyRpc (r.setGroup mgid g) := by
  unfold Installed.setGroup
  split
  next => exact (onlyRpc_addEntry _ _ _).map _
  next =>
    split
    next => exact (onlyRpc_modEntry _ _ _).map _
    next => exact onlyRpc_ok r

theorem onlyRpc_forEachSsrc {σ μ : Type} (c : AddStream μ) {f : Int → σ → Except PyError σ}
    (hf : ∀ ssrc s, OnlyRpc (f ssrc s)) (s : σ) : OnlyRpc (c.forEachSsrc f s) := by
  unfold AddStream.forEachSsrc
  refine (hf _ _).bind fun s' => ?_
  split
  next => exact hf _ _
  next => exact onlyRpc_ok s'

end OnlyRpc

section Rules
variable {cmds : List (AddStream Int)} {c : AddStream Int} {s : LocalState Int} {m : Mappings Int}
variable (hs : StateRight (cmds ++ [c]) s) (hm : MapsRight (cmds ++ [c]) m) (hc : c.Known)
include hs hm hc

/-- With its identifiers at hand, a stream can only be refused by the switch. -/
theorem onlyRpc_processRules (r : Rules) : OnlyRpc (processRules c s m r) := by
  have hknown {e : Endpoint} (he : e = c.src ∨ e = c.dst) : KnownIp e.1 := by
    rcases he with rfl | rfl
    · exact hc.1
    · exact hc.2
  have hnode (e : Endpoint) (he : e = c.src ∨ e = c.dst) (r : Rules) :
      OnlyRpc (addNode c.mid e s m r) := by
    have ho : Occurs (cmds ++ [c]) c.mid e := occurs_append.mpr (.inr ⟨rfl, he⟩)
    obtain ⟨p, hp⟩ := hknown he
    obtain ⟨nid, hnid⟩ := (hm.nodeid.has e).mpr ⟨_, ho⟩
    obtain ⟨rid, hrid⟩ := (hm.replicationid.has (c.mid, e)).mpr ho
    unfold addNode
    rw [item_ok hnid, Except.bind_ok, item_ok hrid, Except.bind_ok,
      item_ok ((hs.eports c.mid e p).mpr ⟨ho, hp⟩), Except.bind_ok]
    exact (onlyRpc_add (show NodeRule.entry ⟨nid, rid, p⟩ = .ok _ from rfl) _).bind fun _ =>
      onlyRpc_ok _
  have hmeets : Meets (cmds ++ [c]) c.mid := meets_append.mpr (.inr rfl)
  obtain ⟨p, hp⟩ := hc.1
  obtain ⟨g, hg⟩ := (hm.mgid.has c.mid).mpr hmeets
  obtain ⟨rid, hrid⟩ := (hm.replicationid.has (c.mid, c.src)).mpr occurs_src
  obtain ⟨rid', hrid'⟩ := (hm.replicationid.has (c.mid, c.dst)).mpr occurs_dst
  obtain ⟨es, hes⟩ := Option.isSome_iff_exists.mp ((hs.meetings c.mid).mpr hmeets)
  have hport := (hs.eports c.mid c.src p).mpr ⟨occurs_src, hp⟩
  have hl2 := (hm.l2exclusionid p p).mpr ⟨rfl, _, _, occurs_src, hp⟩
  have hpartOf : s.participantsOf c.mid = es := by
    unfold LocalState.participantsOf
    rw [hes]
    rfl
  obtain ⟨grp, hgrp, -⟩ := group_ok hm fun e he =>
    (hs.participants c.mid e).mp (hpartOf ▸ he)
  have hsender : OnlyRpc (addSender c s m r) := by
    unfold addSender
    rw [item_ok hg, Except.bind_ok, item_ok hrid, Except.bind_ok, item_ok hport, Except.bind_ok,
      item_ok hl2, Except.bind_ok]
    refine (onlyRpc_forEachSsrc c (fun ssrc r => ?_) _).bind fun _ => onlyRpc_ok _
    exact onlyRpc_add (SenderRule.entry_of_known hc.1) r
  have hgroup (r : Rules) : OnlyRpc (updateGroup c s m r) := by
    unfold updateGroup
    rw [item_ok hg, Except.bind_ok, item_ok hes, Except.bind_ok, hgrp, Except.bind_ok]
    exact (onlyRpc_setGroup g grp _).bind fun _ => onlyRpc_ok _
  have hprune (r : Rules) : OnlyRpc (addL2exclusionPort c s m r) := by
    unfold addL2exclusionPort
    rw [item_ok hport, Except.bind_ok, item_ok hl2, Except.bind_ok]
    exact (onlyRpc_add (show PruneRule.entry ⟨p, p⟩ = .ok _ from rfl) _).bind fun _ => onlyRpc_ok _
  have hroutes (r : Rules) : OnlyRpc (addIpv4Routes c m r) := by
    unfold addIpv4Routes
    rw [item_ok hrid', Except.bind_ok]
    refine (onlyRpc_forEachSsrc c (fun ssrc r => ?_) _).bind fun _ => onlyRpc_ok _
    exact onlyRpc_add (RouteRule.entry_of_known hc.1 hc.2) r
  unfold processRules
  exact hsender.bind fun r => (hnode c.src (.inl rfl) r).bind fun r =>
    (hnode c.dst (.inr rfl) r).bind fun r => (hgroup r).bind fun r => (hprune r).bind hroutes

end Rules

/-- The dictionaries of the class, after some streams were added. -/
structure Pre.Kept (cmds : List (AddStream Int)) (p : Pre Int) : Prop where
  state : StateRight cmds p.state
  maps : MapsRight cmds p.maps

theorem Pre.kept_init : Pre.Kept [] {} := ⟨stateRight_empty, mapsRight_empty⟩

section Step
variable {cmds : List (AddStream Int)} {c : AddStream Int} {p : Pre Int}

theorem Pre.Kept.addStream (h : p.Kept cmds) (hc : c.Known) (hw : Within (cmds ++ [c])) :
    OnlyRpc (p.addStream c) ∧ ∀ p', p.addStream c = .ok p' → p'.Kept (cmds ++ [c]) := by
  obtain ⟨s, hs, hstate⟩ := updateLocalState_ok h.state hc
  obtain ⟨m, hm, hmaps, -⟩ := updateMappings_ok h.maps hc hw
  have heq : p.addStream c =
      (processRules c s m p.rules).map fun rules => { p with state := s, maps := m, rules } := by
    unfold Pre.addStream
    rw [hs]
    dsimp only [Except.bind]
    rw [hm]
  rw [heq]
  refine ⟨(onlyRpc_processRules hstate hmaps hc p.rules).map _, fun p' hp' => ?_⟩
  cases hr : processRules c s m p.rules with
  | error e => rw [hr] at hp'; cases hp'
  | ok r =>
      rw [hr] at hp'
      obtain rfl := Except.ok.inj hp'
      exact ⟨hstate, hmaps⟩

/-- An address without an egress port is a missing key. -/
theorem Pre.Kept.not_found (h : p.Kept cmds) (hc : ¬ c.Known) : ¬ Found (p.addStream c) := by
  intro hfound
  apply hfound.1
  unfold Pre.addStream
  rw [updateLocalState_error h.state hc]
  rfl

end Step

/-! ## Runs -/

/-- A command for a new stream, between addresses that have egress ports. -/
def Cause.Fits : Cause → Prop
  | pyAddStream r => r.command.Known
  | _ => False

/-- The call of `add_stream` that a command asks for. -/
def Cause.command : Cause → Option (AddStream Int)
  | pyAddStream r => some r.command
  | _ => none

def commands (causes : List Cause) : List (AddStream Int) := causes.filterMap Cause.command

theorem commands_cons (r : ReceiveStream) (causes : List Cause) :
    commands (.pyAddStream r :: causes) = [r.command] ++ commands causes := rfl

theorem receive_cons (r : ReceiveStream) (causes : List Cause) (p : Pre Int) :
    receive (.pyAddStream r :: causes) p = p.addStream r.command >>= receive causes := rfl

theorem Cause.Fits.pyAddStream {cause : Cause} (h : cause.Fits) :
    ∃ r, cause = .pyAddStream r ∧ r.command.Known := by
  cases cause with
  | pyAddStream r => exact ⟨r, rfl, h⟩
  | _ => exact h.elim

section Receive
variable {done : List (AddStream Int)} {causes : List Cause} {cause : Cause} {p : Pre Int}

/-- What the commands of a run leave, unless the switch refuses one. -/
theorem Pre.Kept.receive (h : p.Kept done) (hfit : ∀ c ∈ causes, c.Fits)
    (hw : Within (done ++ commands causes)) : OnlyRpc (receive causes p) ∧
      ∀ p', receive causes p = .ok p' → p'.Kept (done ++ commands causes) := by
  induction causes generalizing done p with
  | nil =>
      refine ⟨onlyRpc_ok p, fun p' hp' => ?_⟩
      obtain rfl := Except.ok.inj hp'
      rwa [show done ++ commands [] = done from List.append_nil done]
  | cons cause causes ih =>
      obtain ⟨r, rfl, hr⟩ := (hfit _ List.mem_cons_self).pyAddStream
      rw [commands_cons, ← List.append_assoc] at hw ⊢
      obtain ⟨hrpc, hkept⟩ := h.addStream hr hw.of_append
      have hrest (p₁ : Pre Int) (hp₁ : p.addStream r.command = .ok p₁) :=
        ih (hkept p₁ hp₁) (fun c hc => hfit c (List.mem_cons_of_mem _ hc)) hw
      rw [receive_cons]
      constructor
      · intro e he
        rcases Except.of_bind_error he with he | ⟨p₁, hp₁, he⟩
        · exact hrpc e he
        · exact (hrest p₁ hp₁).1 e he
      · intro p' hp'
        obtain ⟨p₁, hp₁, hp'⟩ := Except.of_bind_ok hp'
        exact (hrest p₁ hp₁).2 p' hp'

theorem Pre.Kept.served (h : p.Kept done) (hfit : cause.Fits)
    (hw : Within (done ++ commands [cause])) : Served p cause := by
  obtain ⟨r, rfl, hr⟩ := hfit.pyAddStream
  exact ⟨_, _, rfl, rfl, rfl, (h.addStream hr hw).1.found⟩

theorem Pre.Kept.not_served (h : p.Kept done) (hfit : ¬ cause.Fits) : ¬ Served p cause := by
  intro hs
  obtain ⟨r, rfl, hfound⟩ := hs.pyAddStream
  exact h.not_found hfit hfound

end Receive

/-- While all commands ask for new streams between addresses that have egress ports, and there are
identifiers for their participants, every command is served and the loop does not end for a missing
key or attribute; the next other command is not served. -/
theorem receive_served (causes : List Cause) (hfit : ∀ cause ∈ causes, cause.Fits)
    (hw : Within (commands causes)) :
    Found (receive causes {}) ∧
      (∀ earlier cause later, causes = earlier ++ cause :: later →
        ∀ p, receive earlier {} = .ok p → Served p cause) ∧
      ∀ p cause, receive causes {} = .ok p → ¬ cause.Fits → ¬ Served p cause := by
  obtain ⟨hrpc, hkept⟩ := Pre.kept_init.receive hfit hw
  refine ⟨hrpc.found, ?_, fun p cause hp hnot => (hkept p hp).not_served hnot⟩
  rintro earlier cause later rfl p hp
  have hsplit : commands (earlier ++ cause :: later) =
      (commands earlier ++ commands [cause]) ++ commands later := by
    rw [List.append_cons]
    show List.filterMap _ _ = _
    rw [List.filterMap_append, List.filterMap_append]
    rfl
  rw [hsplit] at hw
  have hearlier := (Pre.kept_init.receive
    (fun c hc => hfit c (List.mem_append_left _ hc)) hw.of_append.of_append).2 p hp
  exact hearlier.served (hfit cause (List.mem_append_right _ List.mem_cons_self)) hw.of_append

/-- Two participants of a meeting send to each other. -/
def bothWays : List Cause :=
  [.pyAddStream { meetingId := 0, sourceIp := "10.0.211.1", sourcePort := 3000,
                  destIp := "10.0.211.2", destPort := 4000, ssrc := 1, ssrcRtx := 2,
                  egressPort := 2 },
   .pyAddStream { meetingId := 0, sourceIp := "10.0.211.2", sourcePort := 4000,
                  destIp := "10.0.211.1", destPort := 3000, ssrc := 3, ssrcRtx := 0,
                  egressPort := 3 }]

theorem receive_served_bothWays : Found (receive bothWays {}) := by
  have h₁ : KnownIp "10.0.211.1" := ⟨4, by decide +kernel⟩
  have h₂ : KnownIp "10.0.211.2" := ⟨44, by decide +kernel⟩
  refine (receive_served bothWays (fun cause hc => ?_) ⟨?_, ?_⟩).1
  · rcases List.mem_pair.mp hc with rfl | rfl
    · exact ⟨h₁, h₂⟩
    · exact ⟨h₂, h₁⟩
  · decide +kernel
  · decide +kernel

/-- A stream of one of these participants to the other one. -/
def cxxStream : DataPlaneStream where
  src := ⟨.ofNat 0x0a00d301, 3000⟩
  dst := ⟨.ofNat 0x0a00d302, 4000⟩
  ssrc := 1
  rtxSsrc := 2
  rtcpSsrc := 3
  rtcpRtxSsrc := 4

/-- The first stream that the other agent adds ends the loop. -/
theorem receive_cxxStream : ¬ Served {} (.cxxAddStream cxxStream) ∧
    receive [.cxxAddStream cxxStream] {} = .error .keyError := by
  refine ⟨fun h => ?_, rfl⟩
  obtain ⟨r, hr, -⟩ := h.pyAddStream
  cases hr

end Tofino

end Scallop
