import Scallop.SwitchAgent.Api
import Scallop.Web.ControllerWebServer

/-!
# The operators

`SwitchAPIClient` of `lib/switch_api_client.cc`, with the `WebSocketClient` that it reads from and any JSON library, and
what its commands come to at the agent.

* `runCLICommand` : the message that a command sends;
* `onMessage`, `receive` : the pieces of the answer, in a buffer of 16384 bytes;
* `receive_text` : an answer arrives, whatever the pieces are, just when it fits into the buffer;
* `AgentProcess.set_decode_target` : an operator who sets a decode target; `AgentProcess.show_streams` : an operator who
  looks at the streams.

An answer is taken to arrive in the bytes that `WebSocketSession::write` is given, of which it keeps no copy.
-/

namespace Scallop

open Machine Rpc

/-- The client; `rxBuf` is what `_rxBuf` holds up to `_rxBufLen`. -/
structure SwitchAPIClient where
  rxBuf : Buf := []
  isOpen : Bool := true
deriving DecidableEq, Repr

inductive Shown where
  | ok
  | error (msg : Json)
  | data (x : Json)
deriving Repr

namespace SwitchAPIClient

/-! ## Commands -/

/-- `std::stoi`, where the result becomes an `unsigned`. -/
def unsignedOfText (s : String) : Except Fault Nat :=
  match stoi s.toList with
  | some n => .ok (n % 2 ^ 32).toNat
  | none => .error (.invalidArgument "stoi")

/-- `std::stoul`, where the result becomes an `SSRC`. -/
def ssrcOfText (s : String) : Except Fault SSRC := (ControllerWebServer.stoul s).map UInt32.ofNat

def getStreams : Json := Json.null.set "type" (.str "get-streams")

def setDecodeTarget (r : DecodeTargetRequest) : Json :=
  (Json.null.set "type" (.str "set-decode-target")).set "args"
    ((((Json.null.set "session-id" (.int r.sessionId)).set "ssrc" (.int r.ssrc.toNat)).set
      "participant-id" (.int r.participantId)).set "decode-target" (.int r.decodeTarget))

def invalidCommand : Fault := .invalidArgument "invalid command"

/-- `runCLICommand`: the message that is sent. -/
def runCLICommand : List String → Except Fault Json
  | [] => .error .outOfBounds
  | cmd :: args =>
      if cmd = "show" ∨ cmd = "s" then
        match args with
        | [what] => if what = "streams" ∨ what = "str" then .ok getStreams else .error invalidCommand
        | _ => .error invalidCommand
      else if cmd = "set" then
        match args with
        | [what, sessionId, ssrc, participantId, decodeTarget] =>
            if what = "decode-target" ∨ what = "dt" then do
              let sessionId ← unsignedOfText sessionId
              let ssrc ← ssrcOfText ssrc
              let participantId ← unsignedOfText participantId
              let decodeTarget ← unsignedOfText decodeTarget
              return setDecodeTarget { sessionId, ssrc, participantId, decodeTarget }
            else .error invalidCommand
        | _ => .error invalidCommand
      else .error invalidCommand

/-! ## Answers -/

def parseMessage (lib : JsonLibrary) (buf : Buf) : Option Json :=
  (lib.parse buf).filter fun msg => (msg.field "type").isSome

def shown (msg : Json) : Shown :=
  if isString "ok" (msg.field "type") then .ok
  else if isString "error" (msg.field "type") then .error msg
  else .data ((msg.field "data").getD .null)

abbrev ClientEff := Eff SwitchAPIClient Shown Fault

/-- `_onMessage`. The copy into `_rxBuf` is not checked. -/
def onMessage (lib : JsonLibrary) (buf : Buf) : ClientEff Unit := do
  let c ← Eff.get
  Eff.require (c.rxBuf.length + buf.length ≤ 16384) .outOfBounds
  match parseMessage lib (c.rxBuf ++ buf) with
  | some msg => do
      Eff.emit (shown msg)
      Eff.set { rxBuf := [], isOpen := false }
  | none => Eff.set { c with rxBuf := c.rxBuf ++ buf }

/-- The reads of `WebSocketClient`, with what each of them gets; there are none after `close`. -/
def receive (lib : JsonLibrary) : List Buf → ClientEff Unit
  | [] => return ()
  | p :: ps => do
      onMessage lib p
      let c ← Eff.get
      if c.isOpen = true then receive lib ps else return ()

/-! ## Pieces -/

section Pieces
variable {lib : JsonLibrary} {buf : Buf} {msg : Json} {ps : List Buf}

theorem parseMessage_whole (h : lib.Restores msg) (htype : (msg.field "type").isSome) :
    parseMessage lib (lib.dump msg) = some msg := by
  unfold parseMessage
  rw [h.whole, Option.filter_some, if_pos htype]

/-- Nothing is read before the end of the text. -/
theorem parseMessage_proper {p rest : Buf} (h : lib.Restores msg) (ht : p ++ rest = lib.dump msg) (hrest : rest ≠ []) :
    parseMessage lib p = none := by
  unfold parseMessage
  rw [h.proper p rest ht hrest]
  rfl

theorem onMessage_fits {c : SwitchAPIClient} (h : c.rxBuf.length + buf.length ≤ 16384) : onMessage lib buf c =
    match parseMessage lib (c.rxBuf ++ buf) with
    | some msg => ⟨{ rxBuf := [], isOpen := false }, [shown msg], .ok ()⟩
    | none => ⟨{ c with rxBuf := c.rxBuf ++ buf }, [], .ok ()⟩ := by
  unfold onMessage
  rw [Eff.get_bind_run, Eff.require, if_pos h, Eff.pure_bind]
  cases parseMessage lib (c.rxBuf ++ buf) with
  | some msg => rfl
  | none => rfl

theorem onMessage_overflow {c : SwitchAPIClient} (h : ¬ c.rxBuf.length + buf.length ≤ 16384) :
    onMessage lib buf c = ⟨c, [], .error .outOfBounds⟩ := by
  unfold onMessage
  rw [Eff.get_bind_run, Eff.require, if_neg h]
  rfl

theorem receive_last {p : Buf} (hfits : buf.length + p.length ≤ 16384)
    (h : parseMessage lib (buf ++ p) = some msg) (ps : List Buf) :
    receive lib (p :: ps) { rxBuf := buf } = ⟨{ rxBuf := [], isOpen := false }, [shown msg], .ok ()⟩ := by
  have hrun := @onMessage_fits lib p { rxBuf := buf } hfits
  dsimp only at hrun
  rw [h] at hrun
  rw [receive, Eff.bind_of_ok hrun]
  rfl

theorem receive_more {p : Buf} (hfits : buf.length + p.length ≤ 16384) (h : parseMessage lib (buf ++ p) = none)
    (ps : List Buf) : receive lib (p :: ps) { rxBuf := buf } = receive lib ps { rxBuf := buf ++ p } := by
  have hrun := @onMessage_fits lib p { rxBuf := buf } hfits
  dsimp only at hrun
  rw [h] at hrun
  rw [receive, Eff.bind_of_ok hrun]
  rfl

/-- An answer that fits into the buffer is shown, whatever its pieces are. -/
theorem receive_text (h : lib.Restores msg) (htype : (msg.field "type").isSome) (hlen : (lib.dump msg).length ≤ 16384)
    (hps : ps.flatten ≠ []) (ht : buf ++ ps.flatten = lib.dump msg) :
    receive lib ps { rxBuf := buf } = ⟨{ rxBuf := [], isOpen := false }, [shown msg], .ok ()⟩ := by
  induction ps generalizing buf with
  | nil => exact absurd rfl hps
  | cons p ps ih =>
      rw [List.flatten_cons, ← List.append_assoc] at ht
      have hfits : buf.length + p.length ≤ 16384 := by
        rw [← ht, List.length_append, List.length_append] at hlen
        exact (Nat.le_add_right _ _).trans hlen
      by_cases hrest : ps.flatten = []
      · rw [hrest, List.append_nil] at ht
        refine receive_last hfits ?_ ps
        rw [ht]
        exact parseMessage_whole h htype
      · rw [receive_more hfits (parseMessage_proper h ht hrest)]
        exact ih hrest ht

/-- Another one is written past the end of the buffer before anything is shown. -/
theorem receive_overflow (h : lib.Restores msg) (hlen : 16384 < (lib.dump msg).length) (hbuf : buf.length ≤ 16384)
    (ht : buf ++ ps.flatten = lib.dump msg) :
    (receive lib ps { rxBuf := buf }).effects = [] ∧
      (receive lib ps { rxBuf := buf }).result = .error .outOfBounds := by
  induction ps generalizing buf with
  | nil =>
      rw [List.flatten_nil, List.append_nil] at ht
      rw [ht] at hbuf
      exact absurd hbuf (Nat.not_le.mpr hlen)
  | cons p ps ih =>
      rw [List.flatten_cons, ← List.append_assoc] at ht
      by_cases hfits : buf.length + p.length ≤ 16384
      · have hrest : ps.flatten ≠ [] := by
          intro hnil
          rw [hnil, List.append_nil] at ht
          rw [← ht, List.length_append] at hlen
          exact absurd hfits (Nat.not_le.mpr hlen)
        rw [receive_more hfits (parseMessage_proper h ht hrest)]
        refine ih ?_ ht
        rw [List.length_append]
        exact hfits
      · have hrun := @onMessage_overflow lib p { rxBuf := buf } hfits
        rw [receive, Eff.bind_of_error hrun]
        exact ⟨rfl, rfl⟩

end Pieces

/-! ## Numbers -/

section Numbers
variable {n : Nat}

theorem scan_toString (n : Nat) : Util.scan (toString n).toList = some (false, n) := by
  have hsign : [] ∈ Util.signs false := List.mem_cons_of_mem _ List.mem_cons_self
  refine Util.scan_of_spells hsign ⟨[], (toString n).toList, [], ?_, List.forall_mem_nil _, ?_, ?_, Regex.stops_nil, ?_⟩
  · rw [List.append_nil, List.nil_append, List.nil_append]
  · rw [Sdp.toList_toString]
    exact Nat.toDigits_ne_nil
  · exact (Sdp.over_toString n).2
  · rw [Sdp.toList_toString, Nat.ofDigitChars_ten_toDigits]

theorem unsignedOfText_toString (h : n < 2 ^ 31) : unsignedOfText (toString n) = .ok n := by
  have hrange : -2 ^ 31 ≤ (n : Int) ∧ (n : Int) < 2 ^ 31 := by omega
  have hstoi : stoi (toString n).toList = some (n : Int) := by
    rw [Util.stoi_eq, scan_toString]
    show (some (n : Int)).filter _ = _
    rw [Option.filter_some, if_pos (decide_eq_true hrange)]
  have hmod : ((n : Int) % 2 ^ 32).toNat = n := by omega
  unfold unsignedOfText
  rw [hstoi]
  show Except.ok ((n : Int) % 2 ^ 32).toNat = _
  rw [hmod]

theorem ssrcOfText_toString (ssrc : SSRC) : ssrcOfText (toString ssrc.toNat) = .ok ssrc := by
  have hlt : ssrc.toNat < 2 ^ 64 := Nat.lt_trans ssrc.toNat_lt (by decide)
  unfold ssrcOfText ControllerWebServer.stoul
  rw [scan_toString]
  dsimp only
  rw [if_pos hlt, if_neg Bool.false_ne_true]
  show Except.ok (UInt32.ofNat ssrc.toNat) = _
  rw [UInt32.ofNat_toNat]

end Numbers

/-- The command of an operator who sets a decode target. -/
theorem runCLICommand_set {r : DecodeTargetRequest} (hs : r.sessionId < 2 ^ 31) (hp : r.participantId < 2 ^ 31)
    (hd : r.decodeTarget < 2 ^ 31) : runCLICommand ["set", "decode-target", toString r.sessionId,
      toString r.ssrc.toNat, toString r.participantId, toString r.decodeTarget] = .ok (setDecodeTarget r) := by
  rw [runCLICommand, if_neg (by decide), if_pos rfl, if_pos (.inl rfl), unsignedOfText_toString hs, Except.bind_ok,
    ssrcOfText_toString, Except.bind_ok, unsignedOfText_toString hp, Except.bind_ok, unsignedOfText_toString hd,
    Except.bind_ok]
  rfl

/-- The agent reads the request as it was made. -/
theorem request_setDecodeTarget {lib : JsonLibrary} {r : DecodeTargetRequest}
    (hlib : lib.parse (lib.dump (setDecodeTarget r)) = some (setDecodeTarget r)) (hs : r.sessionId < 2 ^ 32)
    (hp : r.participantId < 2 ^ 32) (hd : r.decodeTarget < 2 ^ 32) :
    SwitchAPI.request lib (lib.dump (setDecodeTarget r)) = some (.ok r) := by
  have hargs : ((setDecodeTarget r).field "args").getD .null = .obj [("decode-target", .int r.decodeTarget),
      ("participant-id", .int r.participantId), ("session-id", .int r.sessionId), ("ssrc", .int r.ssrc.toNat)] := rfl
  have hnumber : ∀ {key : String} {args : Json} {n : Nat}, n < 2 ^ 32 → SwitchAPI.element key args = .ok (.int n) →
      SwitchAPI.argument key args = .ok n := by
    intro key args n hn helement
    unfold SwitchAPI.argument
    rw [helement, Except.bind_ok]
    exact getUnsigned_int hn
  rw [SwitchAPI.request_of_type hlib rfl, hargs]
  unfold SwitchAPI.setDecodeTargetArgs
  rw [hnumber hs rfl, Except.bind_ok, hnumber r.ssrc.toNat_lt rfl, Except.bind_ok, hnumber hp rfl, Except.bind_ok,
    hnumber hd rfl, Except.bind_ok, UInt32.ofNat_toNat]
  rfl

end SwitchAPIClient

/-! ## Requests -/

/-- A receiver of video among the messages, with its sender. -/
structure Rpc.Watches (log : List AddStream) (r : DecodeTargetRequest) (a : AgentStream) (q : Reception) : Prop where
  sent : a ∈ Rpc.sent log
  received : q ∈ Rpc.received log
  sender : a.sessionId = r.sessionId ∧ a.ssrc = r.ssrc
  receiver : q.sessionId = r.sessionId ∧ q.ssrc = r.ssrc ∧ q.participantId = r.participantId
  video : a.type = .video ∧ q.rtx = false

namespace Switch

section Requests
variable {o : WalkOrder} {sw : Switch} {log : List AddStream} {r : DecodeTargetRequest}
variable {a : AgentStream} {q : Reception} {target : Av1.DecodeTarget}

theorem setDecodeTarget_of_watches (h : sw.Inv) (hserves : sw.Serves log) (hw : Rpc.Watches log r a q)
    (hn : Av1.decodeTargetFromNumIdentifier r.decodeTarget = .ok target) :
    ∃ sw', onAPISetDecodeTarget o r.sessionId r.ssrc r.participantId r.decodeTarget sw =
        ⟨sw', [.response true], .ok ()⟩ ∧
      sw'.dataPlane.inForce ⟨a.addr, a.ssrc⟩ q.addr = some target := by
  obtain ⟨sid, hsid⟩ := hserves.stores.exists_sender.mpr hw.sent
  obtain ⟨id, rs, hrs, rfl⟩ := hserves.stores.exists_receiver.mpr hw.received
  obtain ⟨s, hs, hsSession, hsSsrc, hsType⟩ := h.ok.sender id rs hrs
  have hsession : s.sessionId = a.sessionId := hsSession.trans (hw.receiver.1.trans hw.sender.1.symm)
  have hssrc : s.ssrc = a.ssrc := hsSsrc.trans (hw.receiver.2.1.trans hw.sender.2.symm)
  obtain ⟨haddr, htype⟩ := h.ok.sameSender _ s sid a hs hsid hsession hssrc
  have hadj : rs.Adjustable := ⟨hsType.symm.trans (htype.trans hw.video.1), hw.video.2⟩
  have hfound := h.ok.getReceiveStream hrs hadj o
  rw [show rs.sessionId = r.sessionId from hw.receiver.1, show rs.ssrc = r.ssrc from hw.receiver.2.1,
    show rs.receivingParticipant = r.participantId from hw.receiver.2.2] at hfound
  obtain ⟨sid', ss, hss⟩ := SwitchAgentState.getSendStream_of_sender hs o
  rw [hsSession, hsSsrc, show rs.sessionId = r.sessionId from hw.receiver.1] at hss
  have hrun := adjustDecodeTarget_of_found hfound hss hadj hn
  obtain ⟨s', hflow, hs'addr, hs'ssrc⟩ := h.flow_of_found hfound hss hadj
  obtain rfl : s' = s := Option.some.inj (hflow.sender.symm.trans hs)
  have hforce : (sw.dataPlane.adjustDecodeTarget ss.addr rs.addr ss.ssrc r.decodeTarget).inForce
      ⟨a.addr, a.ssrc⟩ rs.addr = some target := by
    rw [← haddr, ← hssrc, hs'addr, hs'ssrc]
    refine DataPlaneModel.inForce_adjust_self hn ?_
    rw [← hs'addr, ← hs'ssrc, h.agree.flow hflow]
    rfl
  refine ⟨{ agent := sw.agent.setReceiveStream id { rs with decodeTarget := target }
            dataPlane := sw.dataPlane.adjustDecodeTarget ss.addr rs.addr ss.ssrc r.decodeTarget }, ?_, hforce⟩
  unfold onAPISetDecodeTarget
  rw [Eff.bind_of_ok hrun]
  rfl

/-- The request is refused: nobody watches, or there is no such target. -/
theorem setDecodeTarget_of_not_watches (h : sw.Inv) (hserves : sw.Serves log)
    (hno : ¬ (r.decodeTarget ≤ Av1.maxIdent ∧ ∃ a q, Rpc.Watches log r a q)) :
    onAPISetDecodeTarget o r.sessionId r.ssrc r.participantId r.decodeTarget sw = ⟨sw, [.response false], .ok ()⟩ := by
  rcases adjustDecodeTarget_cases o sw r.sessionId r.ssrc r.participantId r.decodeTarget with hrun | hyes
  · unfold onAPISetDecodeTarget
    rw [Eff.bind_of_ok hrun]
    rfl
  · obtain ⟨id, rs, sid, ss, target, hr, hs, hadj, hn, -⟩ := hyes
    obtain ⟨hrs, hsession, hssrc, hparticipant⟩ := SwitchAgentState.receiver_of_getReceiveStream hr
    obtain ⟨s, hsender, hsSession, hsSsrc, hsType⟩ := h.ok.sender id rs hrs
    refine absurd ⟨Nat.not_lt.mp (Av1.not_gt_of_decodeTarget hn), s, rs.reception, ?_⟩ hno
    exact {
      sent := hserves.stores.exists_sender.mp ⟨_, hsender⟩
      received := hserves.stores.exists_receiver.mp ⟨id, rs, hrs, rfl⟩
      sender := ⟨hsSession.trans hsession, hsSsrc.trans hssrc⟩
      receiver := ⟨hsession, hssrc, hparticipant⟩
      video := ⟨hsType.trans hadj.1, hadj.2⟩ }

end Requests

end Switch

/-! ## Operators -/

namespace SwitchAPIClient

/-- What is asked of the library when a decode target is set: the request and the answers are read as they were written,
and the answers are short. -/
structure Conveys (lib : JsonLibrary) (r : DecodeTargetRequest) : Prop where
  request : lib.parse (lib.dump (setDecodeTarget r)) = some (setDecodeTarget r)
  answer : ∀ ok, lib.Restores (SwitchAPI.setDecodeTargetJson ok)
  short : ∀ ok, (lib.dump (SwitchAPI.setDecodeTargetJson ok)).length ≤ 16384

/-- An operator who gets the bytes in whatever pieces is shown this. -/
def Shows (lib : JsonLibrary) (reply : Buf) (x : Shown) : Prop :=
  ∀ ps : List Buf, ps.flatten = reply → receive lib ps {} = ⟨{ rxBuf := [], isOpen := false }, [x], .ok ()⟩

/-- The bytes do not fit into the buffer of the client, and nothing is shown. -/
def Overflows (lib : JsonLibrary) (reply : Buf) : Prop := ∀ ps : List Buf, ps.flatten = reply →
  (receive lib ps {}).effects = [] ∧ (receive lib ps {}).result = .error .outOfBounds

section Operators
variable {lib : JsonLibrary} {msg : Json}

theorem shows_of_fits (h : lib.Restores msg) (htype : (msg.field "type").isSome)
    (hlen : (lib.dump msg).length ≤ 16384) : Shows lib (lib.dump msg) (shown msg) := by
  intro ps hps
  refine receive_text h htype hlen ?_ hps
  rw [hps]
  exact h.nonempty

theorem overflows_of_not_fits (h : lib.Restores msg) (hlen : ¬ (lib.dump msg).length ≤ 16384) :
    Overflows lib (lib.dump msg) := fun _ hps => receive_overflow h (Nat.not_le.mp hlen) (Nat.zero_le _) hps

end Operators

end SwitchAPIClient

namespace AgentProcess

open SwitchAPIClient

section Operators
variable {lib : JsonLibrary} {av1RtpExt : Nat} {xs : List (WalkOrder × AgentEvent)}

theorem final_eq_switch (hrun : (final (step lib) (SwitchProcess.init av1RtpExt) xs).running = true) :
    final (step lib) (SwitchProcess.init av1RtpExt) xs =
      final SwitchProcess.step (SwitchProcess.init av1RtpExt) (switchEvents lib xs) :=
  (refines_switch (none_ends hrun) _).1

/-- The messages of the controller in a run. -/
def messages (lib : JsonLibrary) (xs : List (WalkOrder × AgentEvent)) : List Rpc.AddStream :=
  SwitchProcess.messages (switchEvents lib xs)

theorem switch_of_run (h : Rpc.Acceptable (messages lib xs))
    (hrun : (final (step lib) (SwitchProcess.init av1RtpExt) xs).running = true) :
    (final (step lib) (SwitchProcess.init av1RtpExt) xs).switch.Tidy (messages lib xs) := by
  have hsame := final_eq_switch hrun
  rw [hsame] at hrun ⊢
  exact SwitchProcess.final_tidy av1RtpExt (switchEvents lib xs) h hrun

theorem inv_of_run
    (hok : Along SwitchProcess.StepOk SwitchProcess.step (SwitchProcess.init av1RtpExt) (switchEvents lib xs))
    (hrun : (final (step lib) (SwitchProcess.init av1RtpExt) xs).running = true) :
    (final (step lib) (SwitchProcess.init av1RtpExt) xs).switch.Inv := by
  have hsame := final_eq_switch hrun
  rw [hsame] at hrun ⊢
  exact SwitchProcess.final_inv av1RtpExt hok hrun

/-- A request for a decode target, and its answer. -/
theorem step_request {p : SwitchProcess} {o : WalkOrder} {buf : Buf} {r : DecodeTargetRequest} {sw : Switch}
    {ok : Bool} (hp : p.running = true) (hrequest : SwitchAPI.request lib buf = some (.ok r))
    (hrun : Switch.onAPISetDecodeTarget o r.sessionId r.ssrc r.participantId r.decodeTarget p.switch =
      ⟨sw, [.response ok], .ok ()⟩) :
    step lib p (o, .api buf) = (⟨sw, true⟩, [.write (lib.dump (SwitchAPI.setDecodeTargetJson ok))]) := by
  rw [step_of_running hp]
  have hhandle : (AgentEvent.api buf).handle lib o p.switch =
      ⟨sw, [.write (lib.dump (SwitchAPI.setDecodeTargetJson ok))], .ok ()⟩ := by
    show SwitchAPI.onMessage lib o buf p.switch = _
    rw [SwitchAPI.onMessage_of_ok hrequest]
    unfold AgentEff.ofSwitch Eff.mapError Eff.zoom
    dsimp only [id]
    rw [hrun]
    rfl
  rw [hhandle]
  rfl

theorem step_report {o : WalkOrder} {p : SwitchProcess} (hlib : lib.parse (lib.dump getStreams) = some getStreams)
    (hp : p.running = true) : step lib p (o, .api (lib.dump getStreams)) =
      (p, [.write (lib.dump (SwitchAgentState.streamsJson o p.switch.agent))]) := by
  have hread : SwitchAPI.readMessage lib (lib.dump getStreams) = some getStreams :=
    SwitchAPI.readMessage_eq_some.mpr ⟨hlib, by decide⟩
  have hrequest : SwitchAPI.request lib (lib.dump getStreams) = none := by
    unfold SwitchAPI.request
    rw [SwitchAPI.parseMessage_of_read hread]
    rfl
  have hhandle : (AgentEvent.api (lib.dump getStreams)).handle lib o p.switch =
      ⟨p.switch, [.write (lib.dump (SwitchAgentState.streamsJson o p.switch.agent))], .ok ()⟩ := by
    show SwitchAPI.onMessage lib o (lib.dump getStreams) p.switch = _
    rw [SwitchAPI.onMessage_of_none hrequest, hread, if_neg (Option.some_ne_none _)]
  have hsame : p = ⟨p.switch, true⟩ := by rw [← hp]
  rw [step_of_running hp, hhandle]
  exact congrArg (·, _) hsame.symm

theorem shows_response {r : DecodeTargetRequest} (h : Conveys lib r) (ok : Bool) :
    Shows lib (lib.dump (SwitchAPI.setDecodeTargetJson ok))
      (if ok then .ok else .error (SwitchAPI.setDecodeTargetJson false)) := by
  cases ok with
  | true => exact shows_of_fits (h.answer true) rfl (h.short true)
  | false => exact shows_of_fits (h.answer false) rfl (h.short false)

theorem ident_of_decodeTarget {n : Nat} {target : Av1.DecodeTarget}
    (h : Av1.decodeTargetFromNumIdentifier n = .ok target) : target.ident = n := by
  rcases n with _ | _ | _ | n
  · rw [← Except.ok.inj h]; rfl
  · rw [← Except.ok.inj h]; rfl
  · rw [← Except.ok.inj h]; rfl
  · cases h

/-- **Setting a decode target.** After every run of the agent with acceptable messages that meets the condition for
decode targets, with a library that carries the request: an operator's command, whatever pieces its answer comes in,
shows `ok` just when there is such a target and somebody watches the stream, and the target is then in force for whoever
watches; otherwise it shows an error, and nothing has changed. -/
theorem set_decode_target (lib : JsonLibrary) (av1RtpExt : Nat) (xs : List (WalkOrder × AgentEvent)) (o : WalkOrder)
    (r : DecodeTargetRequest) (hlib : Conveys lib r) (h : Rpc.Acceptable (messages lib xs))
    (hrun : (final (step lib) (SwitchProcess.init av1RtpExt) xs).running = true)
    (hok : Along SwitchProcess.StepOk SwitchProcess.step (SwitchProcess.init av1RtpExt) (switchEvents lib xs))
    (hsession : r.sessionId < 2 ^ 31) (hparticipant : r.participantId < 2 ^ 31) (htarget : r.decodeTarget < 2 ^ 31) :
    let p := final (step lib) (SwitchProcess.init av1RtpExt) xs
    ∃ msg reply, runCLICommand ["set", "decode-target", toString r.sessionId, toString r.ssrc.toNat,
        toString r.participantId, toString r.decodeTarget] = .ok msg ∧
      let next := step lib p (o, .api (lib.dump msg))
      next.2 = [.write reply] ∧ next.1.running = true ∧
      ((r.decodeTarget ≤ Av1.maxIdent ∧ ∃ a q, Rpc.Watches (messages lib xs) r a q) → Shows lib reply .ok ∧
        ∀ a q, Rpc.Watches (messages lib xs) r a q → ∃ target : Av1.DecodeTarget, target.ident = r.decodeTarget ∧
          next.1.switch.dataPlane.inForce ⟨a.addr, a.ssrc⟩ q.addr = some target) ∧
      (¬ (r.decodeTarget ≤ Av1.maxIdent ∧ ∃ a q, Rpc.Watches (messages lib xs) r a q) →
        Shows lib reply (.error (SwitchAPI.setDecodeTargetJson false)) ∧ next.1 = p) := by
  intro p
  have hswitch := switch_of_run h hrun
  have hinv := inv_of_run hok hrun
  have hp : p.running = true := hrun
  have hrequest := request_setDecodeTarget hlib.request (hsession.trans (by decide))
    (hparticipant.trans (by decide)) (htarget.trans (by decide))
  have hcommand := runCLICommand_set hsession hparticipant htarget
  change p.switch.Tidy _ at hswitch
  change p.switch.Inv at hinv
  generalize p = p at hswitch hinv hp ⊢
  refine ⟨setDecodeTarget r, ?_⟩
  by_cases hyes : r.decodeTarget ≤ Av1.maxIdent ∧ ∃ a q, Rpc.Watches (messages lib xs) r a q
  · obtain ⟨target, hn⟩ := Av1.decodeTargetFromNumIdentifier_of_le (Nat.not_lt.mpr hyes.1)
    obtain ⟨a₀, q₀, hw₀⟩ := hyes.2
    obtain ⟨sw', hsw', -⟩ := Switch.setDecodeTarget_of_watches hinv hswitch.serves hw₀ hn
    refine ⟨lib.dump (SwitchAPI.setDecodeTargetJson true), hcommand, ?_⟩
    rw [step_request hp hrequest hsw']
    refine ⟨rfl, rfl, fun _ => ⟨shows_response hlib true, fun a q hw => ?_⟩, fun hno => absurd hyes hno⟩
    obtain ⟨sw'', hsw'', hforce⟩ := Switch.setDecodeTarget_of_watches hinv hswitch.serves hw hn
    have hsame : sw'' = sw' := congrArg Outcome.state (hsw''.symm.trans hsw')
    rw [hsame] at hforce
    exact ⟨target, ident_of_decodeTarget hn, hforce⟩
  · have hsame := Switch.setDecodeTarget_of_not_watches (o := o) hinv hswitch.serves hyes
    refine ⟨lib.dump (SwitchAPI.setDecodeTargetJson false), hcommand, ?_⟩
    rw [step_request hp hrequest hsame]
    refine ⟨rfl, rfl, fun hno => absurd hno hyes, fun _ => ⟨shows_response hlib false, ?_⟩⟩
    rw [← hp]

/-- **Looking at the streams.** After every run of the agent with acceptable messages, with a library that reads the
command: it is answered with the streams of the messages, each once, the receive streams under their send streams and,
after runs that meet the condition for decode targets, with the targets in force; nothing has changed. If the answer is
read as it was written, the operator, whatever pieces its bytes come in, is shown it just when it has no more than 16384
bytes; a longer one is written past the end of the buffer. -/
theorem show_streams (lib : JsonLibrary) (av1RtpExt : Nat) (xs : List (WalkOrder × AgentEvent)) (o : WalkOrder)
    (hlib : lib.parse (lib.dump getStreams) = some getStreams) (h : Rpc.Acceptable (messages lib xs))
    (hrun : (final (step lib) (SwitchProcess.init av1RtpExt) xs).running = true) :
    let p := final (step lib) (SwitchProcess.init av1RtpExt) xs
    ∃ entries, SwitchAgentState.Lists (Rpc.sent (messages lib xs)) (Rpc.received (messages lib xs)) entries ∧
      (Along SwitchProcess.StepOk SwitchProcess.step (SwitchProcess.init av1RtpExt) (switchEvents lib xs) →
        ∀ e ∈ entries, ∀ r ∈ e.2, r.Adjustable →
          p.switch.dataPlane.inForce ⟨e.1.addr, e.1.ssrc⟩ r.addr = some r.decodeTarget) ∧
      let streams := entries.map fun e =>
        SwitchAgentState.sendStreamJson e.1 (e.2.map (SwitchAgentState.receiverJson e.1))
      let reply := lib.dump (SwitchAgentState.answerJson streams)
      ∃ msg, runCLICommand ["show", "streams"] = .ok msg ∧ step lib p (o, .api (lib.dump msg)) = (p, [.write reply]) ∧
        (lib.Restores (SwitchAgentState.answerJson streams) →
          (reply.length ≤ 16384 → Shows lib reply (.data (Json.null.set "streams" (.arr streams)))) ∧
          (¬ reply.length ≤ 16384 → Overflows lib reply)) := by
  intro p
  have hswitch := switch_of_run h hrun
  have hp : p.running = true := hrun
  have hlists := @SwitchAgentState.listing_lists o _ _ _ hswitch.serves.stores hswitch.linked
  refine ⟨_, hlists, fun hok => hswitch.listing_inForce (inv_of_run hok hrun), ?_⟩
  change p.switch.Tidy _ at hswitch
  have hreport := @step_report lib o p hlib hp
  rw [SwitchAgentState.streamsJson_eq] at hreport
  exact ⟨getStreams, rfl, hreport, fun hanswer => ⟨shows_of_fits hanswer rfl, overflows_of_not_fits hanswer⟩⟩

end Operators

/-! ## An operator -/

section Example
open SwitchProcess (exampleSend exampleReceive exampleEstimate)

/-- A sender of video, its receiver and an estimate. -/
def operatorRun : List (WalkOrder × AgentEvent) :=
  [(default, .addStream (exampleSend .video)), (default, .addStream (exampleReceive .video)),
    (default, .packet false ⟨2, 2⟩ (exampleEstimate 0x0e 0xdc 0x6c))]

theorem acceptable_operatorRun : Rpc.Acceptable (messages .plain operatorRun) := by
  have hsend : Rpc.Fits [] (exampleSend .video) := ⟨by decide, by decide, by decide⟩
  have hreceive : Rpc.Fits [exampleSend .video] (exampleReceive .video) := ⟨by decide, by decide, by decide⟩
  exact (Rpc.Acceptable.nil.concat hsend).concat hreceive

theorem conveys_plain (r : DecodeTargetRequest) : Conveys .plain r where
  request := JsonLibrary.plain_whole _
  answer ok := by
    cases ok with
    | true => exact JsonLibrary.plain_restores _
    | false => exact JsonLibrary.plain_restores _
  short := by decide

theorem watches_operatorRun : ∃ a q, Rpc.Watches (messages .plain operatorRun) ⟨1, 5, 2, 0⟩ a q := by
  have hsent : Rpc.sent (messages .plain operatorRun) = [_] := rfl
  have hreceived : Rpc.received (messages .plain operatorRun) = [_] := rfl
  exact ⟨_, _, {
    sent := hsent ▸ List.mem_singleton_self _
    received := hreceived ▸ List.mem_singleton_self _
    sender := by decide
    receiver := by decide
    video := by decide }⟩

theorem set_decode_target_video :
    let p := final (step .plain) (SwitchProcess.init 1) operatorRun
    let r : DecodeTargetRequest := ⟨1, 5, 2, 0⟩
    ∃ msg reply, runCLICommand ["set", "decode-target", toString r.sessionId, toString r.ssrc.toNat,
        toString r.participantId, toString r.decodeTarget] = .ok msg ∧
      let next := step .plain p (default, .api (JsonLibrary.plain.dump msg))
      next.2 = [.write reply] ∧ next.1.running = true ∧ Shows .plain reply .ok ∧
      ∀ a q, Rpc.Watches (messages .plain operatorRun) r a q → ∃ target : Av1.DecodeTarget,
        target.ident = r.decodeTarget ∧ next.1.switch.dataPlane.inForce ⟨a.addr, a.ssrc⟩ q.addr = some target := by
  obtain ⟨msg, reply, hcommand, hreply, hrunning, hyes, -⟩ :=
    set_decode_target .plain 1 operatorRun default ⟨1, 5, 2, 0⟩ (conveys_plain _) acceptable_operatorRun
      (by decide) (by decide) (by decide) (by decide) (by decide)
  obtain ⟨hshows, hforce⟩ := hyes ⟨by decide, watches_operatorRun⟩
  exact ⟨msg, reply, hcommand, hreply, hrunning, hshows, hforce⟩

theorem show_streams_video :
    let p := final (step .plain) (SwitchProcess.init 1) operatorRun
    ∃ entries, SwitchAgentState.Lists (Rpc.sent (messages .plain operatorRun))
        (Rpc.received (messages .plain operatorRun)) entries ∧
      (∀ e ∈ entries, ∀ r ∈ e.2, r.Adjustable →
        p.switch.dataPlane.inForce ⟨e.1.addr, e.1.ssrc⟩ r.addr = some r.decodeTarget) ∧
      let streams := entries.map fun e =>
        SwitchAgentState.sendStreamJson e.1 (e.2.map (SwitchAgentState.receiverJson e.1))
      let reply := JsonLibrary.plain.dump (SwitchAgentState.answerJson streams)
      ∃ msg, runCLICommand ["show", "streams"] = .ok msg ∧
        step .plain p (default, .api (JsonLibrary.plain.dump msg)) = (p, [.write reply]) ∧
        (reply.length ≤ 16384 → Shows .plain reply (.data (Json.null.set "streams" (.arr streams)))) ∧
        (¬ reply.length ≤ 16384 → Overflows .plain reply) := by
  obtain ⟨entries, hlists, hforce, msg, hcommand, hstep, hreply⟩ :=
    show_streams .plain 1 operatorRun default (JsonLibrary.plain_whole _) acceptable_operatorRun (by decide)
  obtain ⟨hshows, hoverflows⟩ := hreply (JsonLibrary.plain_restores _)
  exact ⟨entries, hlists, hforce (by decide), msg, hcommand, hstep, hshows, hoverflows⟩

end Example

end AgentProcess

end Scallop
