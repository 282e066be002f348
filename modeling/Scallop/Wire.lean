import Scallop.Lib.Except
import Scallop.Lib.JsonBytes
import Scallop.Net
import Scallop.Rpc

/-!
# Messages on the wire

The messages of `lib/rpc.h`, with the serialisers and constructors of `lib/rpc.cc`.

* `getUnsigned`, `getString` : what `nlohmann::json` converts to, or its exception;
* `toJson`, `ofJson` of each type of message : `to_json` and the constructor;
* `Message.ofJson_toJson` : what is written is read back, but for an offer or an answer whose
  participant has id 0; `Message.survives_iff` : and so are the texts, if the JSON library reads what it writes.
-/

namespace Scallop

namespace Rpc

/-- The exceptions of the constructors: their own, and those of `nlohmann::json`. -/
inductive WireError where
  | fault (e : Fault)
  | typeError (what : String)
deriving DecidableEq, Repr

/-! ## Conversions -/

def typeName : Json → String
  | .null => "null"
  | .bool _ => "boolean"
  | .int _ => "number"
  | .dec _ _ => "number"
  | .str _ => "string"
  | .arr _ => "array"
  | .obj _ => "object"

/-- The exception of a value that has the wrong type. -/
def mustBe (type : String) (x : Json) : WireError :=
  .typeError ("[json.exception.type_error.302] type must be " ++ type ++ ", but is " ++ typeName x)

/-- What an arithmetic type is converted from; fractions are cut off. -/
def getInt : Json → Except WireError Int
  | .int n => .ok n
  | .dec m e => .ok (if 0 ≤ e then m * 10 ^ e.toNat else m.tdiv (10 ^ (-e).toNat))
  | .bool b => .ok (if b then 1 else 0)
  | x => .error (mustBe "number" x)

def getUnsigned (x : Json) : Except WireError Nat := (getInt x).map fun n => (n % 2 ^ 32).toNat

/-- `get<std::uint32_t>`. -/
def getSSRC (x : Json) : Except WireError SSRC := (getUnsigned x).map UInt32.ofNat

/-- `get<std::uint16_t>`. -/
def getPort (x : Json) : Except WireError UInt16 :=
  (getInt x).map fun n => UInt16.ofNat (n % 2 ^ 16).toNat

/-- `get<std::string>`. -/
def getString : Json → Except WireError String
  | .str s => .ok s
  | x => .error (mustBe "string" x)

/-- `net::IPv4{std::string{..}}`. -/
def getIPv4 (x : Json) : Except WireError UInt32 := do
  let s ← getString x
  match IPv4.ofString s with
  | .ok ip => return ip
  | .error e => throw (.fault e)

def isString (s : String) : Option Json → Bool
  | some (.str t) => t = s
  | _ => false

def failed (what : String) : WireError := .fault (.runtimeError what)

/-- The member that a constructor cannot do without. -/
def required (what key : String) (x : Json) : Except WireError Json :=
  match x.field key with
  | some y => .ok y
  | none => .error (failed what)

/-- The check that every constructor begins with. -/
def checkType (what ident : String) (msg : Json) : Except WireError Unit :=
  if isString ident (msg.field "type") then .ok () else .error (failed what)

def optional (key : String) (x : Json) : Except WireError (Option Nat) :=
  match x.field key with
  | some y => (getUnsigned y).map some
  | none => .ok none

/-- An object with a type, and with data if there is any. -/
def envelope (type : String) (data : Option Json) : Json :=
  match data with
  | some data => (Json.null.set "type" (.str type)).set "data" data
  | none => Json.null.set "type" (.str type)

/-! ## Messages between the controller and a switch -/

namespace Sw

structure Hello where
  switchId : Option Nat := none
deriving DecidableEq, Repr

def Hello.toJson (m : Hello) : Json :=
  envelope "hello" (m.switchId.map fun id => Json.null.set "switch_id" (.int id))

/-- `rpc::sw::Hello(const json::json&)`. -/
def Hello.ofJson (msg : Json) : Except WireError Hello := do
  checkType "rpc::Hello: failed parsing message" "hello" msg
  match msg.field "data" with
  | some data => return { switchId := ← optional "switch_id" data }
  | none => return {}

structure AddParticipant where
  sessionId : Nat := 0
  participantId : Nat := 0
  ip : UInt32 := 0
deriving DecidableEq, Repr

def AddParticipant.toJson (m : AddParticipant) : Json :=
  envelope "add_participant" <| some <|
    ((Json.null.set "session_id" (.int m.sessionId)).set "participant_id"
      (.int m.participantId)).set "ip" (.str (IPv4.str m.ip))

/-- `rpc::sw::AddParticipant(const json::json&)`. -/
def AddParticipant.ofJson (msg : Json) : Except WireError AddParticipant := do
  checkType "rpc::sw::AddParticipant: failed parsing types" "add_participant" msg
  let data ← required "rpc::sw::AddParticipant: failed parsing data" "data" msg
  let field (key : String) := required ("rpc::sw::AddParticipant: failed parsing " ++ key) key data
  return {
    sessionId := ← getUnsigned (← field "session_id")
    participantId := ← getUnsigned (← field "participant_id")
    ip := ← getIPv4 (← field "ip") }

end Sw

def mediaTypeString : MediaType → String
  | .audio => "audio"
  | .video => "video"

/-- The media type that a text names; any other one leaves what is there. -/
def mediaTypeOf (old : MediaType) (x : Json) : MediaType :=
  if isString "audio" (some x) then .audio else if isString "video" (some x) then .video else old

/-- The name of `sendonly` and of `recvonly`. -/
def directionName (d : Direction) : String := if d = .sendonly then "sendonly" else "recvonly"

/-- The direction that a text names; any other one leaves what is there. -/
def directionOf (old : Direction) (x : Json) : Direction :=
  if isString "sendonly" (some x) then .sendonly
  else if isString "recvonly" (some x) then .recvonly else old

/-- `rpc::sw::AddStream::to_json`, where the direction is `sendonly` or `recvonly`. -/
def AddStream.toJson (m : AddStream) : Json :=
  envelope "add_stream" <| some <| (((((((((((Json.null.set "session_id" (.int m.sessionId)).set
    "participant_id" (.int m.participantId)).set "ip" (.str (IPv4.str m.ip))).set
    "port" (.int m.port.toNat)).set "ice_ufrag" (.str m.iceUfrag)).set
    "ice_pwd" (.str m.icePwd)).set "main_ssrc" (.int m.mainSSRC.toNat)).set
    "rtx_ssrc" (.int m.rtxSSRC.toNat)).set "rtcp_ssrc" (.int m.rtcpSSRC.toNat)).set
    "rtcp_rtx_ssrc" (.int m.rtcpRtxSSRC.toNat)).set
    "media_type" (.str (mediaTypeString m.mediaType))).set
    "direction" (.str (directionName m.direction))

/-- `rpc::sw::AddStream(const json::json&)`; `mediaType` and `direction` are what the members hold
when the text names none of their values. -/
def AddStream.ofJson (mediaType : MediaType) (direction : Direction) (msg : Json) :
    Except WireError AddStream := do
  checkType "rpc::sw::AddStream: failed parsing type" "add_stream" msg
  let data ← required "rpc::sw::AddStream: failed parsing data" "data" msg
  let field (key : String) := required ("rpc::sw::AddStream: failed parsing " ++ key) key data
  return {
    sessionId := ← getUnsigned (← field "session_id")
    participantId := ← getUnsigned (← field "participant_id")
    ip := ← getIPv4 (← field "ip")
    port := ← getPort (← field "port")
    iceUfrag := ← getString (← field "ice_ufrag")
    icePwd := ← getString (← field "ice_pwd")
    mainSSRC := ← getSSRC (← field "main_ssrc")
    rtxSSRC := ← getSSRC (← field "rtx_ssrc")
    rtcpSSRC := ← getSSRC (← field "rtcp_ssrc")
    rtcpRtxSSRC := ← getSSRC (← field "rtcp_rtx_ssrc")
    mediaType := mediaTypeOf mediaType (← field "media_type")
    direction := directionOf direction (← field "direction") }

/-! ## Messages between the controller and a client -/

namespace Cl

structure Hello where
  sessionId : Option Nat := none
  participantId : Option Nat := none
deriving DecidableEq, Repr

def setOptional (key : String) (n : Option Nat) (x : Json) : Json :=
  match n with
  | some n => x.set key (.int n)
  | none => x

def Hello.toJson (m : Hello) : Json :=
  envelope "hello" <|
    if m.sessionId.isSome ∨ m.participantId.isSome then
      some (setOptional "participant_id" m.participantId
        (setOptional "session_id" m.sessionId .null))
    else none

/-- `rpc::cl::Hello(const json::json&)`. -/
def Hello.ofJson (msg : Json) : Except WireError Hello := do
  checkType "rpc::Hello: failed parsing message" "hello" msg
  match msg.field "data" with
  | some data => return {
      sessionId := ← optional "session_id" data
      participantId := ← optional "participant_id" data }
  | none => return {}

structure Offer where
  sdp : String := ""
  participantId : Nat := 0
deriving DecidableEq, Repr

structure Answer where
  sdp : String := ""
  participantId : Nat := 0
deriving DecidableEq, Repr

def descriptionJson (type sdp : String) (participantId : Nat) : Json :=
  setOptional "participant_id" (if participantId ≠ 0 then some participantId else none)
    ((Json.null.set "type" (.str type)).set "sdp" (.str sdp))

def Offer.toJson (m : Offer) : Json :=
  envelope "offer" (some (descriptionJson "offer" m.sdp m.participantId))

/-- `rpc::cl::Offer(const json::json&)`; an offer without data is empty. -/
def Offer.ofJson (msg : Json) : Except WireError Offer := do
  checkType "rpc::cl::Offer: failed parsing message" "offer" msg
  match msg.field "data" with
  | some data => return {
      sdp := ← getString
        (← required "rpc::cl::Answer: failed parsing message: sdp missing" "sdp" data)
      participantId := ← getUnsigned (← required
        "rpc::cl::Offer: failed parsing sdp: participant_id missing" "participant_id" data) }
  | none => return {}

def Answer.toJson (m : Answer) : Json :=
  envelope "answer" (some (descriptionJson "answer" m.sdp m.participantId))

/-- `rpc::cl::Answer(const json::json&)`. -/
def Answer.ofJson (msg : Json) : Except WireError Answer := do
  checkType "rpc::cl::Answer: failed parsing message" "answer" msg
  let data ← required "rpc::cl::Answer: failed parsing sdp" "data" msg
  return {
    sdp := ← getString (← required "rpc::cl::Answer: failed parsing sdp: sdp missing" "sdp" data)
    participantId := ← getUnsigned (← required
      "rpc::cl::Answer: failed parsing sdp: participant_id missing" "participant_id" data) }

end Cl

/-! ## What is read back -/

section Conversions
variable {k : String} {x : Json} {what : String}

@[simp] theorem getUnsigned_int {n : Nat} (h : n < 2 ^ 32) : getUnsigned (.int n) = .ok n := by
  have hmod : ((n : Int) % 2 ^ 32).toNat = n := by omega
  exact congrArg Except.ok hmod

@[simp] theorem getSSRC_int (n : SSRC) : getSSRC (.int n.toNat) = .ok n := by
  unfold getSSRC
  rw [getUnsigned_int n.toNat_lt]
  exact congrArg Except.ok UInt32.ofNat_toNat

@[simp] theorem getPort_int (n : UInt16) : getPort (.int n.toNat) = .ok n := by
  have hlt := n.toNat_lt
  have hmod : ((n.toNat : Int) % 2 ^ 16).toNat = n.toNat := by omega
  show Except.ok (UInt16.ofNat ((n.toNat : Int) % 2 ^ 16).toNat) = .ok n
  rw [hmod, UInt16.ofNat_toNat]

@[simp] theorem getString_str (s : String) : getString (.str s) = .ok s := rfl

@[simp] theorem getIPv4_str (ip : UInt32) : getIPv4 (.str (IPv4.str ip)) = .ok ip := by
  unfold getIPv4
  rw [getString_str]
  show (match IPv4.ofString (IPv4.str ip) with | .ok ip => _ | .error e => _) = _
  rw [IPv4.ofString_str]
  rfl

@[simp] theorem required_of_field {y : Json} (h : x.field k = some y) :
    required what k x = .ok y := by
  unfold required
  rw [h]

end Conversions


theorem checkType_envelope (what ident : String) (data : Option Json) :
    checkType what ident (envelope ident data) = .ok () := by
  cases data <;> simp [checkType, envelope, isString]

theorem field_data_envelope (type : String) (data : Option Json) :
    (envelope type data).field "data" = data := by
  cases data <;> simp [envelope]

theorem required_data_envelope (what type : String) (data : Json) :
    required what "data" (envelope type (some data)) = .ok data :=
  required_of_field (field_data_envelope type (some data))

theorem Sw.Hello.ofJson_toJson {m : Hello} (h : ∀ id ∈ m.switchId, id < 2 ^ 32) :
    ofJson m.toJson = .ok m := by
  unfold ofJson toJson
  rw [checkType_envelope, Except.bind_ok, field_data_envelope]
  obtain ⟨switchId⟩ := m
  cases switchId with
  | none => rfl
  | some id =>
      dsimp only [Option.map_some]
      have hid := getUnsigned_int (h id rfl)
      simp [optional, hid, Except.map, Except.bind_ok, pure, Except.pure]

theorem Sw.AddParticipant.ofJson_toJson {m : AddParticipant} (hs : m.sessionId < 2 ^ 32)
    (hp : m.participantId < 2 ^ 32) : ofJson m.toJson = .ok m := by
  unfold ofJson toJson
  rw [checkType_envelope, Except.bind_ok, required_data_envelope, Except.bind_ok]
  simp [required, hs, hp, Except.bind_ok, pure, Except.pure, -Nat.reducePow]

@[simp] theorem mediaTypeOf_str (old type : MediaType) :
    mediaTypeOf old (.str (mediaTypeString type)) = type := by
  cases type <;> rfl

theorem directionOf_str (old : Direction) {d : Direction} (h : d = .sendonly ∨ d = .recvonly) :
    directionOf old (.str (directionName d)) = d := by
  rcases h with rfl | rfl <;> rfl

/-- A stream that the controller adds: it goes one way, and its ids are `unsigned`. -/
structure AddStream.InRange (m : AddStream) : Prop where
  sessionId : m.sessionId < 2 ^ 32
  participantId : m.participantId < 2 ^ 32
  direction : m.direction = .sendonly ∨ m.direction = .recvonly

theorem AddStream.ofJson_toJson (mediaType : MediaType) (direction : Direction) {m : AddStream}
    (h : m.InRange) : ofJson mediaType direction m.toJson = .ok m := by
  have hd := directionOf_str direction h.direction
  unfold ofJson toJson
  rw [checkType_envelope, Except.bind_ok, required_data_envelope, Except.bind_ok]
  simp [required, h.sessionId, h.participantId, hd, Except.bind_ok, pure, Except.pure, -Nat.reducePow]

theorem Cl.Hello.ofJson_toJson {m : Hello} (hs : ∀ id ∈ m.sessionId, id < 2 ^ 32)
    (hp : ∀ id ∈ m.participantId, id < 2 ^ 32) : ofJson m.toJson = .ok m := by
  unfold ofJson toJson
  rw [checkType_envelope, Except.bind_ok, field_data_envelope]
  obtain ⟨sessionId, participantId⟩ := m
  cases sessionId with
  | none =>
      cases participantId with
      | none => rfl
      | some p =>
          have hpart := getUnsigned_int (hp p rfl)
          simp [optional, setOptional, hpart, Except.map, Except.bind_ok, pure, Except.pure]
  | some s =>
      have hsession := getUnsigned_int (hs s rfl)
      cases participantId with
      | none => simp [optional, setOptional, hsession, Except.map, Except.bind_ok, pure, Except.pure]
      | some p =>
          have hpart := getUnsigned_int (hp p rfl)
          simp [optional, setOptional, hsession, hpart, Except.map, Except.bind_ok, pure, Except.pure]

/-- The constructor misses the id that was left out. -/
theorem Cl.Offer.ofJson_toJson {m : Offer} (h : m.participantId < 2 ^ 32) : ofJson m.toJson =
    if m.participantId = 0 then
      .error (failed "rpc::cl::Offer: failed parsing sdp: participant_id missing")
    else .ok m := by
  unfold ofJson toJson
  rw [checkType_envelope, Except.bind_ok, field_data_envelope]
  by_cases h0 : m.participantId = 0
  · simp [required, descriptionJson, setOptional, h0, bind, Except.bind]
  · simp [required, descriptionJson, setOptional, h0, h, Except.bind_ok, pure, Except.pure, -Nat.reducePow]

theorem Cl.Answer.ofJson_toJson {m : Answer} (h : m.participantId < 2 ^ 32) : ofJson m.toJson =
    if m.participantId = 0 then
      .error (failed "rpc::cl::Answer: failed parsing sdp: participant_id missing")
    else .ok m := by
  unfold ofJson toJson
  rw [checkType_envelope, Except.bind_ok, required_data_envelope, Except.bind_ok]
  by_cases h0 : m.participantId = 0
  · simp [required, descriptionJson, setOptional, h0, bind, Except.bind]
  · simp [required, descriptionJson, setOptional, h0, h, Except.bind_ok, pure, Except.pure, -Nat.reducePow]

/-! ## Every message -/

inductive Message where
  | swHello (m : Sw.Hello)
  | addParticipant (m : Sw.AddParticipant)
  | addStream (m : AddStream)
  | clHello (m : Cl.Hello)
  | offer (m : Cl.Offer)
  | answer (m : Cl.Answer)
deriving DecidableEq, Repr

namespace Message

def toJson : Message → Json
  | swHello m => m.toJson
  | addParticipant m => m.toJson
  | addStream m => m.toJson
  | clHello m => m.toJson
  | offer m => m.toJson
  | answer m => m.toJson

def text (lib : JsonLibrary) (m : Message) : List UInt8 := lib.dump m.toJson

/-- The constructor of the type of `m`, for a value that was read. -/
def readLike (m : Message) (mediaType : MediaType) (direction : Direction) (msg : Json) :
    Except WireError Message :=
  match m with
  | swHello _ => (Sw.Hello.ofJson msg).map swHello
  | addParticipant _ => (Sw.AddParticipant.ofJson msg).map addParticipant
  | addStream _ => (AddStream.ofJson mediaType direction msg).map addStream
  | clHello _ => (Cl.Hello.ofJson msg).map clHello
  | offer _ => (Cl.Offer.ofJson msg).map offer
  | answer _ => (Cl.Answer.ofJson msg).map answer

/-- The ids are `unsigned`, and a stream goes one way. -/
def InRange : Message → Prop
  | swHello m => ∀ id ∈ m.switchId, id < 2 ^ 32
  | addParticipant m => m.sessionId < 2 ^ 32 ∧ m.participantId < 2 ^ 32
  | addStream m => m.InRange
  | clHello m => (∀ id ∈ m.sessionId, id < 2 ^ 32) ∧ ∀ id ∈ m.participantId, id < 2 ^ 32
  | offer m => m.participantId < 2 ^ 32
  | answer m => m.participantId < 2 ^ 32

/-- An offer or an answer of participant 0. -/
def OmitsParticipant : Message → Prop
  | offer m => m.participantId = 0
  | answer m => m.participantId = 0
  | _ => False

/-- The text of a message is read, with the constructor of its type, as the message. -/
def Survives (lib : JsonLibrary) (m : Message) (mediaType : MediaType) (direction : Direction) : Prop :=
  (lib.parse (m.text lib)).map (m.readLike mediaType direction) = some (.ok m)

/-- A message is read back from its text, unless it leaves its participant out. -/
theorem survives_iff (lib : JsonLibrary) {m : Message} (hlib : lib.parse (lib.dump m.toJson) = some m.toJson)
    (h : m.InRange) (mediaType : MediaType) (direction : Direction) :
    m.Survives lib mediaType direction ↔ ¬ m.OmitsParticipant := by
  unfold Survives text
  rw [hlib, Option.map_some, Option.some.injEq]
  cases m with
  | swHello m =>
      have hm := Sw.Hello.ofJson_toJson h
      refine iff_of_true ?_ id
      show (Sw.Hello.ofJson m.toJson).map swHello = _
      rw [hm]
      rfl
  | addParticipant m =>
      have hm := Sw.AddParticipant.ofJson_toJson h.1 h.2
      refine iff_of_true ?_ id
      show (Sw.AddParticipant.ofJson m.toJson).map addParticipant = _
      rw [hm]
      rfl
  | addStream m =>
      have hm := AddStream.ofJson_toJson mediaType direction h
      refine iff_of_true ?_ id
      show (AddStream.ofJson mediaType direction m.toJson).map addStream = _
      rw [hm]
      rfl
  | clHello m =>
      have hm := Cl.Hello.ofJson_toJson h.1 h.2
      refine iff_of_true ?_ id
      show (Cl.Hello.ofJson m.toJson).map clHello = _
      rw [hm]
      rfl
  | offer m =>
      have hm := Cl.Offer.ofJson_toJson h
      show (Cl.Offer.ofJson m.toJson).map offer = _ ↔ ¬ m.participantId = 0
      rw [hm]
      split
      next h0 => exact iff_of_false (fun h => nomatch h) (· h0)
      next h0 => exact iff_of_true rfl h0
  | answer m =>
      have hm := Cl.Answer.ofJson_toJson h
      show (Cl.Answer.ofJson m.toJson).map answer = _ ↔ ¬ m.participantId = 0
      rw [hm]
      split
      next h0 => exact iff_of_false (fun h => nomatch h) (· h0)
      next h0 => exact iff_of_true rfl h0

def exampleStream : Message := addStream { mainSSRC := 5, mediaType := .video, direction := .recvonly }

theorem survives_iff_addStream :
    exampleStream.Survives .plain .audio .inactive ↔ ¬ exampleStream.OmitsParticipant :=
  @survives_iff .plain exampleStream (JsonLibrary.plain_whole _) ⟨by decide, by decide, .inr rfl⟩ .audio .inactive

/-- The offer that a client gets before it has an id of its own is refused, with every library. -/
theorem offer_of_participant_zero :
    ¬ ∃ lib : JsonLibrary, (∀ m : Message, lib.parse (lib.dump m.toJson) = some m.toJson) ∧
      ∀ (m : Message) (mediaType : MediaType) (direction : Direction), m.InRange →
        m.Survives lib mediaType direction := by
  rintro ⟨lib, hlib, hall⟩
  have h0 : (offer { sdp := "v=0" }).InRange := Nat.two_pow_pos 32
  exact (survives_iff lib (hlib _) h0 .audio .inactive).mp (hall _ .audio .inactive h0) rfl

end Message

end Rpc

end Scallop
