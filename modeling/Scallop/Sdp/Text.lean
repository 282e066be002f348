import Scallop.Lib.Except
import Scallop.Lib.Regex
import Scallop.Sdp

/-!
# The text of session descriptions

How `lib/proto/sdp.cc` prints descriptions and reads them.

* the patterns of the lines, under their names in the source;
* `line`, `lines` : what is printed for each class; `escapedString`;
* `ofLine`, `ofLines` : what is read from it;
* `SessionDescription.parse` : the constructor that takes a text.
-/

namespace Scallop

namespace Sdp

open Regex

/-! ## Patterns -/

/-- `\w` -/
def isWord (c : Char) : Bool := c.isAlphanum || c = '_'

/-- `.` -/
def isDot (c : Char) : Bool := c ≠ '\n' && c ≠ '\r'

def digit : Regex := one Char.isDigit
def space : Regex := one isSpace
def digits : Regex := plus digit
def words : Regex := plus (one isWord)
def dots : Regex := plus (one isDot)

/-- `[\w\d-]` -/
def isUserName (c : Char) : Bool := isWord c || c = '-'

/-- `[\d:\.]` -/
def isUnicastAddr (c : Char) : Bool := c.isDigit || c = ':' || c = '.'

def O_LINE_REGEX : Regex :=
  text "o=" ++ group 1 (plus (one isUserName)) ++ text " " ++ group 2 digits ++ text " " ++
    group 3 digits ++ text " " ++ group 4 words ++ text " " ++ group 5 words ++ text " " ++
    group 6 (plus (one isUnicastAddr))

def T_LINE_REGEX : Regex := text "t=" ++ group 1 digits ++ text " " ++ group 2 digits

def C_LINE_REGEX : Regex :=
  text "c=" ++ group 1 (text "IN") ++ text " " ++ group 2 (anyOf ["IP4", "IP6"]) ++
    text " " ++ group 3 dots

def SSRC_REGEX : Regex := text "a=ssrc" ++ dots

def SSRC_GROUP_REGEX : Regex :=
  text "a=ssrc-group:" ++ group 1 (anyOf ["FID", "FEC"]) ++ text " " ++
    group 2 (digits ++ plus (space ++ digits))

/-- `[\w\s\-+]` -/
def isSsrcAttr (c : Char) : Bool := isWord c || isSpace c || c = '-' || c = '+'

def SSRC_ATTR_REGEX : Regex :=
  text "a=ssrc:" ++ group 1 digits ++ text " " ++ group 2 (anyOf ["msid", "cname"]) ++
    text ":" ++ group 3 (plus (one isSsrcAttr))

/-- `[0-9a-z\/\+]` -/
def isFoundation (c : Char) : Bool := c.isDigit || c.isLower || c = '/' || c = '+'

/-- `\d{1,3}` -/
def octet : Regex := upTo digit 2

def ICE_CANDIDATE_REGEX : Regex :=
  text "a=candidate:" ++ group 1 (plus (one isFoundation)) ++ text " " ++ group 2 octet ++
    text " " ++ group 3 (anyOf ["tcp", "udp"]) ++ text " " ++ group 4 digits ++ text " " ++
    group 5 (octet ++ text "." ++ octet ++ text "." ++ octet ++ text "." ++ octet) ++ text " " ++
    group 6 (upTo digit 4) ++ text " typ " ++
    group 7 (anyOf ["host", "srflx", "prflx", "relay"]) ++
    (opt space ++ group 8 (star (one isDot)))

def MEDIA_FORMAT_REGEX : Regex :=
  text "a=" ++ anyOf ["rtpmap", "rtcp-fb", "fmtp"] ++ dots

def RTP_MAP_REGEX : Regex :=
  text "a=rtpmap:" ++ group 1 digits ++ text " " ++ group 2 words ++ text "/" ++ group 3 digits ++
    opt (text "/" ++ opt (group 4 digits))

/-- `[\w\s-]` -/
def isFbType (c : Char) : Bool := isWord c || isSpace c || c = '-'

def RTCP_FB_REGEX : Regex :=
  text "a=rtcp-fb:" ++ group 1 digits ++ text " " ++ group 2 (plus (one isFbType))

def RTP_FMTP_REGEX : Regex := text "a=fmtp:" ++ group 1 digits ++ text " " ++ group 2 dots

def EXTMAP_REGEX : Regex := text "a=extmap:" ++ group 1 digits ++ text " " ++ group 2 dots

/-- `\S` -/
def isNoSpace (c : Char) : Bool := !isSpace c

def MSID_REGEX : Regex :=
  text "a=msid:" ++ group 1 (plus (one isNoSpace)) ++ opt (space ++ group 2 (plus (one isNoSpace)))

def RTCP_REGEX : Regex :=
  text "a=rtcp:" ++ group 1 digits ++
    opt (text " " ++ group 2 (text "IN") ++ text " " ++ group 3 (text "IP4") ++ text " " ++
      group 4 dots)

/-- `[\/\w]` -/
def isProtocols (c : Char) : Bool := c = '/' || isWord c

/-- `[\d{1,3}\s?]`, in which the braces, the comma and the question mark stand for themselves. -/
def isPayloadTypes (c : Char) : Bool :=
  c.isDigit || c = '{' || c = ',' || c = '}' || isSpace c || c = '?'

def M_LINE_REGEX : Regex :=
  text "m=" ++ group 1 (anyOf ["audio", "video"]) ++ space ++ group 2 (upTo digit 4) ++
    space ++ group 3 (plus (one isProtocols)) ++ space ++ group 4 (plus (one isPayloadTypes))

/-- `[\w\+\/:]` -/
def isIce (c : Char) : Bool := isWord c || c = '+' || c = '/' || c = ':'

def ICE_UFRAG_REGEX : Regex := text "a=ice-ufrag:" ++ group 1 (plus (one isIce))

def ICE_PWD_REGEX : Regex := text "a=ice-pwd:" ++ group 1 (plus (one isIce))

def MID_REGEX : Regex := text "a=mid:" ++ group 1 words

def DIRECTION_REGEX : Regex :=
  text "a=" ++
    group 1 (anyOf ["sendrecv", "sendonly", "recvonly", "inactive"])

def ICE_OTHER_REGEX : Regex := text "a=ice-" ++ dots

def RTCP_OTHER_REGEX : Regex := text "a=rtcp-" ++ group 1 (anyOf ["mux", "rsize"])

def V_LINE_REGEX : Regex := text "v=" ++ group 1 digits

def S_LINE_REGEX : Regex := text "s=" ++ group 1 dots

def BUNDLE_REGEX : Regex := text "a=group:BUNDLE" ++ dots

/-! ## Numbers and strings -/

/-- `std::stoul` of a text that begins with a digit. -/
def stoul (s : String) : Except Fault Nat :=
  match leadingNat s.toList with
  | some n => if n < 2 ^ 64 then .ok n else .error (.logicError "stoul")
  | none => .error (.invalidArgument "stoul")

/-- `c_str` where it is formatted with `%s`: up to the first NUL. -/
def cStr (s : String) : String := String.ofList (s.toList.takeWhile (· ≠ '\x00'))

def joinStrings : List String → String
  | [] => ""
  | [s] => s
  | s :: ss => s ++ " " ++ joinStrings ss

/-! ## Parts -/

def Origin.ofLine (oLine : String) : Except Fault Origin :=
  match O_LINE_REGEX.fullMatch oLine with
  | some m => do
      let sessionId ← stoul (m.get 2)
      let sessionVersion ← stoul (m.get 3)
      return {
        userName := m.get 1
        sessionId
        sessionVersion
        netType := m.get 4
        addrType := m.get 5
        unicastAddr := m.get 6 }
  | none => .ok {}

def Origin.line (o : Origin) : String :=
  "o=" ++ cStr o.userName ++ " " ++ toString o.sessionId ++ " " ++ toString o.sessionVersion ++
    " " ++ cStr o.netType ++ " " ++ cStr o.addrType ++ " " ++ cStr o.unicastAddr

def Timing.ofLine (tLine : String) : Except Fault Timing :=
  match T_LINE_REGEX.fullMatch tLine with
  | some m => do
      let start ← stoul (m.get 1)
      let stop ← stoul (m.get 2)
      return { start, stop }
  | none => .ok {}

def Timing.line (t : Timing) : String := "t=" ++ toString t.start ++ " " ++ toString t.stop

def ConnectionData.ofLine (cLine : String) : ConnectionData :=
  match C_LINE_REGEX.fullMatch cLine with
  | some m => { netType := m.get 1, addrType := m.get 2, connectionAddress := m.get 3 }
  | none => {}

def ConnectionData.line (c : ConnectionData) : String :=
  "c=" ++ cStr c.netType ++ " " ++ cStr c.addrType ++ " " ++ cStr c.connectionAddress

/-- The first of the SSRCs that has this number, changed by `f`; a new one at the end if there is
none. -/
def SSRCAttributes.update (n : SSRC) (f : SSRCAttributes → SSRCAttributes) :
    List SSRCAttributes → List SSRCAttributes
  | [] => [f { ssrc := n }]
  | s :: ss => if s.ssrc = n then f s :: ss else s :: update n f ss

/-- One line of `SDP::SSRCDescription::SSRCDescription`. -/
def SSRCDescription.readLine (ssrcs : List SSRCAttributes) (line : String) :
    Except Fault (List SSRCAttributes) :=
  match SSRC_GROUP_REGEX.fullMatch line with
  | some m => do
      let numbers ← ((m.get 2).toList.splitOn ' ').mapM fun part => stoul (.ofList part)
      return ssrcs ++ numbers.map fun n => { ssrc := .ofNat n }
  | none =>
      match SSRC_ATTR_REGEX.fullMatch line with
      | some m => do
          let n ← stoul (m.get 1)
          return SSRCAttributes.update (.ofNat n) (fun s =>
            if m.get 2 = "cname" then { s with cname := m.get 3 }
            else if m.get 2 = "msid" then { s with msid := m.get 3 }
            else s) ssrcs
      | none => .ok ssrcs

def SSRCDescription.ofLines (ssrcLines : List String) : Except Fault SSRCDescription := do
  let ssrcs ← ssrcLines.foldlM readLine []
  return { ssrcs }

def SSRCDescription.ofLines? (ssrcLines : List String) : Except Fault (Option SSRCDescription) :=
  if ssrcLines ≠ [] then (ofLines ssrcLines).map some else .ok none

def SSRCAttributes.lines (s : SSRCAttributes) : List String :=
  (if s.cname ≠ "" then ["a=ssrc:" ++ toString s.ssrc.toNat ++ " cname:" ++ cStr s.cname] else []) ++
    if s.msid ≠ "" then ["a=ssrc:" ++ toString s.ssrc.toNat ++ " msid:" ++ cStr s.msid] else []

def SSRCDescription.lines (d : SSRCDescription) : List String :=
  (if 1 < d.ssrcs.length then
      ["a=ssrc-group:FID " ++ joinStrings (d.ssrcs.map fun s => toString s.ssrc.toNat)]
    else []) ++ d.ssrcs.flatMap SSRCAttributes.lines

def ICECandidate.ofLine (line : String) : Except Fault ICECandidate :=
  match ICE_CANDIDATE_REGEX.fullMatch line with
  | some m => do
      let componentId ← stoul (m.get 2)
      let priority ← stoul (m.get 4)
      let port ← stoul (m.get 6)
      return {
        foundation := m.get 1
        componentId
        protocol := m.get 3
        priority
        address := m.get 5
        port := .ofNat port
        type := m.get 7
        remainder := m.get 8 }
  | none => .ok {}

/-- The priority, of 64 bits, is formatted as one of 32 bits. -/
def ICECandidate.line (c : ICECandidate) : String :=
  let base := "a=candidate:" ++ cStr c.foundation ++ " " ++ toString c.componentId ++ " " ++
    cStr c.protocol ++ " " ++ toString (c.priority % 2 ^ 32) ++ " " ++ cStr c.address ++ " " ++
    toString c.port.toNat ++ " typ " ++ cStr c.type
  if c.remainder ≠ "" then base ++ " " ++ c.remainder else base

/-- One line of `SDP::MediaFormat::MediaFormat`. -/
def MediaFormat.readLine (f : MediaFormat) (line : String) : Except Fault MediaFormat :=
  match RTP_MAP_REGEX.fullMatch line with
  | some m => do
      let pt ← stoul (m.get 1)
      let clockRate ← stoul (m.get 3)
      let channels ← match m.lookup 4 with
        | some _ => (stoul (m.get 4)).map fun n => some (n % 2 ^ 32)
        | none => .ok f.channels
      return { f with pt := pt % 2 ^ 32, codec := m.get 2, clockRate := clockRate % 2 ^ 32, channels }
  | none =>
      match RTCP_FB_REGEX.fullMatch line with
      | some m => do
          let pt ← stoul (m.get 1)
          return if pt = f.pt then { f with fbTypes := f.fbTypes ++ [m.get 2] } else f
      | none =>
          match RTP_FMTP_REGEX.fullMatch line with
          | some m => do
              let pt ← stoul (m.get 1)
              return if pt = f.pt then { f with fmtParams := f.fmtParams ++ [m.get 2] } else f
          | none => .ok f

def MediaFormat.ofLines (lines : List String) : Except Fault MediaFormat := lines.foldlM readLine {}

def MediaFormat.lines (f : MediaFormat) : List String :=
  (match f.channels with
    | some channels => ["a=rtpmap:" ++ toString f.pt ++ " " ++ cStr f.codec ++ "/" ++
        toString f.clockRate ++ "/" ++ toString channels]
    | none => ["a=rtpmap:" ++ toString f.pt ++ " " ++ cStr f.codec ++ "/" ++ toString f.clockRate]) ++
    f.fbTypes.map (fun fbType => "a=rtcp-fb:" ++ toString f.pt ++ " " ++ cStr fbType) ++
    f.fmtParams.map fun fmtParam => "a=fmtp:" ++ toString f.pt ++ " " ++ cStr fmtParam

def payloadTypesString (formats : List MediaFormat) : String :=
  joinStrings (formats.map fun f => toString f.pt)

/-- For a line that matches; only such lines are given to the constructor. -/
def RTPExtension.ofLine (line : String) : Except Fault RTPExtension :=
  match EXTMAP_REGEX.fullMatch line with
  | some m => (stoul (m.get 1)).map fun n => { identifier := n % 2 ^ 32, uri := m.get 2 }
  | none => .ok { identifier := 0, uri := "" }

def RTPExtension.line (e : RTPExtension) : String :=
  "a=extmap:" ++ toString e.identifier ++ " " ++ cStr e.uri

def MediaStreamIdentifier.ofLine (line : String) : MediaStreamIdentifier :=
  match MSID_REGEX.fullMatch line with
  | some m => { identifier := m.get 1, appData := m.get 2 }
  | none => {}

def MediaStreamIdentifier.line (i : MediaStreamIdentifier) : String :=
  "a=msid:" ++ i.identifier ++ if i.appData ≠ "" then " " ++ i.appData else ""

def RTCPConfiguration.ofLine (line : String) : Except Fault RTCPConfiguration :=
  match RTCP_REGEX.fullMatch line with
  | some m => (stoul (m.get 1)).map fun n =>
      { port := .ofNat n, netType := m.get 2, addrType := m.get 3, connectionAddress := m.get 4 }
  | none => .ok {}

def RTCPConfiguration.line (c : RTCPConfiguration) : String :=
  "a=rtcp:" ++ toString c.port.toNat ++
    if c.netType ≠ "" ∧ c.addrType ≠ "" ∧ c.connectionAddress ≠ "" then
      " " ++ c.netType ++ " " ++ c.addrType ++ " " ++ c.connectionAddress
    else ""

def directionFromString (s : String) : Except Fault Direction :=
  if s = "recvonly" then .ok .recvonly
  else if s = "sendrecv" then .ok .sendrecv
  else if s = "sendonly" then .ok .sendonly
  else if s = "inactive" then .ok .inactive
  else .error (.invalidArgument "SDP::directionFromString: could not parse direction")

def directionString : Direction → String
  | .recvonly => "recvonly"
  | .sendrecv => "sendrecv"
  | .sendonly => "sendonly"
  | .inactive => "inactive"

def typeFromString (s : String) : Except Fault MediaType :=
  if s = "audio" then .ok .audio
  else if s = "video" then .ok .video
  else .error (.invalidArgument
    "SDP::MediaDescription::typeFromString: could not parse media type.")

def stringFromType : MediaType → String
  | .audio => "audio"
  | .video => "video"

/-! ## Media sections -/

structure MediaReading where
  media : MediaDescription
  ssrcLines : List String := []
  iceCandidateLines : List String := []
  currentFormatLines : List String := []

/-- The lines of a format are kept until the next one begins. -/
def MediaReading.flush (r : MediaReading) : Except Fault MediaReading :=
  if r.currentFormatLines ≠ [] then do
    let format ← MediaFormat.ofLines r.currentFormatLines
    return { r with
      media := { r.media with mediaFormats := r.media.mediaFormats ++ [format] }
      currentFormatLines := [] }
  else return r

/-- What is done with a line, given the groups of its pattern. -/
abbrev MediaBranch := Captures → String → MediaReading → Except Fault MediaReading

/-- The branches of `SDP::MediaDescription::MediaDescription`. -/
def mediaBranches : List (Regex × MediaBranch) := [
  (M_LINE_REGEX, fun m _ r => do
    let type ← typeFromString (m.get 1)
    let port ← stoul (m.get 2)
    return { r with media := { r.media with type, port := .ofNat port, protocols := m.get 3 } }),
  (C_LINE_REGEX, fun _ line r =>
    .ok { r with media := { r.media with connectionData := some (ConnectionData.ofLine line) } }),
  (RTCP_REGEX, fun _ line r => (RTCPConfiguration.ofLine line).map fun c =>
    { r with media := { r.media with rtcpConfiguration := some c } }),
  (ICE_UFRAG_REGEX, fun m _ r =>
    .ok { r with media := { r.media with iceUfrag := some (m.get 1) } }),
  (ICE_PWD_REGEX, fun m _ r =>
    .ok { r with media := { r.media with icePwd := some (m.get 1) } }),
  (MID_REGEX, fun m _ r => .ok { r with media := { r.media with mid := some (m.get 1) } }),
  (EXTMAP_REGEX, fun _ line r => (RTPExtension.ofLine line).map fun e =>
    { r with media := { r.media with extensions := r.media.extensions ++ [e] } }),
  (MSID_REGEX, fun _ line r =>
    .ok { r with media := { r.media with msid := some (MediaStreamIdentifier.ofLine line) } }),
  (DIRECTION_REGEX, fun m _ r => (directionFromString (m.get 1)).map fun d =>
    { r with media := { r.media with direction := some d } }),
  (ICE_CANDIDATE_REGEX, fun _ line r =>
    .ok { r with iceCandidateLines := r.iceCandidateLines ++ [line] }),
  (SSRC_REGEX, fun _ line r => .ok { r with ssrcLines := r.ssrcLines ++ [line] }),
  (MEDIA_FORMAT_REGEX, fun _ line r => do
    let r ← if (RTP_MAP_REGEX.fullMatch line).isSome then r.flush else .ok r
    return { r with currentFormatLines := r.currentFormatLines ++ [line] }),
  (ICE_OTHER_REGEX, fun _ line r =>
    .ok { r with media := { r.media with iceOtherLines := r.media.iceOtherLines ++ [line] } }),
  (RTCP_OTHER_REGEX, fun _ line r =>
    .ok { r with media := { r.media with rtcpOtherLines := r.media.rtcpOtherLines ++ [line] } })]

def MediaReading.readLine (r : MediaReading) (line : String) : Except Fault MediaReading :=
  match firstMatch mediaBranches line with
  | some (branch, m) => branch m line r
  | none => .ok { r with media := { r.media with otherLines := r.media.otherLines ++ [line] } }

/-- What is left to do after the last line. -/
def MediaReading.finish (r : MediaReading) : Except Fault MediaDescription := do
  let r ← r.flush
  let iceCandidates ← r.iceCandidateLines.mapM ICECandidate.ofLine
  let ssrcDescription ← SSRCDescription.ofLines? r.ssrcLines
  return { r.media with iceCandidates, ssrcDescription }

/-- `SDP::MediaDescription::MediaDescription`. The type, which the source leaves open at first, is in
the first line of every section. -/
def MediaDescription.ofLines (lines : List String) : Except Fault MediaDescription := do
  let r ← lines.foldlM MediaReading.readLine { media := { type := .audio } }
  r.finish

def MediaDescription.mLine (m : MediaDescription) : String :=
  "m=" ++ stringFromType m.type ++ " " ++ toString m.port.toNat ++ " " ++ cStr m.protocols ++ " " ++
    cStr (payloadTypesString m.mediaFormats)

def MediaDescription.attributes (m : MediaDescription) : List String :=
  (m.connectionData.map ConnectionData.line).toList ++
    (m.rtcpConfiguration.map RTCPConfiguration.line).toList ++
    m.iceCandidates.map ICECandidate.line ++
    (m.iceUfrag.map fun iceUfrag => "a=ice-ufrag:" ++ cStr iceUfrag).toList ++
    (m.icePwd.map fun icePwd => "a=ice-pwd:" ++ cStr icePwd).toList ++
    m.iceOtherLines ++
    (m.mid.map fun mid => "a=mid:" ++ cStr mid).toList ++
    m.extensions.map RTPExtension.line ++
    (m.direction.map fun direction => "a=" ++ directionString direction).toList ++
    (m.msid.map MediaStreamIdentifier.line).toList ++
    m.rtcpOtherLines ++
    m.mediaFormats.flatMap MediaFormat.lines ++
    (m.ssrcDescription.map SSRCDescription.lines).getD []

def MediaDescription.lines (m : MediaDescription) : List String := m.mLine :: m.attributes

/-! ## Sessions -/

/-- What has been read of a description; `mediaSectionLines` is `none` outside of the media
sections. -/
structure SessionReading where
  session : SessionDescription := { timing := [] }
  mediaSectionLines : Option (List String) := none
  version : Bool := false
  origin : Bool := false

def isMediaLine (line : String) : Bool := (M_LINE_REGEX.fullMatch line).isSome

/-- What is done with a line, given the groups of its pattern. -/
abbrev SessionBranch := Captures → String → SessionReading → Except Fault SessionReading

/-- The branches for the lines before and between the media sections. -/
def sessionBranches : List (Regex × SessionBranch) := [
  (V_LINE_REGEX, fun m _ r => (stoul (m.get 1)).map fun n =>
    { r with session := { r.session with version := n % 2 ^ 32 }, version := true }),
  (O_LINE_REGEX, fun _ line r => (Origin.ofLine line).map fun o =>
    { r with session := { r.session with origin := o }, origin := true }),
  (S_LINE_REGEX, fun m _ r =>
    .ok { r with session := { r.session with sessionName := m.get 1 } }),
  (T_LINE_REGEX, fun _ line r => (Timing.ofLine line).map fun t =>
    { r with session := { r.session with timing := r.session.timing ++ [t] } }),
  (BUNDLE_REGEX, fun _ _ r => .ok r)]

/-- One line before or between the media sections. -/
def SessionReading.readLine (r : SessionReading) (line : String) : Except Fault SessionReading :=
  match firstMatch sessionBranches line with
  | some (branch, m) => branch m line r
  | none => .ok { r with session := { r.session with otherLines := r.session.otherLines ++ [line] } }

/-- The lines one after the other. A media section goes up to the line that begins the next one. -/
def SessionReading.readLines : List String → SessionReading → Except Fault SessionReading
  | [], r => .ok r
  | line :: lines, r =>
      let section? := if isMediaLine line then some (r.mediaSectionLines.getD [])
        else r.mediaSectionLines
      match section? with
      | some mediaSectionLines =>
          let mediaSectionLines := mediaSectionLines ++ [line]
          if lines.head?.all isMediaLine then do
            let media ← MediaDescription.ofLines mediaSectionLines
            readLines lines { r with
              session := { r.session with
                mediaDescriptions := r.session.mediaDescriptions ++ [media] }
              mediaSectionLines := none }
          else readLines lines { r with mediaSectionLines := some mediaSectionLines }
      | none => do readLines lines (← r.readLine line)

/-- `SDP::SessionDescription(const std::vector<std::string>&)`. -/
def SessionDescription.ofLines (lines : List String) : Except Fault SessionDescription := do
  let r ← SessionReading.readLines lines {}
  if !r.version || r.session.version ≠ 0 then
    .error (.invalidArgument "SessionDescription: invalid sdp: no v-line or version != 0")
  else if !r.origin then .error (.invalidArgument "SessionDescription: invalid sdp: no o-line")
  else if r.session.timing = [] then
    .error (.invalidArgument "SessionDescription: invalid sdp: no t-line")
  else return r.session

/-- `util::splitString` at `\r\n`. -/
def splitLines : List Char → List (List Char)
  | [] => [[]]
  | '\r' :: '\n' :: cs => [] :: splitLines cs
  | c :: cs =>
      match splitLines cs with
      | l :: ls => (c :: l) :: ls
      | [] => [[c]]

/-- `SDP::SessionDescription(const std::string&)`. -/
def SessionDescription.parse : Parser := fun sdpString =>
  ofLines ((splitLines sdpString.toList).map String.ofList)

/-- The bundle line, if there is a media section. -/
def SessionDescription.bundleLine (d : SessionDescription) : List String :=
  if d.mediaDescriptions ≠ [] then
    ["a=group:BUNDLE" ++ String.join (d.mediaDescriptions.map fun m => " " ++ m.mid.getD "")]
  else []

def SessionDescription.lines (d : SessionDescription) : Except Fault (List String) := do
  d.checkLines
  return ["v=" ++ toString d.version, d.origin.line, "s=" ++ d.sessionName] ++
    d.timing.map Timing.line ++ d.bundleLine ++ d.otherLines ++
    d.mediaDescriptions.flatMap MediaDescription.lines

def SessionDescription.escapedString (d : SessionDescription) : Except Fault String := do
  let lines ← d.lines
  return String.join (lines.map fun line => line ++ "\r\n")

end Sdp

end Scallop
