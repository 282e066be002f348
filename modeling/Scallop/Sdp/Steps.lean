import Scallop.Sdp.Text

/-!
# What a line does to a format, and to a media section

* `MediaFormat.Step`, `MediaReading.Step` : one case for each branch of the constructor; `readLine_step` : a line that
  is read does one of these.
-/

namespace Scallop

namespace Sdp

open Regex

namespace MediaFormat

/-- What a line of a format does to what has been read. -/
inductive Step (line : String) (f : MediaFormat) : MediaFormat → Prop
  | rtpmap {m : Captures} {pt clockRate : Nat} {channels : Option Nat} (hm : RTP_MAP_REGEX.fullMatch line = some m)
      (hpt : stoul (m.get 1) = .ok pt) (hchannels : channels = f.channels ∨ ∀ n ∈ channels, n < 2 ^ 32) :
      Step line f { f with pt := pt % 2 ^ 32, codec := m.get 2, clockRate := clockRate % 2 ^ 32, channels }
  | fbType {m : Captures} {pt : Nat} (hmap : RTP_MAP_REGEX.fullMatch line = none)
      (hm : RTCP_FB_REGEX.fullMatch line = some m) (hpt : stoul (m.get 1) = .ok pt) :
      Step line f (if pt = f.pt then { f with fbTypes := f.fbTypes ++ [m.get 2] } else f)
  | fmtParam {m : Captures} {pt : Nat} (hmap : RTP_MAP_REGEX.fullMatch line = none)
      (hm : RTP_FMTP_REGEX.fullMatch line = some m) (hpt : stoul (m.get 1) = .ok pt) :
      Step line f (if pt = f.pt then { f with fmtParams := f.fmtParams ++ [m.get 2] } else f)
  | other (hmap : RTP_MAP_REGEX.fullMatch line = none) (hfmtp : RTP_FMTP_REGEX.fullMatch line = none) : Step line f f

theorem readLine_step {f f' : MediaFormat} {line : String} (h : f.readLine line = .ok f') : Step line f f' := by
  unfold readLine at h
  split at h
  next m hm =>
    obtain ⟨pt, hpt, h⟩ := Except.of_bind_ok h
    obtain ⟨clockRate, -, h⟩ := Except.of_bind_ok h
    dsimp only at h
    split at h
    · obtain ⟨channels, hchannels, h⟩ := Except.of_bind_ok h
      obtain ⟨n, -, rfl⟩ := Except.of_map_ok hchannels
      obtain rfl := Except.ok.inj h
      refine .rtpmap hm hpt (.inr fun k hk => ?_)
      obtain rfl := Option.some.inj hk
      exact Nat.mod_lt _ (by decide)
    · obtain rfl := Except.ok.inj h
      exact .rtpmap hm hpt (.inl rfl)
  next hmap =>
    split at h
    next m hm =>
      obtain ⟨pt, hpt, h⟩ := Except.of_bind_ok h
      obtain rfl := Except.ok.inj h
      exact .fbType hmap hm hpt
    next =>
      split at h
      next m hm =>
        obtain ⟨pt, hpt, h⟩ := Except.of_bind_ok h
        obtain rfl := Except.ok.inj h
        exact .fmtParam hmap hm hpt
      next hfmtp =>
        obtain rfl := Except.ok.inj h
        exact .other hmap hfmtp

end MediaFormat

namespace MediaReading

/-- What a line of a section does to what has been read. -/
inductive Step (line : String) (r : MediaReading) : MediaReading → Prop
  | mLine {m : Captures} {type : MediaType} {port : Nat} (hm : M_LINE_REGEX.fullMatch line = some m)
      (htype : typeFromString (m.get 1) = .ok type) (hport : stoul (m.get 2) = .ok port) :
      Step line r { r with media := { r.media with type, port := .ofNat port, protocols := m.get 3 } }
  | connectionData {m : Captures} (hm : C_LINE_REGEX.fullMatch line = some m) :
      Step line r { r with media := { r.media with connectionData := some (ConnectionData.ofLine line) } }
  | rtcpConfiguration {m : Captures} {c : RTCPConfiguration} (hm : RTCP_REGEX.fullMatch line = some m)
      (hc : RTCPConfiguration.ofLine line = .ok c) :
      Step line r { r with media := { r.media with rtcpConfiguration := some c } }
  | iceUfrag {m : Captures} (hm : ICE_UFRAG_REGEX.fullMatch line = some m) :
      Step line r { r with media := { r.media with iceUfrag := some (m.get 1) } }
  | icePwd {m : Captures} (hm : ICE_PWD_REGEX.fullMatch line = some m) :
      Step line r { r with media := { r.media with icePwd := some (m.get 1) } }
  | mid {m : Captures} (hm : MID_REGEX.fullMatch line = some m) :
      Step line r { r with media := { r.media with mid := some (m.get 1) } }
  | extension {m : Captures} {e : RTPExtension} (hm : EXTMAP_REGEX.fullMatch line = some m)
      (he : RTPExtension.ofLine line = .ok e) :
      Step line r { r with media := { r.media with extensions := r.media.extensions ++ [e] } }
  | msid {m : Captures} (hm : MSID_REGEX.fullMatch line = some m) :
      Step line r { r with media := { r.media with msid := some (MediaStreamIdentifier.ofLine line) } }
  | direction {m : Captures} {d : Direction} (hm : DIRECTION_REGEX.fullMatch line = some m)
      (hd : directionFromString (m.get 1) = .ok d) :
      Step line r { r with media := { r.media with direction := some d } }
  | iceCandidate {m : Captures} (hm : ICE_CANDIDATE_REGEX.fullMatch line = some m) :
      Step line r { r with iceCandidateLines := r.iceCandidateLines ++ [line] }
  | ssrc {m : Captures} (hm : SSRC_REGEX.fullMatch line = some m) :
      Step line r { r with ssrcLines := r.ssrcLines ++ [line] }
  | rtpmap {m : Captures} {r₁ : MediaReading} (hm : MEDIA_FORMAT_REGEX.fullMatch line = some m)
      (hmap : (RTP_MAP_REGEX.fullMatch line).isSome = true) (hflush : r.flush = .ok r₁) :
      Step line r { r₁ with currentFormatLines := r₁.currentFormatLines ++ [line] }
  | format {m : Captures} (hm : MEDIA_FORMAT_REGEX.fullMatch line = some m)
      (hmap : ¬ (RTP_MAP_REGEX.fullMatch line).isSome = true) :
      Step line r { r with currentFormatLines := r.currentFormatLines ++ [line] }
  | iceOther {m : Captures} (hm : ICE_OTHER_REGEX.fullMatch line = some m)
      (hufrag : ICE_UFRAG_REGEX.fullMatch line = none) (hpwd : ICE_PWD_REGEX.fullMatch line = none) :
      Step line r { r with media := { r.media with iceOtherLines := r.media.iceOtherLines ++ [line] } }
  | rtcpOther {m : Captures} (hm : RTCP_OTHER_REGEX.fullMatch line = some m) :
      Step line r { r with media := { r.media with rtcpOtherLines := r.media.rtcpOtherLines ++ [line] } }
  | other (h : ∀ b ∈ mediaBranches, b.1.fullMatch line = none) :
      Step line r { r with media := { r.media with otherLines := r.media.otherLines ++ [line] } }

variable {r r' : MediaReading} {line : String}

theorem readLine_step (h : r.readLine line = .ok r') : Step line r r' := by
  unfold readLine at h
  cases hufrag : ICE_UFRAG_REGEX.fullMatch line with
  | some m =>
      obtain ⟨p, hp, hprefix⟩ := exists_head hufrag
      obtain rfl := List.mem_singleton.mp hp
      rw [firstMatch_eq (i := 3) (q := "a=ice-ufrag:") rfl rfl hprefix hufrag] at h
      obtain rfl := Except.ok.inj h
      exact .iceUfrag hufrag
  | none =>
      cases hpwd : ICE_PWD_REGEX.fullMatch line with
      | some m =>
          obtain ⟨p, hp, hprefix⟩ := exists_head hpwd
          obtain rfl := List.mem_singleton.mp hp
          rw [firstMatch_eq (i := 4) (q := "a=ice-pwd:") rfl rfl hprefix hpwd] at h
          obtain rfl := Except.ok.inj h
          exact .icePwd hpwd
      | none =>
          cases hfirst : firstMatch mediaBranches line with
          | none =>
              rw [hfirst] at h
              obtain rfl := Except.ok.inj h
              exact .other (firstMatch_eq_none_iff.mp hfirst)
          | some b =>
              obtain ⟨branch, m⟩ := b
              rw [hfirst] at h
              obtain ⟨re, hmem, hm⟩ := firstMatch_mem hfirst
              simp only [mediaBranches, List.mem_cons, List.not_mem_nil, or_false, Prod.mk.injEq] at hmem
              rcases hmem with ⟨rfl, rfl⟩ | ⟨rfl, rfl⟩ | ⟨rfl, rfl⟩ | ⟨rfl, rfl⟩ | ⟨rfl, rfl⟩ | ⟨rfl, rfl⟩ |
                ⟨rfl, rfl⟩ | ⟨rfl, rfl⟩ | ⟨rfl, rfl⟩ | ⟨rfl, rfl⟩ | ⟨rfl, rfl⟩ | ⟨rfl, rfl⟩ | ⟨rfl, rfl⟩ | ⟨rfl, rfl⟩
              · obtain ⟨type, htype, h⟩ := Except.of_bind_ok h
                obtain ⟨port, hport, h⟩ := Except.of_bind_ok h
                obtain rfl := Except.ok.inj h
                exact .mLine hm htype hport
              · obtain rfl := Except.ok.inj h
                exact .connectionData hm
              · obtain ⟨c, hc, rfl⟩ := Except.of_map_ok h
                exact .rtcpConfiguration hm hc
              · obtain rfl := Except.ok.inj h
                exact .iceUfrag hm
              · obtain rfl := Except.ok.inj h
                exact .icePwd hm
              · obtain rfl := Except.ok.inj h
                exact .mid hm
              · obtain ⟨e, he, rfl⟩ := Except.of_map_ok h
                exact .extension hm he
              · obtain rfl := Except.ok.inj h
                exact .msid hm
              · obtain ⟨d, hd, rfl⟩ := Except.of_map_ok h
                exact .direction hm hd
              · obtain rfl := Except.ok.inj h
                exact .iceCandidate hm
              · obtain rfl := Except.ok.inj h
                exact .ssrc hm
              · dsimp only at h
                split at h
                next hmap =>
                  obtain ⟨r₁, hr₁, h⟩ := Except.of_bind_ok h
                  obtain rfl := Except.ok.inj h
                  exact .rtpmap hm hmap hr₁
                next hmap =>
                  obtain rfl := Except.ok.inj h
                  exact .format hm hmap
              · obtain rfl := Except.ok.inj h
                exact .iceOther hm hufrag hpwd
              · obtain rfl := Except.ok.inj h
                exact .rtcpOther hm

end MediaReading

end Sdp

end Scallop
