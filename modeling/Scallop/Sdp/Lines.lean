import Scallop.Sdp.Text

/-!
# Lines that read back

* `Over` : a string over the class of a pattern;
* `WellFormed` : every field of a part is one that the pattern of its line takes;
* `fullMatch_line` : what the groups of its pattern take of a printed line;
* `ofLine_line`, `ofLines_lines` : the parts of a description read back as they were printed.
-/

namespace Scallop

namespace Sdp

open Regex

variable {p : Char → Bool} {s : String} {n : Nat} {m : Captures} {rest : List Char}

/-! ## Strings and numbers -/

/-- A string of characters of a class, with one at least. -/
def Over (p : Char → Bool) (s : String) : Prop := s ≠ "" ∧ ∀ c ∈ s.toList, p c = true

def NoNul (s : String) : Prop := '\x00' ∉ s.toList

instance : Decidable (Over p s) :=
  decidable_of_iff (s ≠ "" ∧ s.toList.all p = true) (and_congr_right fun _ => List.all_eq_true)

instance : Decidable (NoNul s) := inferInstanceAs (Decidable (¬ _))

theorem eats_over (h : Over p s) (hrest : Stops p rest) :
    Eats (plus (one p)) (s.toList ++ rest) m m rest :=
  eats_plus_one (fun hnil => h.1 (String.toList_inj.mp hnil)) h.2 hrest

theorem Over.mono {q : Char → Bool} (h : Over p s) (hpq : ∀ c, p c = true → q c = true) :
    Over q s := ⟨h.1, fun c hc => hpq c (h.2 c hc)⟩

theorem Over.noNul (h : Over p s) (hp : p '\x00' = false) : NoNul s := by
  intro hc
  rw [h.2 _ hc] at hp
  cases hp

theorem cStr_eq (h : NoNul s) : cStr s = s := by
  have hall : s.toList.takeWhile (· ≠ '\x00') = s.toList := by
    refine List.takeWhile_eq_self_iff.mpr fun c hc => decide_eq_true ?_
    rintro rfl
    exact h hc
  unfold cStr
  rw [hall, String.ofList_toList]

theorem toList_toString (n : Nat) : (toString n).toList = Nat.toDigits 10 n := by
  rw [Nat.toString_eq_repr, Nat.toList_repr]

theorem over_toString (n : Nat) : Over Char.isDigit (toString n) := by
  constructor
  · intro h
    have hnil := congrArg String.toList h
    rw [toList_toString] at hnil
    exact Nat.toDigits_ne_nil hnil
  · rw [toList_toString]
    exact fun c hc => Nat.isDigit_of_mem_toDigits (by decide) (by decide) hc

theorem stoul_toString (h : n < 2 ^ 64) : stoul (toString n) = .ok n := by
  unfold stoul
  rw [toList_toString, leadingNat_toDigits]
  exact if_pos h

theorem stops_append {q : String} {c : Char} (hq : q.toList.head? = some c) (hc : p c = false) :
    Stops p (q.toList ++ rest) := by
  intro d hd
  rw [List.head?_append, hq] at hd
  obtain rfl := Option.some.inj hd
  exact hc

theorem eats_digits (n : Nat) (hrest : Stops Char.isDigit rest) :
    Eats digits ((toString n).toList ++ rest) m m rest := eats_over (over_toString n) hrest

theorem eats_upTo_digits {k : Nat} (h : n < 10 ^ (k + 1)) (hrest : Stops Char.isDigit rest) :
    Eats (upTo digit k) ((toString n).toList ++ rest) m m rest := by
  have hover := over_toString n
  refine eats_upTo_one (fun hnil => hover.1 (String.toList_inj.mp hnil)) hover.2 ?_ hrest
  rw [toList_toString]
  exact (Nat.length_toDigits_le_iff (by decide) (Nat.succ_pos k)).mpr h

/-- A class without line ends is part of what `.` stands for. -/
theorem isDot_of {c : Char} (hn : p '\n' = false) (hr : p '\r' = false) (hc : p c = true) :
    isDot c = true := by
  have hne (d : Char) (hd : p d = false) : c ≠ d := by
    rintro rfl
    rw [hc] at hd
    cases hd
  exact (Bool.and_eq_true _ _).mpr ⟨decide_eq_true (hne _ hn), decide_eq_true (hne _ hr)⟩

theorem Over.isDot (h : Over p s) (hn : p '\n' = false) (hr : p '\r' = false) : Over isDot s :=
  h.mono fun _ => isDot_of hn hr

theorem Over.append {t : String} (h : Over p s) (ht : ∀ c ∈ t.toList, p c = true) :
    Over p (s ++ t) := by
  refine ⟨fun hnil => h.1 ?_, fun c hc => ?_⟩
  · have hlist := congrArg String.toList hnil
    rw [String.toList_append] at hlist
    exact String.toList_inj.mp (List.append_eq_nil_iff.mp hlist).1
  · rw [String.toList_append] at hc
    exact (List.mem_append.mp hc).elim (h.2 c) (ht c)

@[simp] theorem get_cons (i j : Nat) (s : String) (m : Captures) :
    Captures.get ((i, s.toList) :: m) j = if j = i then s else m.get j := by
  unfold Captures.get
  rw [List.lookup_cons]
  by_cases h : j = i
  · rw [if_pos h, beq_iff_eq.mpr h]
    exact String.ofList_toList
  · rw [if_neg h, beq_eq_false_iff_ne.mpr h]

/-! ## Session lines -/

structure Origin.WellFormed (o : Origin) : Prop where
  userName : Over isUserName o.userName
  sessionId : o.sessionId < 2 ^ 64
  sessionVersion : o.sessionVersion < 2 ^ 64
  netType : Over isWord o.netType
  addrType : Over isWord o.addrType
  unicastAddr : Over isUnicastAddr o.unicastAddr

theorem Origin.toList_line {o : Origin} (h : o.WellFormed) : o.line.toList =
    "o=".toList ++ (o.userName.toList ++ (" ".toList ++ ((toString o.sessionId).toList ++
      (" ".toList ++ ((toString o.sessionVersion).toList ++ (" ".toList ++ (o.netType.toList ++
      (" ".toList ++ (o.addrType.toList ++ (" ".toList ++ (o.unicastAddr.toList ++ []))))))))))) := by
  unfold Origin.line
  rw [cStr_eq (h.userName.noNul rfl), cStr_eq (h.netType.noNul rfl), cStr_eq (h.addrType.noNul rfl),
    cStr_eq (h.unicastAddr.noNul rfl)]
  simp only [String.toList_append, List.append_assoc, List.append_nil]

theorem Origin.fullMatch_line {o : Origin} (h : o.WellFormed) : O_LINE_REGEX.fullMatch o.line =
    some [(6, o.unicastAddr.toList), (5, o.addrType.toList), (4, o.netType.toList),
      (3, (toString o.sessionVersion).toList), (2, (toString o.sessionId).toList),
      (1, o.userName.toList)] := by
  apply Eats.fullMatch
  rw [Origin.toList_line h]
  exact (((((((((((eats_text "o=").seq
    (eats_over h.userName (stops_append rfl rfl)).group).seq (eats_text " ")).seq
    (eats_digits _ (stops_append rfl rfl)).group).seq (eats_text " ")).seq
    (eats_digits _ (stops_append rfl rfl)).group).seq (eats_text " ")).seq
    (eats_over h.netType (stops_append rfl rfl)).group).seq (eats_text " ")).seq
    (eats_over h.addrType (stops_append rfl rfl)).group).seq (eats_text " ")).seq
    (eats_over h.unicastAddr stops_nil).group

theorem Origin.ofLine_line {o : Origin} (h : o.WellFormed) : Origin.ofLine o.line = .ok o := by
  unfold Origin.ofLine
  rw [Origin.fullMatch_line h]
  simp only [get_cons, Nat.reduceEqDiff, if_false, if_true, stoul_toString h.sessionId,
    stoul_toString h.sessionVersion, Except.bind_ok]
  rfl

structure Timing.WellFormed (t : Timing) : Prop where
  start : t.start < 2 ^ 64
  stop : t.stop < 2 ^ 64

theorem Timing.toList_line (t : Timing) : t.line.toList =
    "t=".toList ++ ((toString t.start).toList ++ (" ".toList ++
      ((toString t.stop).toList ++ []))) := by
  simp only [Timing.line, String.toList_append, List.append_assoc, List.append_nil]

theorem Timing.fullMatch_line (t : Timing) : T_LINE_REGEX.fullMatch t.line =
    some [(2, (toString t.stop).toList), (1, (toString t.start).toList)] := by
  apply Eats.fullMatch
  rw [Timing.toList_line t]
  exact (((eats_text "t=").seq (eats_digits _ (stops_append rfl rfl)).group).seq
    (eats_text " ")).seq (eats_digits _ stops_nil).group

theorem Timing.ofLine_line {t : Timing} (h : t.WellFormed) : Timing.ofLine t.line = .ok t := by
  unfold Timing.ofLine
  rw [Timing.fullMatch_line]
  simp only [get_cons, Nat.reduceEqDiff, if_false, if_true, stoul_toString h.start,
    stoul_toString h.stop, Except.bind_ok]
  rfl

/-! ## Lines of media sections -/

structure ConnectionData.WellFormed (c : ConnectionData) : Prop where
  netType : c.netType = "IN"
  addrType : c.addrType ∈ ["IP4", "IP6"]
  connectionAddress : Over isDot c.connectionAddress
  noNul : NoNul c.connectionAddress

theorem ConnectionData.toList_line {c : ConnectionData} (h : c.WellFormed) : c.line.toList =
    "c=".toList ++ ("IN".toList ++ (" ".toList ++ (c.addrType.toList ++ (" ".toList ++
      (c.connectionAddress.toList ++ []))))) := by
  have haddr : cStr c.addrType = c.addrType := by
    rcases List.mem_pair.mp h.addrType with heq | heq <;> rw [heq] <;> rfl
  unfold ConnectionData.line
  rw [haddr, h.netType, cStr_eq h.noNul, show cStr "IN" = "IN" from rfl]
  simp only [String.toList_append, List.append_assoc, List.append_nil]

theorem ConnectionData.fullMatch_line {c : ConnectionData} (h : c.WellFormed) :
    C_LINE_REGEX.fullMatch c.line = some [(3, c.connectionAddress.toList), (2, c.addrType.toList),
      (1, "IN".toList)] := by
  apply Eats.fullMatch
  rw [ConnectionData.toList_line h]
  exact (((((eats_text "c=").seq (eats_text "IN").group).seq (eats_text " ")).seq
    (eats_anyOf h.addrType (by decide)).group).seq (eats_text " ")).seq
    (eats_over h.connectionAddress stops_nil).group

theorem ConnectionData.ofLine_line {c : ConnectionData} (h : c.WellFormed) :
    ConnectionData.ofLine c.line = c := by
  unfold ConnectionData.ofLine
  rw [ConnectionData.fullMatch_line h]
  simp only [get_cons, Nat.reduceEqDiff, if_false, if_true]
  rw [← h.netType]

def Octet (s : String) : Prop := Over Char.isDigit s ∧ s.toList.length ≤ 3

instance : Decidable (Octet s) := inferInstanceAs (Decidable (_ ∧ _))

theorem eats_octet (h : Octet s) (hrest : Stops Char.isDigit rest) :
    Eats octet (s.toList ++ rest) m m rest :=
  eats_upTo_one (fun hnil => h.1.1 (String.toList_inj.mp hnil)) h.1.2 h.2 hrest

structure ICECandidate.WellFormed (c : ICECandidate) : Prop where
  foundation : Over isFoundation c.foundation
  componentId : c.componentId < 1000
  protocol : c.protocol ∈ ["tcp", "udp"]
  priority : c.priority < 2 ^ 32
  address : ∃ a b d e, Octet a ∧ Octet b ∧ Octet d ∧ Octet e ∧
    c.address = a ++ "." ++ b ++ "." ++ d ++ "." ++ e
  type : c.type ∈ ["host", "srflx", "prflx", "relay"]
  remainder : ∀ d ∈ c.remainder.toList, isDot d = true

/-- The pattern of an address takes it whole. -/
theorem ICECandidate.WellFormed.eats_address {c : ICECandidate} (h : c.WellFormed)
    (hrest : Stops Char.isDigit rest) :
    Eats (octet ++ text "." ++ octet ++ text "." ++ octet ++ text "." ++ octet)
      (c.address.toList ++ rest) m m rest := by
  obtain ⟨a, b, d, e, ha, hb, hd, he, haddr⟩ := h.address
  rw [haddr]
  simp only [String.toList_append, List.append_assoc]
  exact ((((((eats_octet ha (stops_append rfl rfl)).seq (eats_text ".")).seq
    (eats_octet hb (stops_append rfl rfl))).seq (eats_text ".")).seq
    (eats_octet hd (stops_append rfl rfl))).seq (eats_text ".")).seq (eats_octet he hrest)

theorem ICECandidate.WellFormed.noNul {c : ICECandidate} (h : c.WellFormed) : NoNul c.address := by
  obtain ⟨a, b, d, e, ha, hb, hd, he, haddr⟩ := h.address
  have hdot : '\x00' ∉ ".".toList := by decide
  unfold NoNul
  rw [haddr]
  simp only [String.toList_append, List.mem_append, not_or]
  exact ⟨⟨⟨⟨⟨⟨ha.1.noNul rfl, hdot⟩, hb.1.noNul rfl⟩, hdot⟩, hd.1.noNul rfl⟩, hdot⟩, he.1.noNul rfl⟩

/-- What stands before the type of a candidate. -/
theorem ICECandidate.toList_line {c : ICECandidate} (h : c.WellFormed) : c.line.toList =
    "a=candidate:".toList ++ (c.foundation.toList ++ (" ".toList ++
      ((toString c.componentId).toList ++ (" ".toList ++ (c.protocol.toList ++ (" ".toList ++
      ((toString c.priority).toList ++ (" ".toList ++ (c.address.toList ++ (" ".toList ++
      ((toString c.port.toNat).toList ++ (" typ ".toList ++ (c.type.toList ++
      ((if c.remainder ≠ "" then " ".toList else []) ++ (c.remainder.toList ++ []))))))))))))))) := by
  have hprot : cStr c.protocol = c.protocol := by
    rcases List.mem_pair.mp h.protocol with heq | heq <;> rw [heq] <;> rfl
  have htype : cStr c.type = c.type := by
    have hmem := h.type
    simp only [List.mem_cons, List.not_mem_nil, or_false] at hmem
    rcases hmem with heq | heq | heq | heq <;> rw [heq] <;> rfl
  unfold ICECandidate.line
  rw [cStr_eq (h.foundation.noNul rfl), hprot, htype, cStr_eq h.noNul, Nat.mod_eq_of_lt h.priority]
  dsimp only
  split
  next => simp only [String.toList_append, List.append_assoc, List.append_nil]
  next hr =>
    have hnil : ("" : String).toList = [] := rfl
    rw [not_not.mp hr, hnil]
    simp only [String.toList_append, List.append_assoc, List.append_nil]

theorem ICECandidate.fullMatch_line {c : ICECandidate} (h : c.WellFormed) :
    ICE_CANDIDATE_REGEX.fullMatch c.line = some [(8, c.remainder.toList), (7, c.type.toList),
      (6, (toString c.port.toNat).toList), (5, c.address.toList), (4, (toString c.priority).toList),
      (3, c.protocol.toList), (2, (toString c.componentId).toList), (1, c.foundation.toList)] := by
  have hport : c.port.toNat < 10 ^ (4 + 1) := Nat.lt_trans c.port.toNat_lt (by decide)
  have hremainder (m : Captures) : Eats (opt space ++ group 8 (star (one isDot)))
      ((if c.remainder ≠ "" then " ".toList else []) ++ (c.remainder.toList ++ [])) m
      ((8, c.remainder.toList) :: m) [] := by
    refine Eats.seq (show Eats _ _ m m (c.remainder.toList ++ []) from ?_)
      (eats_star_one h.remainder stops_nil).group
    split
    next => exact (eats_one rfl).opt
    next hr =>
      rw [not_not.mp hr]
      exact eats_opt_none refuses_one_nil
  apply Eats.fullMatch
  rw [ICECandidate.toList_line h]
  exact ((((((((((((((eats_text "a=candidate:").seq
    (eats_over h.foundation (stops_append rfl rfl)).group).seq (eats_text " ")).seq
    (eats_upTo_digits h.componentId (stops_append rfl rfl)).group).seq (eats_text " ")).seq
    (eats_anyOf h.protocol (by decide)).group).seq (eats_text " ")).seq
    (eats_digits _ (stops_append rfl rfl)).group).seq (eats_text " ")).seq
    (h.eats_address (stops_append rfl rfl)).group).seq (eats_text " ")).seq
    (eats_upTo_digits hport (stops_append rfl rfl)).group).seq (eats_text " typ ")).seq
    (eats_anyOf h.type (by decide)).group).seq (hremainder _)

theorem ICECandidate.ofLine_line {c : ICECandidate} (h : c.WellFormed) :
    ICECandidate.ofLine c.line = .ok c := by
  have hid : c.componentId < 2 ^ 64 := Nat.lt_trans h.componentId (by decide)
  have hpriority : c.priority < 2 ^ 64 := Nat.lt_trans h.priority (by decide)
  have hport : c.port.toNat < 2 ^ 64 := Nat.lt_trans c.port.toNat_lt (by decide)
  unfold ICECandidate.ofLine
  rw [ICECandidate.fullMatch_line h]
  simp only [get_cons, Nat.reduceEqDiff, if_false, if_true, stoul_toString hid,
    stoul_toString hpriority, stoul_toString hport, Except.bind_ok, UInt16.ofNat_toNat]
  rfl

structure RTPExtension.WellFormed (e : RTPExtension) : Prop where
  identifier : e.identifier < 2 ^ 32
  uri : Over isDot e.uri
  noNul : NoNul e.uri

theorem RTPExtension.toList_line {e : RTPExtension} (h : e.WellFormed) : e.line.toList =
    "a=extmap:".toList ++ ((toString e.identifier).toList ++ (" ".toList ++
      (e.uri.toList ++ []))) := by
  unfold RTPExtension.line
  rw [cStr_eq h.noNul]
  simp only [String.toList_append, List.append_assoc, List.append_nil]

theorem RTPExtension.fullMatch_line {e : RTPExtension} (h : e.WellFormed) :
    EXTMAP_REGEX.fullMatch e.line = some [(2, e.uri.toList), (1, (toString e.identifier).toList)] := by
  apply Eats.fullMatch
  rw [RTPExtension.toList_line h]
  exact (((eats_text "a=extmap:").seq (eats_digits _ (stops_append rfl rfl)).group).seq
    (eats_text " ")).seq (eats_over h.uri stops_nil).group

theorem RTPExtension.ofLine_line {e : RTPExtension} (h : e.WellFormed) :
    RTPExtension.ofLine e.line = .ok e := by
  have hid : e.identifier < 2 ^ 64 := Nat.lt_trans h.identifier (by decide)
  unfold RTPExtension.ofLine
  rw [RTPExtension.fullMatch_line h]
  simp only [get_cons, Nat.reduceEqDiff, if_false, if_true, stoul_toString hid, Except.map,
    Nat.mod_eq_of_lt h.identifier]

structure MediaStreamIdentifier.WellFormed (i : MediaStreamIdentifier) : Prop where
  identifier : Over isNoSpace i.identifier
  appData : ∀ c ∈ i.appData.toList, isNoSpace c = true

theorem MediaStreamIdentifier.toList_line (i : MediaStreamIdentifier) : i.line.toList =
    "a=msid:".toList ++ (i.identifier.toList ++
      (if i.appData ≠ "" then " ".toList ++ (i.appData.toList ++ []) else [])) := by
  have hnil : ("" : String).toList = [] := rfl
  unfold MediaStreamIdentifier.line
  split <;> simp only [String.toList_append, hnil, List.append_assoc, List.append_nil]

theorem MediaStreamIdentifier.fullMatch_line {i : MediaStreamIdentifier} (h : i.WellFormed) :
    MSID_REGEX.fullMatch i.line = some
      ((if i.appData ≠ "" then [(2, i.appData.toList)] else []) ++ [(1, i.identifier.toList)]) := by
  apply Eats.fullMatch
  rw [MediaStreamIdentifier.toList_line]
  split
  next hne =>
    exact ((eats_text "a=msid:").seq (eats_over h.identifier (stops_append rfl rfl)).group).seq
      ((show Eats space (" ".toList ++ _) _ _ _ from eats_one rfl).seq
        (eats_over ⟨hne, h.appData⟩ stops_nil).group).opt
  next =>
    exact ((eats_text "a=msid:").seq (eats_over h.identifier stops_nil).group).seq
      (eats_opt_none refuses_one_nil.seq)

theorem MediaStreamIdentifier.ofLine_line {i : MediaStreamIdentifier} (h : i.WellFormed) :
    MediaStreamIdentifier.ofLine i.line = i := by
  unfold MediaStreamIdentifier.ofLine
  rw [MediaStreamIdentifier.fullMatch_line h]
  dsimp only
  obtain ⟨identifier, appData⟩ := i
  by_cases hnil : appData = ""
  · subst hnil
    exact congrArg (MediaStreamIdentifier.mk · "") String.ofList_toList
  · rw [if_pos hnil, List.singleton_append]
    simp only [get_cons, Nat.reduceEqDiff, if_false, if_true]

/-- Either the address is given whole, or not at all. -/
structure RTCPConfiguration.WellFormed (c : RTCPConfiguration) : Prop where
  address : (c.netType = "" ∧ c.addrType = "" ∧ c.connectionAddress = "") ∨
    (c.netType = "IN" ∧ c.addrType = "IP4" ∧ Over isDot c.connectionAddress)

theorem RTCPConfiguration.toList_line (c : RTCPConfiguration) : c.line.toList =
    "a=rtcp:".toList ++ ((toString c.port.toNat).toList ++
      (if c.netType ≠ "" ∧ c.addrType ≠ "" ∧ c.connectionAddress ≠ "" then
        " ".toList ++ (c.netType.toList ++ (" ".toList ++ (c.addrType.toList ++ (" ".toList ++
          (c.connectionAddress.toList ++ []))))) else [])) := by
  have hnil : ("" : String).toList = [] := rfl
  unfold RTCPConfiguration.line
  split <;> simp only [String.toList_append, hnil, List.append_assoc, List.append_nil]

theorem RTCPConfiguration.ofLine_line {c : RTCPConfiguration} (h : c.WellFormed) :
    RTCPConfiguration.ofLine c.line = .ok c ∧
      ∃ m, RTCP_REGEX.fullMatch c.line = some m := by
  have hport : c.port.toNat < 2 ^ 64 := Nat.lt_trans c.port.toNat_lt (by decide)
  obtain ⟨port, netType, addrType, connectionAddress⟩ := c
  dsimp only at hport
  unfold RTCPConfiguration.ofLine
  rcases h.address with ⟨rfl, rfl, rfl⟩ | ⟨rfl, rfl, haddr⟩
  · have hm : RTCP_REGEX.fullMatch (RTCPConfiguration.line ⟨port, "", "", ""⟩) =
        some [(1, (toString port.toNat).toList)] := by
      apply Eats.fullMatch
      rw [RTCPConfiguration.toList_line, if_neg fun hne => hne.1 rfl]
      exact ((eats_text "a=rtcp:").seq (eats_digits _ stops_nil).group).seq
        (eats_opt_none (refuses_text_nil (by decide)).seq.seq.seq.seq.seq)
    rw [hm]
    refine ⟨?_, _, rfl⟩
    simp only [get_cons, if_true, stoul_toString hport, Except.map, UInt16.ofNat_toNat]
    rfl
  · have hm : RTCP_REGEX.fullMatch (RTCPConfiguration.line ⟨port, "IN", "IP4", connectionAddress⟩) =
        some [(4, connectionAddress.toList), (3, "IP4".toList), (2, "IN".toList),
          (1, (toString port.toNat).toList)] := by
      apply Eats.fullMatch
      rw [RTCPConfiguration.toList_line,
        if_pos ⟨show "IN" ≠ "" by decide, show "IP4" ≠ "" by decide, haddr.1⟩]
      exact ((eats_text "a=rtcp:").seq (eats_digits _ (stops_append rfl rfl)).group).seq
        ((((((eats_text " ").seq (eats_text "IN").group).seq (eats_text " ")).seq
          (eats_text "IP4").group).seq (eats_text " ")).seq (eats_over haddr stops_nil).group).opt
    rw [hm]
    refine ⟨?_, _, rfl⟩
    simp only [get_cons, Nat.reduceEqDiff, if_false, if_true, stoul_toString hport, Except.map,
      UInt16.ofNat_toNat]

/-! ## Formats -/

structure MediaFormat.WellFormed (f : MediaFormat) : Prop where
  pt : f.pt < 2 ^ 32
  codec : Over isWord f.codec
  clockRate : f.clockRate < 2 ^ 32
  channels : ∀ n ∈ f.channels, n < 2 ^ 32
  fbTypes : ∀ fbType ∈ f.fbTypes, Over isFbType fbType ∧ Over isDot fbType
  fmtParams : ∀ fmtParam ∈ f.fmtParams, Over isDot fmtParam ∧ NoNul fmtParam

/-- A format that may also have no codec, as one that is read of lines none of which gives a codec. -/
structure MediaFormat.Readable (f : MediaFormat) : Prop where
  pt : f.pt < 2 ^ 32
  codec : Over isWord f.codec ∨ f.pt = 0 ∧ f.codec = "" ∧ f.clockRate = 0 ∧ f.channels = none
  clockRate : f.clockRate < 2 ^ 32
  channels : ∀ n ∈ f.channels, n < 2 ^ 32
  fbTypes : ∀ fbType ∈ f.fbTypes, Over isFbType fbType ∧ Over isDot fbType
  fmtParams : ∀ fmtParam ∈ f.fmtParams, Over isDot fmtParam ∧ NoNul fmtParam

theorem MediaFormat.WellFormed.readable {f : MediaFormat} (h : f.WellFormed) : f.Readable :=
  ⟨h.pt, .inl h.codec, h.clockRate, h.channels, h.fbTypes, h.fmtParams⟩

theorem MediaFormat.Readable.noNul {f : MediaFormat} (h : f.Readable) : NoNul f.codec := by
  rcases h.codec with hcodec | ⟨-, hcodec, -⟩
  · exact hcodec.noNul rfl
  · rw [hcodec]
    exact List.not_mem_nil

def MediaFormat.channelsText (f : MediaFormat) : String :=
  match f.channels with
  | some channels => "/" ++ toString channels
  | none => ""

def MediaFormat.rtpmap (f : MediaFormat) : String :=
  "a=rtpmap:" ++ toString f.pt ++ " " ++ f.codec ++ "/" ++ toString f.clockRate ++ f.channelsText

theorem MediaFormat.lines_eq {f : MediaFormat} (h : f.Readable) : f.lines =
    f.rtpmap :: (f.fbTypes.map (fun fbType => "a=rtcp-fb:" ++ toString f.pt ++ " " ++ fbType) ++
      f.fmtParams.map fun fmtParam => "a=fmtp:" ++ toString f.pt ++ " " ++ fmtParam) := by
  have hfb : f.fbTypes.map (fun fbType => "a=rtcp-fb:" ++ toString f.pt ++ " " ++ cStr fbType) =
      f.fbTypes.map fun fbType => "a=rtcp-fb:" ++ toString f.pt ++ " " ++ fbType :=
    List.map_congr_left fun fbType hmem => by
      rw [cStr_eq ((h.fbTypes fbType hmem).1.noNul rfl)]
  have hfmt : f.fmtParams.map (fun fmtParam => "a=fmtp:" ++ toString f.pt ++ " " ++ cStr fmtParam) =
      f.fmtParams.map fun fmtParam => "a=fmtp:" ++ toString f.pt ++ " " ++ fmtParam :=
    List.map_congr_left fun fmtParam hmem => by rw [cStr_eq (h.fmtParams fmtParam hmem).2]
  unfold MediaFormat.lines MediaFormat.rtpmap MediaFormat.channelsText
  rw [cStr_eq h.noNul, hfb, hfmt]
  cases f.channels with
  | none => simp
  | some n => simp [String.append_assoc]

theorem MediaFormat.toList_rtpmap (f : MediaFormat) : f.rtpmap.toList =
    "a=rtpmap:".toList ++ ((toString f.pt).toList ++ (" ".toList ++ (f.codec.toList ++
      ("/".toList ++ ((toString f.clockRate).toList ++ f.channelsText.toList))))) := by
  simp only [MediaFormat.rtpmap, String.toList_append, List.append_assoc]

theorem MediaFormat.fullMatch_rtpmap {f : MediaFormat} (h : Over isWord f.codec) :
    RTP_MAP_REGEX.fullMatch f.rtpmap = some
      ((f.channels.map fun channels => (4, (toString channels).toList)).toList ++
        [(3, (toString f.clockRate).toList), (2, f.codec.toList), (1, (toString f.pt).toList)]) := by
  apply Eats.fullMatch
  rw [MediaFormat.toList_rtpmap]
  unfold MediaFormat.channelsText
  cases f.channels with
  | none =>
      exact ((((((eats_text "a=rtpmap:").seq (eats_digits _ (stops_append rfl rfl)).group).seq
        (eats_text " ")).seq (eats_over h (stops_append rfl rfl)).group).seq
        (eats_text "/")).seq (eats_digits _ stops_nil).group).seq
        (eats_opt_none (refuses_text_nil (by decide)).seq)
  | some n =>
      dsimp only
      rw [String.toList_append, ← List.append_nil (toString n).toList]
      exact ((((((eats_text "a=rtpmap:").seq (eats_digits _ (stops_append rfl rfl)).group).seq
        (eats_text " ")).seq (eats_over h (stops_append rfl rfl)).group).seq
        (eats_text "/")).seq (eats_digits _ (stops_append rfl rfl)).group).seq
        ((eats_text "/").seq (eats_digits _ stops_nil).group.opt).opt

theorem MediaFormat.Readable.over_codec {f : MediaFormat} (h : f.Readable) (hne : f.codec ≠ "") :
    Over isWord f.codec := by
  rcases h.codec with hcodec | ⟨-, hcodec, -⟩
  · exact hcodec
  · exact absurd hcodec hne

theorem MediaFormat.Readable.eq_of_codec {f : MediaFormat} (h : f.Readable) (hempty : f.codec = "") :
    f = { fbTypes := f.fbTypes, fmtParams := f.fmtParams } := by
  rcases h.codec with hcodec | ⟨hpt, -, hrate, hchannels⟩
  · exact absurd hempty hcodec.1
  · obtain ⟨pt, codec, clockRate, channels, fbTypes, fmtParams⟩ := f
    dsimp only at *
    rw [hpt, hempty, hrate, hchannels]

theorem MediaFormat.Readable.rtpmap_eq {f : MediaFormat} (h : f.Readable) (hempty : f.codec = "") :
    f.rtpmap = "a=rtpmap:0 /0" := by
  rw [h.eq_of_codec hempty]
  show "a=rtpmap:" ++ toString 0 ++ " " ++ "" ++ "/" ++ toString 0 ++ "" = "a=rtpmap:0 /0"
  decide

/-- The line of a format without a codec is not read. -/
theorem MediaFormat.readLine_noCodec (f : MediaFormat) : f.readLine "a=rtpmap:0 /0" = .ok f := by
  rfl

theorem MediaFormat.readLine_rtpmap {f : MediaFormat} (h : f.Readable) :
    MediaFormat.readLine {} f.rtpmap = .ok { f with fbTypes := [], fmtParams := [] } := by
  have hlt {n : Nat} (hn : n < 2 ^ 32) : n < 2 ^ 64 := Nat.lt_trans hn (by decide)
  by_cases hempty : f.codec = ""
  · rw [h.rtpmap_eq hempty, h.eq_of_codec hempty]
    exact readLine_noCodec {}
  have hcodec := h.over_codec hempty
  have hmatch := MediaFormat.fullMatch_rtpmap hcodec
  have hchannels := h.channels
  unfold MediaFormat.readLine
  rw [hmatch]
  dsimp only
  obtain ⟨pt, codec, clockRate, channels, fbTypes, fmtParams⟩ := f
  cases channels with
  | none =>
      simp only [Option.map_none, Option.toList_none, List.nil_append, get_cons, Nat.reduceEqDiff,
        if_false, if_true, stoul_toString (hlt h.pt), stoul_toString (hlt h.clockRate),
        Except.bind_ok, Nat.mod_eq_of_lt h.pt, Nat.mod_eq_of_lt h.clockRate]
      rfl
  | some n =>
      have hn := hchannels n rfl
      simp only [Option.map_some, Option.toList_some, List.singleton_append, get_cons,
        Nat.reduceEqDiff, if_false, if_true, stoul_toString (hlt h.pt),
        stoul_toString (hlt h.clockRate), stoul_toString (hlt hn), Except.bind_ok,
        Nat.mod_eq_of_lt h.pt, Nat.mod_eq_of_lt h.clockRate, List.lookup_cons, beq_self_eq_true,
        Except.map, Nat.mod_eq_of_lt hn]
      rfl

/-- A line with a payload type and a value, as the pattern of one of them takes it. -/
theorem fullMatch_attribute {q value : String} (pt : Nat) {r : Regex} {p : Char → Bool}
    (hr : r = text q ++ group 1 digits ++ text " " ++ group 2 (plus (one p))) (hv : Over p value) :
    r.fullMatch (q ++ toString pt ++ " " ++ value) =
      some [(2, value.toList), (1, (toString pt).toList)] := by
  subst hr
  apply Eats.fullMatch
  have hl : (q ++ toString pt ++ " " ++ value).toList =
      q.toList ++ ((toString pt).toList ++ (" ".toList ++ (value.toList ++ []))) := by
    simp only [String.toList_append, List.append_assoc, List.append_nil]
  rw [hl]
  exact (((eats_text q).seq (eats_digits pt (stops_append rfl rfl)).group).seq (eats_text " ")).seq
    (eats_over hv stops_nil).group

theorem prefix_attribute (q value : String) (pt : Nat) :
    q.toList <+: (q ++ toString pt ++ " " ++ value).toList := by
  simp only [String.toList_append, List.append_assoc]
  exact List.prefix_append _ _

theorem MediaFormat.readLine_fbType {g : MediaFormat} {fbType : String} (hpt : g.pt < 2 ^ 32)
    (h : Over isFbType fbType) :
    g.readLine ("a=rtcp-fb:" ++ toString g.pt ++ " " ++ fbType) =
      .ok { g with fbTypes := g.fbTypes ++ [fbType] } := by
  have hlt : g.pt < 2 ^ 64 := Nat.lt_trans hpt (by decide)
  have hm : RTCP_FB_REGEX.fullMatch ("a=rtcp-fb:" ++ toString g.pt ++ " " ++ fbType) = _ :=
    fullMatch_attribute g.pt rfl h
  unfold MediaFormat.readLine
  rw [fullMatch_of_clash (q := "a=rtcp-fb:") rfl (prefix_attribute _ _ _), hm]
  simp only [get_cons, Nat.reduceEqDiff, if_false, if_true, stoul_toString hlt, Except.bind_ok]
  rfl

theorem MediaFormat.readLine_fmtParam {g : MediaFormat} {fmtParam : String} (hpt : g.pt < 2 ^ 32)
    (h : Over isDot fmtParam) :
    g.readLine ("a=fmtp:" ++ toString g.pt ++ " " ++ fmtParam) =
      .ok { g with fmtParams := g.fmtParams ++ [fmtParam] } := by
  have hlt : g.pt < 2 ^ 64 := Nat.lt_trans hpt (by decide)
  have hm : RTP_FMTP_REGEX.fullMatch ("a=fmtp:" ++ toString g.pt ++ " " ++ fmtParam) = _ :=
    fullMatch_attribute g.pt rfl h
  unfold MediaFormat.readLine
  rw [fullMatch_of_clash (q := "a=fmtp:") rfl (prefix_attribute _ _ _),
    fullMatch_of_clash (q := "a=fmtp:") rfl (prefix_attribute _ _ _), hm]
  simp only [get_cons, Nat.reduceEqDiff, if_false, if_true, stoul_toString hlt, Except.bind_ok]
  rfl

theorem MediaFormat.readLine_fbTypes {fbs : List String} (g : MediaFormat) (hpt : g.pt < 2 ^ 32)
    (h : ∀ fbType ∈ fbs, Over isFbType fbType) :
    (fbs.map fun fbType => "a=rtcp-fb:" ++ toString g.pt ++ " " ++ fbType).foldlM
      MediaFormat.readLine g = .ok { g with fbTypes := g.fbTypes ++ fbs } := by
  induction fbs generalizing g with
  | nil =>
      rw [List.append_nil]
      rfl
  | cons fbType fbs ih =>
      rw [List.map_cons, List.foldlM_cons, readLine_fbType hpt (h _ List.mem_cons_self),
        Except.bind_ok, ih { g with fbTypes := g.fbTypes ++ [fbType] } hpt
          fun b hb => h b (List.mem_cons_of_mem _ hb)]
      rw [List.append_assoc, List.singleton_append]

theorem MediaFormat.readLine_fmtParams {fmts : List String} (g : MediaFormat) (hpt : g.pt < 2 ^ 32)
    (h : ∀ fmtParam ∈ fmts, Over isDot fmtParam) :
    (fmts.map fun fmtParam => "a=fmtp:" ++ toString g.pt ++ " " ++ fmtParam).foldlM
      MediaFormat.readLine g = .ok { g with fmtParams := g.fmtParams ++ fmts } := by
  induction fmts generalizing g with
  | nil =>
      rw [List.append_nil]
      rfl
  | cons fmtParam fmts ih =>
      rw [List.map_cons, List.foldlM_cons, readLine_fmtParam hpt (h _ List.mem_cons_self),
        Except.bind_ok, ih { g with fmtParams := g.fmtParams ++ [fmtParam] } hpt
          fun b hb => h b (List.mem_cons_of_mem _ hb)]
      rw [List.append_assoc, List.singleton_append]

theorem MediaFormat.ofLines_lines {f : MediaFormat} (h : f.Readable) :
    MediaFormat.ofLines f.lines = .ok f := by
  have hfb (fbType : String) (hmem : fbType ∈ f.fbTypes) := (h.fbTypes fbType hmem).1
  have hfmt (fmtParam : String) (hmem : fmtParam ∈ f.fmtParams) := (h.fmtParams fmtParam hmem).1
  unfold MediaFormat.ofLines
  rw [MediaFormat.lines_eq h, List.foldlM_cons, MediaFormat.readLine_rtpmap h, Except.bind_ok,
    List.foldlM_append, MediaFormat.readLine_fbTypes { f with fbTypes := [], fmtParams := [] } h.pt
      hfb, Except.bind_ok, List.nil_append]
  exact MediaFormat.readLine_fmtParams { f with fmtParams := [] } h.pt hfmt

/-! ## SSRCs -/

structure SSRCAttributes.WellFormed (s : SSRCAttributes) : Prop where
  cname : Over isSsrcAttr s.cname ∧ Over isDot s.cname
  msid : Over isSsrcAttr s.msid ∧ Over isDot s.msid

structure SSRCAttributes.Readable (s : SSRCAttributes) : Prop where
  cname : ∀ c ∈ s.cname.toList, isSsrcAttr c = true ∧ isDot c = true
  msid : ∀ c ∈ s.msid.toList, isSsrcAttr c = true ∧ isDot c = true

def SSRCAttributes.Bare (s : SSRCAttributes) : Prop := s.cname = "" ∧ s.msid = ""

theorem SSRCAttributes.WellFormed.readable {s : SSRCAttributes} (h : s.WellFormed) : s.Readable :=
  ⟨fun c hc => ⟨h.cname.1.2 c hc, h.cname.2.2 c hc⟩, fun c hc => ⟨h.msid.1.2 c hc, h.msid.2.2 c hc⟩⟩

/-- There is an SSRC, and no other one has its number. -/
structure SSRCDescription.WellFormed (d : SSRCDescription) : Prop where
  some : d.ssrcs ≠ []
  distinct : (d.ssrcs.map (·.ssrc)).Nodup
  ssrcs : ∀ s ∈ d.ssrcs, s.WellFormed

/-- Only the first one with a number has attributes. -/
structure SSRCDescription.Readable (d : SSRCDescription) : Prop where
  first : d.ssrcs.Pairwise fun s t => s.ssrc = t.ssrc → t.Bare
  ssrcs : ∀ s ∈ d.ssrcs, s.Readable

theorem SSRCDescription.WellFormed.readable {d : SSRCDescription} (h : d.WellFormed) : d.Readable := by
  refine ⟨(List.pairwise_map.mp h.distinct).imp ?_, fun s hs => (h.ssrcs s hs).readable⟩
  intro s t hne heq
  exact absurd heq hne

def ssrcLine (n : SSRC) (name value : String) : String :=
  "a=ssrc:" ++ toString n.toNat ++ " " ++ name ++ ":" ++ value

theorem toList_ssrcLine (n : SSRC) (name value : String) : (ssrcLine n name value).toList =
    "a=ssrc:".toList ++ ((toString n.toNat).toList ++ (" ".toList ++ (name.toList ++
      (":".toList ++ (value.toList ++ []))))) := by
  simp only [ssrcLine, String.toList_append, List.append_assoc, List.append_nil]

def optionalLine (n : SSRC) (name value : String) : List String := if value ≠ "" then [ssrcLine n name value] else []

theorem mem_optionalLine {n : SSRC} {name value line : String} :
    line ∈ optionalLine n name value ↔ value ≠ "" ∧ line = ssrcLine n name value := by
  unfold optionalLine
  rw [List.mem_ite_nil_right, List.mem_singleton]

theorem SSRCAttributes.lines_eq {s : SSRCAttributes} (h : s.Readable) :
    s.lines = optionalLine s.ssrc "cname" s.cname ++ optionalLine s.ssrc "msid" s.msid := by
  have hnul {value : String} (hv : ∀ c ∈ value.toList, isSsrcAttr c = true ∧ isDot c = true) : NoNul value := by
    intro hc
    exact absurd (hv _ hc).1 (by decide)
  unfold SSRCAttributes.lines
  rw [cStr_eq (hnul h.cname), cStr_eq (hnul h.msid)]
  simp only [optionalLine, ssrcLine, String.append_assoc]
  rfl

theorem SSRCDescription.lines_ne_nil {d : SSRCDescription} (h : d.WellFormed) : d.lines ≠ [] := by
  obtain ⟨s, ss, hs⟩ := List.exists_cons_of_ne_nil h.some
  have hwf := h.ssrcs s (hs ▸ List.mem_cons_self)
  unfold SSRCDescription.lines
  rw [hs, List.flatMap_cons, SSRCAttributes.lines_eq hwf.readable, optionalLine, if_pos hwf.cname.1.1]
  simp

/-- An attribute is put down for the SSRC that has the number. -/
theorem SSRCDescription.readLine_ssrcLine {name value : String} (hn : name ∈ ["msid", "cname"])
    (hv : Over isSsrcAttr value) (n : SSRC) (ssrcs : List SSRCAttributes) :
    SSRCDescription.readLine ssrcs (ssrcLine n name value) = .ok (SSRCAttributes.update n (fun s =>
      if name = "cname" then { s with cname := value }
      else if name = "msid" then { s with msid := value } else s) ssrcs) := by
  have hlt : n.toNat < 2 ^ 64 := Nat.lt_trans n.toNat_lt (by decide)
  have hm : SSRC_ATTR_REGEX.fullMatch (ssrcLine n name value) =
      Option.some [(3, value.toList), (2, name.toList), (1, (toString n.toNat).toList)] := by
    apply Eats.fullMatch
    rw [toList_ssrcLine]
    exact (((((eats_text "a=ssrc:").seq (eats_digits _ (stops_append rfl rfl)).group).seq
      (eats_text " ")).seq (eats_anyOf hn (by decide)).group).seq (eats_text ":")).seq
      (eats_over hv stops_nil).group
  have hgroup : SSRC_GROUP_REGEX.fullMatch (ssrcLine n name value) = none :=
    fullMatch_of_clash (q := "a=ssrc:") rfl ⟨_, (toList_ssrcLine n name value).symm⟩
  unfold SSRCDescription.readLine
  rw [hgroup, hm]
  simp only [get_cons, Nat.reduceEqDiff, if_false, if_true, stoul_toString hlt, Except.bind_ok,
    UInt32.ofNat_toNat]
  rfl

theorem SSRCAttributes.update_append {n : SSRC} {f : SSRCAttributes → SSRCAttributes}
    {before after : List SSRCAttributes} {s : SSRCAttributes} (hs : s.ssrc = n)
    (hb : ∀ t ∈ before, t.ssrc ≠ n) :
    SSRCAttributes.update n f (before ++ s :: after) = before ++ f s :: after := by
  induction before with
  | nil => exact if_pos hs
  | cons t before ih =>
      show (if t.ssrc = n then f t :: (before ++ s :: after)
        else t :: SSRCAttributes.update n f (before ++ s :: after)) = _
      rw [if_neg (hb t List.mem_cons_self), ih fun u hu => hb u (List.mem_cons_of_mem _ hu)]
      rfl

theorem SSRCDescription.readLine_optionalLine {name value : String} (hn : name ∈ ["msid", "cname"])
    (hv : ∀ c ∈ value.toList, isSsrcAttr c = true ∧ isDot c = true) {n : SSRC} {ssrcs ssrcs' : List SSRCAttributes}
    (hnone : value = "" → ssrcs' = ssrcs) (hsome : value ≠ "" → SSRCAttributes.update n (fun s =>
      if name = "cname" then { s with cname := value }
      else if name = "msid" then { s with msid := value } else s) ssrcs = ssrcs') :
    (optionalLine n name value).foldlM SSRCDescription.readLine ssrcs = .ok ssrcs' := by
  unfold optionalLine
  by_cases hvalue : value = ""
  · rw [if_neg (not_not.mpr hvalue), hnone hvalue]
    rfl
  · rw [if_pos hvalue, List.foldlM_cons, readLine_ssrcLine hn ⟨hvalue, fun c hc => (hv c hc).1⟩, hsome hvalue]
    rfl

/-- The attributes of an SSRC that has none so far. -/
theorem SSRCDescription.readLine_lines {s : SSRCAttributes} (h : s.Readable) {before after : List SSRCAttributes}
    (hb : ∀ t ∈ before, t.ssrc = s.ssrc → s.Bare) :
    s.lines.foldlM SSRCDescription.readLine (before ++ { ssrc := s.ssrc } :: after) = .ok (before ++ s :: after) := by
  have hupdate (hbare : ¬ s.Bare) (t : SSRCAttributes) (ht : t.ssrc = s.ssrc) (f : SSRCAttributes → SSRCAttributes) :
      SSRCAttributes.update s.ssrc f (before ++ t :: after) = before ++ f t :: after :=
    SSRCAttributes.update_append ht fun u hu hsame => hbare (hb u hu hsame)
  have hcname : (optionalLine s.ssrc "cname" s.cname).foldlM SSRCDescription.readLine
      (before ++ { ssrc := s.ssrc } :: after) = .ok (before ++ { ssrc := s.ssrc, cname := s.cname } :: after) :=
    SSRCDescription.readLine_optionalLine (by decide) h.cname (fun hnone => by rw [hnone])
      fun hsome => hupdate (fun hbare => hsome hbare.1) { ssrc := s.ssrc } rfl _
  rw [SSRCAttributes.lines_eq h, List.foldlM_append, hcname, Except.bind_ok]
  refine SSRCDescription.readLine_optionalLine (by decide) h.msid (fun hnone => ?_) fun hsome =>
    hupdate (fun hbare => hsome hbare.2) { ssrc := s.ssrc, cname := s.cname } rfl _
  obtain ⟨ssrc, cname, msid⟩ := s
  dsimp only at hnone
  rw [hnone]

/-- The attributes of SSRCs that have been numbered. -/
theorem SSRCDescription.readLine_flatMap {before after : List SSRCAttributes}
    (hfirst : (before ++ after).Pairwise fun s t => s.ssrc = t.ssrc → t.Bare) (h : ∀ s ∈ after, s.Readable) :
    (after.flatMap SSRCAttributes.lines).foldlM SSRCDescription.readLine
      (before ++ after.map fun s => { ssrc := s.ssrc }) = .ok (before ++ after) := by
  induction after generalizing before with
  | nil => rfl
  | cons s after ih =>
      have hb (t : SSRCAttributes) (ht : t ∈ before) : t.ssrc = s.ssrc → s.Bare :=
        (List.pairwise_append.mp hfirst).2.2 t ht s List.mem_cons_self
      rw [List.flatMap_cons, List.foldlM_append, List.map_cons,
        SSRCDescription.readLine_lines (h s List.mem_cons_self) hb, Except.bind_ok]
      rw [List.append_cons] at hfirst ⊢
      rw [List.append_cons before s after]
      exact ih hfirst fun t ht => h t (List.mem_cons_of_mem _ ht)

def numbers (ns : List Nat) : String := joinStrings (ns.map toString)

def moreNumbers (ns : List Nat) : List Char :=
  ns.flatMap fun n => " ".toList ++ (toString n).toList

theorem toList_numbers (n : Nat) (ns : List Nat) :
    (numbers (n :: ns)).toList = (toString n).toList ++ moreNumbers ns := by
  induction ns generalizing n with
  | nil => exact (List.append_nil _).symm
  | cons k ns ih =>
      show (toString n ++ " " ++ numbers (k :: ns)).toList = _
      rw [String.toList_append, String.toList_append, ih, moreNumbers, moreNumbers,
        List.flatMap_cons, List.append_assoc, List.append_assoc]

theorem stops_moreNumbers (ns : List Nat) : Stops Char.isDigit (moreNumbers ns) := by
  cases ns with
  | nil => exact stops_nil
  | cons n ns => exact stops_append (q := " ") rfl rfl

theorem eats_moreNumbers (ns : List Nat) :
    Eats (star (space ++ digits)) (moreNumbers ns) m m [] := by
  induction ns with
  | nil => exact eats_star_nil refuses_one_nil.seq
  | cons n ns ih =>
      have hcons : moreNumbers (n :: ns) = ' ' :: ((toString n).toList ++ moreNumbers ns) := rfl
      rw [hcons]
      refine Eats.star ((eats_one rfl).seq (eats_digits n (stops_moreNumbers ns))) ?_ ih
      rw [List.length_cons, List.length_append]
      omega

theorem over_numbers {p : Char → Bool} (hp : ∀ c, c.isDigit = true → p c = true)
    (hs : p ' ' = true) (n : Nat) (ns : List Nat) : Over p (numbers (n :: ns)) := by
  induction ns generalizing n with
  | nil => exact (over_toString n).mono hp
  | cons k ns ih =>
      refine ((over_toString n).mono hp |>.append fun c hc => ?_).append (ih k).2
      exact List.mem_singleton.mp hc ▸ hs

theorem splitOn_numbers (n : Nat) (ns : List Nat) :
    (numbers (n :: ns)).toList.splitOn ' ' = (n :: ns).map fun k => (toString k).toList := by
  have hnot (k : Nat) : ' ' ∉ (toString k).toList := fun hc =>
    absurd ((over_toString k).2 _ hc) (by decide)
  induction ns generalizing n with
  | nil => exact List.splitOn_eq_singleton (hnot n)
  | cons k ns ih =>
      have hcons : (numbers (n :: k :: ns)).toList =
          (toString n).toList ++ ' ' :: (numbers (k :: ns)).toList := by
        show (toString n ++ " " ++ numbers (k :: ns)).toList = _
        rw [String.toList_append, String.toList_append, List.append_assoc]
        rfl
      rw [hcons, List.splitOn_append_cons_self_of_not_mem (hnot n), ih]
      rfl

theorem mapM_stoul {ns : List Nat} (h : ∀ n ∈ ns, n < 2 ^ 64) :
    (ns.map fun k => (toString k).toList).mapM (fun part => stoul (.ofList part)) = .ok ns := by
  induction ns with
  | nil => rfl
  | cons n ns ih =>
      rw [List.map_cons, List.mapM_cons, String.ofList_toList, stoul_toString (h n List.mem_cons_self),
        Except.bind_ok, ih fun k hk => h k (List.mem_cons_of_mem _ hk)]
      rfl

/-- The line with the numbers of several SSRCs. -/
theorem SSRCDescription.readLine_numbers (a b : Nat) (ns : List Nat)
    (h : ∀ n ∈ a :: b :: ns, n < 2 ^ 64) :
    SSRCDescription.readLine [] ("a=ssrc-group:FID " ++ numbers (a :: b :: ns)) =
      .ok ((a :: b :: ns).map fun n => { ssrc := .ofNat n }) := by
  have hgroup : "a=ssrc-group:FID ".toList =
      "a=ssrc-group:".toList ++ ("FID".toList ++ " ".toList) := by decide
  have hl : ("a=ssrc-group:FID " ++ numbers (a :: b :: ns)).toList = "a=ssrc-group:".toList ++
      ("FID".toList ++ (" ".toList ++ ((numbers (a :: b :: ns)).toList ++ []))) := by
    rw [String.toList_append, hgroup, List.append_assoc, List.append_assoc, List.append_nil]
  have hm : SSRC_GROUP_REGEX.fullMatch ("a=ssrc-group:FID " ++ numbers (a :: b :: ns)) =
      Option.some [(2, (numbers (a :: b :: ns)).toList), (1, "FID".toList)] := by
    apply Eats.fullMatch
    rw [hl]
    refine (((eats_text "a=ssrc-group:").seq
      (eats_anyOf (w := "FID") (by decide) (by decide)).group).seq (eats_text " ")).seq
      (Eats.group ?_)
    rw [List.append_nil, toList_numbers]
    refine (eats_digits a (stops_moreNumbers _)).seq (Eats.seq ?_ (eats_moreNumbers ns))
    exact (show Eats space (" ".toList ++ _) _ _ _ from eats_one rfl).seq
      (eats_digits b (stops_moreNumbers ns))
  unfold SSRCDescription.readLine
  rw [hm]
  simp only [get_cons, if_true, splitOn_numbers, mapM_stoul h, Except.bind_ok, List.nil_append]
  rfl

theorem SSRCDescription.readLine_group {ssrcs : List SSRCAttributes} (h : 1 < ssrcs.length) :
    SSRCDescription.readLine []
      ("a=ssrc-group:FID " ++ joinStrings (ssrcs.map fun s => toString s.ssrc.toNat)) =
      .ok (ssrcs.map fun s => { ssrc := s.ssrc }) := by
  have hjoin : joinStrings (ssrcs.map fun s => toString s.ssrc.toNat) =
      numbers (ssrcs.map fun s => s.ssrc.toNat) := by
    rw [numbers, List.map_map]
    rfl
  have hssrcs : (ssrcs.map fun s => ({ ssrc := s.ssrc } : SSRCAttributes)) =
      (ssrcs.map fun s => s.ssrc.toNat).map fun n => { ssrc := .ofNat n } := by
    rw [List.map_map]
    refine List.map_congr_left fun s _ => ?_
    show _ = ({ ssrc := .ofNat s.ssrc.toNat } : SSRCAttributes)
    rw [UInt32.ofNat_toNat]
  have hlt : ∀ n ∈ ssrcs.map fun s => s.ssrc.toNat, n < 2 ^ 64 := by
    intro n hn
    obtain ⟨u, -, hu⟩ := List.mem_map.mp hn
    rw [← hu]
    exact Nat.lt_trans u.ssrc.toNat_lt (by decide)
  rw [hjoin, hssrcs]
  have hlen : 1 < (ssrcs.map fun s => s.ssrc.toNat).length := by rwa [List.length_map]
  generalize (ssrcs.map fun s => s.ssrc.toNat) = ns at hlt hlen
  match ns, hlen with
  | a :: b :: ns, _ => exact SSRCDescription.readLine_numbers a b ns hlt

/-- A first SSRC need not have been numbered. -/
theorem SSRCDescription.readLine_single {s : SSRCAttributes} (h : s.Readable) (hne : s.lines ≠ []) :
    s.lines.foldlM SSRCDescription.readLine [] = .ok [s] := by
  have hlines : s.lines.foldlM SSRCDescription.readLine [{ ssrc := s.ssrc }] = .ok [s] :=
    @SSRCDescription.readLine_lines s h [] [] nofun
  have hfirst {name value : String} (hn : name ∈ ["msid", "cname"]) (hv : Over isSsrcAttr value) :
      SSRCDescription.readLine [] (ssrcLine s.ssrc name value) =
        SSRCDescription.readLine [{ ssrc := s.ssrc }] (ssrcLine s.ssrc name value) := by
    rw [readLine_ssrcLine hn hv, readLine_ssrcLine hn hv, SSRCAttributes.update, SSRCAttributes.update, if_pos rfl]
  rw [SSRCAttributes.lines_eq h] at hne hlines ⊢
  by_cases hcname : s.cname = ""
  · by_cases hmsid : s.msid = ""
    · exact absurd (by rw [hcname, hmsid]; rfl) hne
    · rw [hcname, optionalLine, optionalLine, if_neg (not_not.mpr rfl), if_pos hmsid, List.nil_append] at hlines ⊢
      rw [List.foldlM_cons] at hlines ⊢
      rwa [hfirst (by decide) ⟨hmsid, fun c hc => (h.msid c hc).1⟩]
  · rw [optionalLine, if_pos hcname, List.singleton_append, List.foldlM_cons] at hlines ⊢
    rwa [hfirst (by decide) ⟨hcname, fun c hc => (h.cname c hc).1⟩]

/-- A description reads back, if anything is printed. -/
theorem SSRCDescription.ofLines_lines {d : SSRCDescription} (h : d.Readable) (hne : d.lines ≠ []) :
    SSRCDescription.ofLines d.lines = .ok d := by
  obtain ⟨ssrcs⟩ := d
  unfold SSRCDescription.ofLines SSRCDescription.lines at *
  split
  next hlen =>
    rw [List.singleton_append, List.foldlM_cons, SSRCDescription.readLine_group hlen, Except.bind_ok]
    have hread := @SSRCDescription.readLine_flatMap [] ssrcs h.first h.ssrcs
    rw [List.nil_append, List.nil_append] at hread
    rw [hread]
    rfl
  next hlen =>
    rw [if_neg hlen] at hne
    match ssrcs, hlen with
    | [], _ => exact absurd rfl hne
    | [s], _ =>
        rw [List.nil_append, List.flatMap_singleton] at hne ⊢
        rw [SSRCDescription.readLine_single (h.ssrcs s List.mem_cons_self) hne]
        rfl
    | s :: t :: ss, hlen => exact absurd (show 1 < ss.length + 1 + 1 by omega) hlen

end Sdp

end Scallop
