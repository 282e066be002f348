import Scallop.Tofino.Mappings

/-!
# The rules on the switch

* `Holds` : which rules are installed, and that the table of the switch has their entries;
* `SenderOf`, `NodeOf`, `RouteOf` : the rules that the streams call for; `GroupOf` : the group of a
  meeting;
* `processRules_ok` : one more stream installs what it calls for;
* `addStreams_groups` : over any sequence of streams, the identifiers are unique and do not change,
  the groups are the meetings' participants, and the routes are the streams.
-/

namespace Scallop

namespace Tofino

open Allocation

variable {μ κ α τ : Type} [DecidableEq κ]

/-! ## Tables -/

section Tables
variable {entry : τ → Except PyError (κ × α)} {P : τ → Prop} {r : Installed τ κ α} {x : τ}

/-- The installed rules are those with `P`, and the table has the entries of the installed rules. -/
structure Holds (entry : τ → Except PyError (κ × α)) (P : τ → Prop) (r : Installed τ κ α) :
    Prop where
  rules : ∀ x, x ∈ r.rules ↔ P x
  table : ∀ k a, r.table.lookup k = some a ↔ ∃ x, P x ∧ entry x = .ok (k, a)

theorem Holds.congr {Q : τ → Prop} (h : Holds entry P r) (hpq : ∀ x, P x ↔ Q x) :
    Holds entry Q r where
  rules x := (h.rules x).trans (hpq x)
  table k a := (h.table k a).trans (exists_congr fun x => and_congr_left fun _ => hpq x)

theorem holds_empty : Holds entry (fun _ => False) ({} : Installed τ κ α) where
  rules _ := iff_of_false List.not_mem_nil id
  table _ _ := iff_of_false (fun h => nomatch h) fun h => h.choose_spec.1

variable [DecidableEq τ]

/-- A rule that no other one has the key of is installed. -/
theorem Holds.add (h : Holds entry P r) {k : κ} {a : α} (hx : entry x = .ok (k, a))
    (huniq : ∀ y b, P y → entry y = .ok (k, b) → y = x) :
    ∃ r', r.add entry x = .ok r' ∧ Holds entry (fun y => P y ∨ y = x) r' := by
  unfold Installed.add
  split
  next hmem =>
    have hP := (h.rules x).mp hmem
    refine ⟨r, rfl, h.congr fun y => (or_iff_left_of_imp ?_).symm⟩
    rintro rfl
    exact hP
  next hnot =>
    have hnone : r.table.lookup k = none := by
      cases hl : r.table.lookup k with
      | none => rfl
      | some b =>
          obtain ⟨y, hy, he⟩ := (h.table k b).mp hl
          obtain rfl := huniq y b hy he
          exact absurd ((h.rules y).mpr hy) hnot
    have hadd : addEntry r.table k a = .ok (r.table.insert k a) := by
      unfold addEntry
      rw [hnone]
      rfl
    rw [hx, Except.bind_ok]
    dsimp only
    rw [hadd]
    refine ⟨_, rfl, fun y => ?_, fun l b => ?_⟩
    · rw [List.mem_cons, h.rules, or_comm]
    · dsimp only
      rw [UnorderedMap.lookup_insert_iff, h.table]
      constructor
      · rintro (⟨rfl, rfl⟩ | ⟨-, y, hy, he⟩)
        · exact ⟨x, .inr rfl, hx⟩
        · exact ⟨y, .inl hy, he⟩
      · rintro ⟨y, hy | rfl, he⟩
        · by_cases hl : l = k
          · subst hl
            obtain rfl := huniq y b hy he
            exact absurd ((h.rules y).mpr hy) hnot
          · exact .inr ⟨hl, y, hy, he⟩
        · obtain ⟨rfl, rfl⟩ := Prod.mk.inj (Except.ok.inj (hx.symm.trans he))
          exact .inl ⟨rfl, rfl⟩

def AddStream.ssrcs (c : AddStream μ) : List Int :=
  if c.ssrcRtx ≠ NO_RTX_SSRC then [c.ssrc, c.ssrcRtx] else [c.ssrc]

/-- A rule for each SSRC of a stream is installed. -/
theorem Holds.addEach (h : Holds entry P r) (c : AddStream μ) (f : Int → τ)
    (hf : ∀ ssrc ∈ c.ssrcs, ∃ k a, entry (f ssrc) = .ok (k, a) ∧
      ∀ y b, (P y ∨ ∃ s ∈ c.ssrcs, y = f s) → entry y = .ok (k, b) → y = f ssrc) :
    ∃ r', c.forEachSsrc (fun ssrc => Installed.add entry (f ssrc)) r = .ok r' ∧
      Holds entry (fun y => P y ∨ ∃ s ∈ c.ssrcs, y = f s) r' := by
  have hmain : c.ssrc ∈ c.ssrcs := by
    unfold AddStream.ssrcs
    split <;> exact List.mem_cons_self
  obtain ⟨k, a, hk, hu⟩ := hf c.ssrc hmain
  obtain ⟨r₁, hr₁, hh₁⟩ := h.add hk fun y b hy => hu y b (.inl hy)
  unfold AddStream.forEachSsrc
  dsimp only
  rw [hr₁, Except.bind_ok]
  by_cases hrtx : c.ssrcRtx = NO_RTX_SSRC
  · have hs : c.ssrcs = [c.ssrc] := if_neg (not_not_intro hrtx)
    rw [if_neg (not_not_intro hrtx), hs]
    refine ⟨r₁, rfl, hh₁.congr fun y => or_congr_right ?_⟩
    exact ⟨fun hy => ⟨_, List.mem_cons_self, hy⟩, fun ⟨s, hs, hy⟩ => List.mem_singleton.mp hs ▸ hy⟩
  · have hs : c.ssrcs = [c.ssrc, c.ssrcRtx] := if_pos hrtx
    have hmem : c.ssrcRtx ∈ c.ssrcs := by
      rw [hs]
      exact List.mem_cons_of_mem _ List.mem_cons_self
    obtain ⟨k', a', hk', hu'⟩ := hf c.ssrcRtx hmem
    obtain ⟨r₂, hr₂, hh₂⟩ := hh₁.add hk' fun y b hy => hu' y b
      (hy.imp_right fun hy => ⟨_, hmain, hy⟩)
    rw [if_pos hrtx, hr₂]
    refine ⟨r₂, rfl, hh₂.congr fun y => ?_⟩
    rw [hs, or_assoc]
    refine or_congr_right ⟨?_, ?_⟩
    · rintro (hy | hy)
      · exact ⟨_, List.mem_cons_self, hy⟩
      · exact ⟨_, List.mem_cons_of_mem _ List.mem_cons_self, hy⟩
    · rintro ⟨s, hs, hy⟩
      rcases List.mem_cons.mp hs with rfl | hs
      · exact .inl hy
      · exact .inr (List.mem_singleton.mp hs ▸ hy)

end Tables

/-! ## Addresses -/

theorem knownIp_cases {ip : String} (h : KnownIp ip) : ip = "10.0.211.1" ∨ ip = "10.0.211.2" := by
  obtain ⟨q, hq⟩ := h
  unfold EGRESS_PORTS at hq
  rw [List.lookup_cons, List.lookup_cons] at hq
  by_cases h₁ : ip = "10.0.211.1"
  · exact .inl h₁
  by_cases h₂ : ip = "10.0.211.2"
  · exact .inr h₂
  rw [beq_eq_false_iff_ne.mpr h₁, beq_eq_false_iff_ne.mpr h₂] at hq
  cases hq

def ipNumber (ip : String) : Nat := (ipv4Address ip).toOption.getD 0

theorem ipv4Address_of_known {ip : String} (h : KnownIp ip) : ipv4Address ip = .ok (ipNumber ip) := by
  rcases knownIp_cases h with rfl | rfl <;> decide +kernel

theorem ipNumber_inj {ip ip' : String} (h : KnownIp ip) (h' : KnownIp ip')
    (heq : ipNumber ip = ipNumber ip') : ip = ip' := by
  have hne : ipNumber "10.0.211.1" ≠ ipNumber "10.0.211.2" := by decide +kernel
  rcases knownIp_cases h with rfl | rfl
  · rcases knownIp_cases h' with rfl | rfl
    · rfl
    · exact absurd heq hne
  · rcases knownIp_cases h' with rfl | rfl
    · exact absurd heq.symm hne
    · rfl

/-! ## What the streams call for -/

variable [DecidableEq μ] {cmds : List (AddStream μ)} {c : AddStream μ} {s s' : LocalState μ}
variable {m m' : Mappings μ} {mid : μ}

def OneMeeting (cmds : List (AddStream μ)) : Prop :=
  ∀ mid mid' e, Occurs cmds mid e → Occurs cmds mid' e → mid = mid'

/-- The rule for an SSRC of a sender: its meeting's group, and its own copies. -/
def SenderOf (cmds : List (AddStream μ)) (m : Mappings μ) (x : SenderRule) : Prop :=
  ∃ c ∈ cmds, x.ssrc ∈ c.ssrcs ∧ x.sip = c.sip ∧ x.sport = c.sport ∧
    m.meetingMgidMap.lookup c.mid = some x.mgid ∧
    m.meetingparticipantReplicationidMap.lookup (c.mid, c.src) = some x.rid ∧
    EGRESS_PORTS.lookup c.sip = some x.l2Xid

def NodeOf (cmds : List (AddStream μ)) (m : Mappings μ) (x : NodeRule) : Prop :=
  ∃ mid e, Occurs cmds mid e ∧ m.participantNodeidMap.lookup e = some x.nid ∧
    m.meetingparticipantReplicationidMap.lookup (mid, e) = some x.rid ∧
    EGRESS_PORTS.lookup e.1 = some x.eport

/-- A port that packets of a sender do not go back to. -/
def PruneOf (cmds : List (AddStream μ)) (x : PruneRule) : Prop :=
  ∃ c ∈ cmds, EGRESS_PORTS.lookup c.sip = some x.eport ∧ x.l2Xid = x.eport

/-- The rule for an SSRC of a sender on its way to a receiver. -/
def RouteOf (cmds : List (AddStream μ)) (m : Mappings μ) (x : RouteRule) : Prop :=
  ∃ c ∈ cmds, x.ssrc ∈ c.ssrcs ∧ x.sip = c.sip ∧ x.sport = c.sport ∧ x.dip = c.dip ∧
    x.dport = c.dport ∧ m.meetingparticipantReplicationidMap.lookup (c.mid, c.dst) = some x.rid

/-- The nodes of some endpoints, with their L1 exclusion ids, none of which is valid. -/
structure GroupOf (m : Mappings μ) (mid : μ) (es : List Endpoint) (g : Group) : Prop where
  nids : List.Forall₂ (fun e nid => m.participantNodeidMap.lookup e = some nid) es g.nids
  l1Xids : List.Forall₂
    (fun e rid => m.meetingparticipantReplicationidMap.lookup (mid, e) = some rid) es g.l1Xids
  l1XidsValidity : g.l1XidsValidity = es.map fun _ => false

section Keeps
variable (hm : MapsRight cmds m) (hk : m.Keeps m')
include hm hk

theorem senderOf_keeps (x : SenderRule) : SenderOf cmds m' x ↔ SenderOf cmds m x := by
  refine exists_congr fun c => and_congr_right fun hc => ?_
  rw [hk.mgid.lookup_iff ((hm.mgid.has c.mid).mpr ⟨c, hc, rfl⟩),
    hk.replicationid.lookup_iff ((hm.replicationid.has (c.mid, c.src)).mpr ⟨c, hc, rfl, .inl rfl⟩)]

theorem nodeOf_keeps (x : NodeRule) : NodeOf cmds m' x ↔ NodeOf cmds m x := by
  refine exists_congr fun mid => exists_congr fun e => and_congr_right fun ho => ?_
  rw [hk.nodeid.lookup_iff ((hm.nodeid.has e).mpr ⟨mid, ho⟩),
    hk.replicationid.lookup_iff ((hm.replicationid.has (mid, e)).mpr ho)]

theorem routeOf_keeps (x : RouteRule) : RouteOf cmds m' x ↔ RouteOf cmds m x := by
  refine exists_congr fun c => and_congr_right fun hc => ?_
  rw [hk.replicationid.lookup_iff
    ((hm.replicationid.has (c.mid, c.dst)).mpr ⟨c, hc, rfl, .inr rfl⟩)]

end Keeps

theorem GroupOf.keeps (hk : m.Keeps m') {es : List Endpoint} {g : Group} (h : GroupOf m mid es g) :
    GroupOf m' mid es g where
  nids := h.nids.imp fun _ _ hl => hk.nodeid hl
  l1Xids := h.l1Xids.imp fun _ _ hl => hk.replicationid hl
  l1XidsValidity := h.l1XidsValidity

theorem forall₂_some_unique {β : Type} {f : α → Option β} :
    ∀ {as : List α} {bs bs' : List β}, List.Forall₂ (fun a b => f a = some b) as bs →
      List.Forall₂ (fun a b => f a = some b) as bs' → bs = bs'
  | [], _, _, .nil, .nil => rfl
  | _ :: _, _, _, .cons h hs, .cons h' hs' => by
      rw [Option.some.inj (h.symm.trans h'), forall₂_some_unique hs hs']

theorem forall₂_some_mem {β : Type} {f : α → Option β} {as : List α} {bs : List β}
    (h : List.Forall₂ (fun a b => f a = some b) as bs) {b : β} :
    b ∈ bs ↔ ∃ a ∈ as, f a = some b := by
  induction h with
  | nil => exact iff_of_false List.not_mem_nil fun h => nomatch h.choose_spec.1
  | cons hab _ ih => rw [List.mem_cons, ih, List.exists_mem_cons_iff, hab, Option.some.injEq, eq_comm]

theorem forall₂_some_nodup {β : Type} {f : α → Option β} {as : List α} {bs : List β}
    (hinj : ∀ {a a' b}, f a = some b → f a' = some b → a = a')
    (h : List.Forall₂ (fun a b => f a = some b) as bs) (has : as.Nodup) : bs.Nodup := by
  induction h with
  | nil => exact List.nodup_nil
  | cons hab hs ih =>
      obtain ⟨hnot, has⟩ := List.nodup_cons.mp has
      refine List.nodup_cons.mpr ⟨fun hmem => ?_, ih has⟩
      obtain ⟨a', ha', hab'⟩ := (forall₂_some_mem hs).mp hmem
      exact hnot (hinj hab hab' ▸ ha')

theorem GroupOf.unique {es : List Endpoint} {g g' : Group} (h : GroupOf m mid es g)
    (h' : GroupOf m mid es g') : g = g' := by
  obtain ⟨nids, l1Xids, validity⟩ := g
  obtain ⟨nids', l1Xids', validity'⟩ := g'
  rw [Group.mk.injEq]
  exact ⟨forall₂_some_unique h.nids h'.nids, forall₂_some_unique h.l1Xids h'.l1Xids,
    h.l1XidsValidity.trans h'.l1XidsValidity.symm⟩

theorem GroupOf.length_nids {es : List Endpoint} {g : Group} (h : GroupOf m mid es g) :
    g.nids.length = es.length := h.nids.length_eq.symm

/-! ## One stream -/

theorem item_ok {d : UnorderedMap κ α} {k : κ} {a : α} (h : d.lookup k = some a) :
    item d k = .ok a := by
  unfold item
  rw [h]

/-- The participants of a meeting make a group. -/
theorem group_ok (hm : MapsRight cmds m) {es : List Endpoint} (hes : ∀ e ∈ es, Occurs cmds mid e) :
    ∃ g, group mid es m = .ok g ∧ GroupOf m mid (es.mergeSort endpointLe) g := by
  have hnodes (fs : List Endpoint) (hfs : ∀ e ∈ fs, Occurs cmds mid e) :
      ∃ nodes : List (Nat × Nat), (fs.mapM fun e => do
          let nid ← item m.participantNodeidMap e
          let l1Xid ← item m.meetingparticipantL1exclusionidMap (mid, e)
          return (nid, l1Xid)) = .ok nodes ∧
        List.Forall₂ (fun e nid => m.participantNodeidMap.lookup e = some nid) fs
          (nodes.map Prod.fst) ∧
        List.Forall₂ (fun e rid => m.meetingparticipantReplicationidMap.lookup (mid, e) = some rid) fs
          (nodes.map Prod.snd) ∧ nodes.length = fs.length := by
    induction fs with
    | nil => exact ⟨[], rfl, .nil, .nil, rfl⟩
    | cons e fs ih =>
        obtain ⟨nodes, hok, hn, hl, hlen⟩ := ih fun f hf => hfs f (List.mem_cons_of_mem _ hf)
        have ho := hfs e List.mem_cons_self
        obtain ⟨nid, hnid⟩ := (hm.nodeid.has e).mpr ⟨mid, ho⟩
        obtain ⟨x, hx⟩ := (hm.hasL1exclusionid (mid, e)).mpr ho
        refine ⟨(nid, x) :: nodes, ?_, .cons hnid hn, .cons (hm.l1exclusionid hx) hl,
          congrArg (· + 1) hlen⟩
        rw [List.mapM_cons, item_ok hnid, Except.bind_ok, item_ok hx, hok]
        rfl
  obtain ⟨nodes, hok, hn, hl, hlen⟩ := hnodes (es.mergeSort endpointLe) fun e he =>
    hes e ((List.mergeSort_perm es endpointLe).mem_iff.mp he)
  unfold group
  rw [hok]
  refine ⟨_, rfl, hn, hl, ?_⟩
  rw [List.map_const', List.map_const', hlen]

theorem SenderRule.entry_of_known {x : SenderRule} (h : KnownIp x.sip) :
    x.entry = .ok ((ipNumber x.sip, x.sport, x.ssrc), x.mgid, x.rid, x.l2Xid) := by
  unfold SenderRule.entry
  rw [ipv4Address_of_known h]
  rfl

theorem RouteRule.entry_of_known {x : RouteRule} (h : KnownIp x.sip) (h' : KnownIp x.dip) :
    x.entry = .ok ((ipNumber x.sip, x.sport, x.ssrc, x.rid), ipNumber x.dip, x.dport) := by
  unfold RouteRule.entry
  rw [ipv4Address_of_known h, Except.bind_ok, ipv4Address_of_known h']
  rfl

theorem SenderRule.entry_key {x y : SenderRule} {k : Nat × Int × Int} {a b : Nat × Nat × Nat} (hx : KnownIp x.sip)
    (hy : KnownIp y.sip) (hk : x.entry = .ok (k, a)) (hk' : y.entry = .ok (k, b)) :
    y.sip = x.sip ∧ y.sport = x.sport ∧ y.ssrc = x.ssrc := by
  rw [SenderRule.entry_of_known hx] at hk
  rw [SenderRule.entry_of_known hy, ← (Prod.mk.inj (Except.ok.inj hk)).1] at hk'
  obtain ⟨hip, hkey⟩ := Prod.mk.inj (Prod.mk.inj (Except.ok.inj hk')).1
  exact ⟨ipNumber_inj hy hx hip, Prod.mk.inj hkey⟩

theorem RouteRule.entry_key {x y : RouteRule} {k : Nat × Int × Int × Nat} {a b : Nat × Int} (hx : KnownIp x.sip)
    (hx' : KnownIp x.dip) (hy : KnownIp y.sip) (hy' : KnownIp y.dip) (hk : x.entry = .ok (k, a))
    (hk' : y.entry = .ok (k, b)) : y.sip = x.sip ∧ y.sport = x.sport ∧ y.ssrc = x.ssrc ∧ y.rid = x.rid := by
  rw [RouteRule.entry_of_known hx hx'] at hk
  rw [RouteRule.entry_of_known hy hy', ← (Prod.mk.inj (Except.ok.inj hk)).1] at hk'
  obtain ⟨hip, hkey⟩ := Prod.mk.inj (Prod.mk.inj (Except.ok.inj hk')).1
  obtain ⟨hport, hkey⟩ := Prod.mk.inj hkey
  exact ⟨ipNumber_inj hy hx hip, hport, Prod.mk.inj hkey⟩

/-- An SSRC of an endpoint is sent to one group only. -/
theorem senderOf_unique (hone : OneMeeting cmds) {x y : SenderRule} (hx : SenderOf cmds m x)
    (hy : SenderOf cmds m y) {k : Nat × Int × Int} {a b : Nat × Nat × Nat} (hk : x.entry = .ok (k, a))
    (hk' : y.entry = .ok (k, b)) : y = x := by
  obtain ⟨c, hc, hs, hsip, hsport, hg, hr, hl⟩ := hx
  obtain ⟨c', hc', hs', hsip', hsport', hg', hr', hl'⟩ := hy
  have hknown : KnownIp x.sip := ⟨_, hsip ▸ hl⟩
  have hknown' : KnownIp y.sip := ⟨_, hsip' ▸ hl'⟩
  obtain ⟨hip, hport, hssrc⟩ := SenderRule.entry_key hknown hknown' hk hk'
  have hsrc : c'.src = c.src := by
    show (c'.sip, c'.sport) = (c.sip, c.sport)
    rw [← hsip', ← hsport', hip, hport, hsip, hsport]
  have hmid : c'.mid = c.mid := hone _ _ c.src ⟨c', hc', rfl, .inl hsrc.symm⟩ ⟨c, hc, rfl, .inl rfl⟩
  rw [hmid] at hg' hr'
  rw [hsrc] at hr'
  have hl' : EGRESS_PORTS.lookup c.sip = some y.l2Xid := by rw [← hsip, ← hip, hsip', hl']
  obtain ⟨sip, sport, ssrc, mgid, rid, l2⟩ := x
  obtain ⟨sip', sport', ssrc', mgid', rid', l2'⟩ := y
  rw [SenderRule.mk.injEq]
  exact ⟨hip, hport, hssrc, Option.some.inj (hg'.symm.trans hg), Option.some.inj (hr'.symm.trans hr),
    Option.some.inj (hl'.symm.trans hl)⟩

/-- A node is one participant of one meeting. -/
theorem nodeOf_unique (hm : MapsRight cmds m) (hone : OneMeeting cmds) {x y : NodeRule}
    (hx : NodeOf cmds m x) (hy : NodeOf cmds m y) (hnid : y.nid = x.nid) : y = x := by
  obtain ⟨mid, e, ho, hn, hr, hl⟩ := hx
  obtain ⟨mid', e', ho', hn', hr', hl'⟩ := hy
  obtain rfl := hm.nodeid.inj hn (hnid ▸ hn')
  obtain rfl := hone _ _ _ ho ho'
  obtain ⟨nid, rid, eport⟩ := x
  obtain ⟨nid', rid', eport'⟩ := y
  rw [NodeRule.mk.injEq]
  exact ⟨hnid, Option.some.inj (hr'.symm.trans hr), Option.some.inj (hl'.symm.trans hl)⟩

/-- A copy of a stream is rewritten for one receiver only. -/
theorem routeOf_unique (hm : MapsRight cmds m) (hknown : ∀ c ∈ cmds, c.Known) {x y : RouteRule}
    (hx : RouteOf cmds m x) (hy : RouteOf cmds m y) {k : Nat × Int × Int × Nat} {a b : Nat × Int}
    (hk : x.entry = .ok (k, a)) (hk' : y.entry = .ok (k, b)) : y = x := by
  obtain ⟨c, hc, hs, hsip, hsport, hdip, hdport, hr⟩ := hx
  obtain ⟨c', hc', hs', hsip', hsport', hdip', hdport', hr'⟩ := hy
  have hkx : KnownIp x.sip := hsip ▸ (hknown c hc).1
  have hky : KnownIp y.sip := hsip' ▸ (hknown c' hc').1
  obtain ⟨hip, hport, hssrc, hrid⟩ := RouteRule.entry_key hkx (hdip ▸ (hknown c hc).2) hky
    (hdip' ▸ (hknown c' hc').2) hk hk'
  have hdst := congrArg Prod.snd (hm.replicationid.inj hr (hrid ▸ hr'))
  obtain ⟨hdi, hdp⟩ := Prod.mk.inj (show (c.dip, c.dport) = (c'.dip, c'.dport) from hdst)
  obtain ⟨sip, sport, ssrc, rid, dip, dport⟩ := x
  obtain ⟨sip', sport', ssrc', rid', dip', dport'⟩ := y
  rw [RouteRule.mk.injEq]
  exact ⟨hip, hport, hssrc, hrid, hdip'.trans (hdi.symm.trans hdip.symm),
    hdport'.trans (hdp.symm.trans hdport.symm)⟩

/-- Every meeting has the group of its participants, and no group that it had before is longer. -/
structure GroupsRight (cmds : List (AddStream μ)) (s : LocalState μ) (m : Mappings μ)
    (r : Installed (Nat × Group) Nat Group) : Prop where
  keys : ∀ x ∈ r.rules, ∃ mid, Meets cmds mid ∧ m.meetingMgidMap.lookup mid = some x.1
  table : ∀ mgid g, r.table.lookup mgid = some g → (mgid, g) ∈ r.rules
  current : ∀ mid mgid, Meets cmds mid → m.meetingMgidMap.lookup mid = some mgid → ∃ g,
    r.table.lookup mgid = some g ∧ GroupOf m mid ((s.participantsOf mid).mergeSort endpointLe) g
  longest : ∀ mid mgid g, m.meetingMgidMap.lookup mid = some mgid → (mgid, g) ∈ r.rules →
    g.nids.length ≤ (s.participantsOf mid).length

theorem GroupsRight.keeps {r : Installed (Nat × Group) Nat Group} (h : GroupsRight cmds s m r)
    (hm : MapsRight cmds m) (hk : m.Keeps m') {cmds' : List (AddStream μ)}
    (hm' : MapsRight cmds' m') : GroupsRight cmds s m' r where
  keys x hx := (h.keys x hx).imp fun _ hmid => ⟨hmid.1, hk.mgid hmid.2⟩
  table := h.table
  current mid mgid hmeets hl := by
    obtain ⟨g, hg, hgroup⟩ := h.current mid mgid hmeets
      ((hk.mgid.lookup_iff ((hm.mgid.has mid).mpr hmeets)).mp hl)
    exact ⟨g, hg, hgroup.keeps hk⟩
  longest mid mgid g hl hg := by
    obtain ⟨mid', -, hl'⟩ := h.keys _ hg
    obtain rfl := hm'.mgid.inj hl (hk.mgid hl')
    exact h.longest mid mgid g hl' hg

section Step
variable (hs : StateRight (cmds ++ [c]) s) (hm : MapsRight (cmds ++ [c]) m)
variable (hone : OneMeeting (cmds ++ [c])) (hknown : ∀ c' ∈ cmds ++ [c], c'.Known) {r : Rules}
include hs hm hone hknown

theorem addSender_ok (h : Holds SenderRule.entry (SenderOf cmds m) r.sendersReplication) :
    ∃ x, addSender c s m r = .ok { r with sendersReplication := x } ∧
      Holds SenderRule.entry (SenderOf (cmds ++ [c]) m) x := by
  have hmem : c ∈ cmds ++ [c] := List.mem_append_right _ List.mem_cons_self
  obtain ⟨p, hp⟩ := (hknown c hmem).1
  obtain ⟨g, hg⟩ := (hm.mgid.has c.mid).mpr ⟨c, hmem, rfl⟩
  obtain ⟨rid, hrid⟩ := (hm.replicationid.has (c.mid, c.src)).mpr occurs_src
  have hport := (hs.eports c.mid c.src p).mpr ⟨occurs_src, hp⟩
  have hl2 := (hm.l2exclusionid p p).mpr ⟨rfl, _, _, occurs_src, hp⟩
  have hiff (y : SenderRule) : SenderOf (cmds ++ [c]) m y ↔ SenderOf cmds m y ∨
      ∃ ssrc ∈ c.ssrcs, y = ⟨c.sip, c.sport, ssrc, g, rid, p⟩ := by
    refine exists_mem_snoc.trans (or_congr_right ?_)
    constructor
    · rintro ⟨hs, hsip, hsport, hg', hr', hl'⟩
      obtain ⟨sip, sport, ssrc, mgid, rid', l2⟩ := y
      dsimp only at hs hsip hsport hg' hr' hl'
      rw [hsip, hsport, ← Option.some.inj (hg.symm.trans hg'),
        ← Option.some.inj (hrid.symm.trans hr'), ← Option.some.inj (hp.symm.trans hl')]
      exact ⟨ssrc, hs, rfl⟩
    · rintro ⟨ssrc, hs, rfl⟩
      exact ⟨hs, rfl, rfl, hg, hrid, hp⟩
  obtain ⟨x, hx, hh⟩ := h.addEach c (fun ssrc => ⟨c.sip, c.sport, ssrc, g, rid, p⟩) (by
    intro ssrc hssrc
    refine ⟨_, _, SenderRule.entry_of_known ⟨p, hp⟩, fun y b hy he => ?_⟩
    exact senderOf_unique hone ((hiff _).mpr (.inr ⟨ssrc, hssrc, rfl⟩)) ((hiff y).mpr hy)
      (SenderRule.entry_of_known ⟨p, hp⟩) he)
  refine ⟨x, ?_, hh.congr fun y => (hiff y).symm⟩
  unfold addSender
  rw [item_ok hg, Except.bind_ok, item_ok hrid, Except.bind_ok, item_ok hport, Except.bind_ok,
    item_ok hl2, Except.bind_ok, hx]
  rfl

theorem addNode_ok {P : NodeRule → Prop} {e : Endpoint} (ho : Occurs (cmds ++ [c]) mid e)
    (hP : ∀ x, P x → NodeOf (cmds ++ [c]) m x) (h : Holds NodeRule.entry P r.participantsNodes) :
    ∃ x nid rid eport, addNode mid e s m r = .ok { r with participantsNodes := x } ∧
      Holds NodeRule.entry (fun y => P y ∨ y = ⟨nid, rid, eport⟩) x ∧
      m.participantNodeidMap.lookup e = some nid ∧
      m.meetingparticipantReplicationidMap.lookup (mid, e) = some rid ∧
      EGRESS_PORTS.lookup e.1 = some eport := by
  have hip : KnownIp e.1 := by
    obtain ⟨c', hc', -, rfl | rfl⟩ := ho
    · exact (hknown c' hc').1
    · exact (hknown c' hc').2
  obtain ⟨p, hp⟩ := hip
  obtain ⟨nid, hnid⟩ := (hm.nodeid.has e).mpr ⟨mid, ho⟩
  obtain ⟨rid, hrid⟩ := (hm.replicationid.has (mid, e)).mpr ho
  have hport := (hs.eports mid e p).mpr ⟨ho, hp⟩
  have hnode : NodeOf (cmds ++ [c]) m ⟨nid, rid, p⟩ := ⟨mid, e, ho, hnid, hrid, hp⟩
  obtain ⟨x, hx, hh⟩ := h.add (x := (⟨nid, rid, p⟩ : NodeRule)) rfl fun y b hy he =>
    nodeOf_unique hm hone hnode (hP y hy) (Prod.mk.inj (Except.ok.inj he)).1
  refine ⟨x, nid, rid, p, ?_, hh, hnid, hrid, hp⟩
  unfold addNode
  rw [item_ok hnid, Except.bind_ok, item_ok hrid, Except.bind_ok, item_ok hport, Except.bind_ok, hx]
  rfl

/-- Both participants of a stream get their nodes. -/
theorem addNodes_ok (h : Holds NodeRule.entry (NodeOf cmds m) r.participantsNodes) :
    ∃ x, (addNode c.mid c.src s m r >>= addNode c.mid c.dst s m) =
        .ok { r with participantsNodes := x } ∧
      Holds NodeRule.entry (NodeOf (cmds ++ [c]) m) x := by
  have hold (x : NodeRule) (hx : NodeOf cmds m x) : NodeOf (cmds ++ [c]) m x := by
    obtain ⟨mid, e, ho, hx⟩ := hx
    exact ⟨mid, e, occurs_append.mpr (.inl ho), hx⟩
  obtain ⟨x₁, nid₁, rid₁, p₁, hx₁, hh₁, hn₁, hr₁, hp₁⟩ :=
    addNode_ok hs hm hone hknown occurs_src hold h
  have hold₁ (x : NodeRule) (hx : NodeOf cmds m x ∨ x = ⟨nid₁, rid₁, p₁⟩) :
      NodeOf (cmds ++ [c]) m x := by
    rcases hx with hx | rfl
    · exact hold x hx
    · exact ⟨_, _, occurs_src, hn₁, hr₁, hp₁⟩
  obtain ⟨x₂, nid₂, rid₂, p₂, hx₂, hh₂, hn₂, hr₂, hp₂⟩ :=
    @addNode_ok _ _ _ c s m _ hs hm hone hknown { r with participantsNodes := x₁ } _ _ occurs_dst
      hold₁ hh₁
  refine ⟨x₂, by rw [hx₁, Except.bind_ok, hx₂], hh₂.congr fun y => ⟨?_, ?_⟩⟩
  · rintro (hy | rfl)
    · exact hold₁ y hy
    · exact ⟨_, _, occurs_dst, hn₂, hr₂, hp₂⟩
  · rintro ⟨mid, e, ho, hn, hr, hp⟩
    obtain ⟨nid, rid, p⟩ := y
    dsimp only at hn hr hp
    rcases occurs_append.mp ho with ho | ⟨rfl, rfl | rfl⟩
    · exact .inl (.inl ⟨mid, e, ho, hn, hr, hp⟩)
    · rw [← Option.some.inj (hn₁.symm.trans hn), ← Option.some.inj (hr₁.symm.trans hr),
        ← Option.some.inj (hp₁.symm.trans hp)]
      exact .inl (.inr rfl)
    · rw [← Option.some.inj (hn₂.symm.trans hn), ← Option.some.inj (hr₂.symm.trans hr),
        ← Option.some.inj (hp₂.symm.trans hp)]
      exact .inr rfl

omit hone in
theorem addL2exclusionPort_ok (h : Holds PruneRule.entry (PruneOf cmds) r.eportsL2exclusionids) :
    ∃ x, addL2exclusionPort c s m r = .ok { r with eportsL2exclusionids := x } ∧
      Holds PruneRule.entry (PruneOf (cmds ++ [c])) x := by
  have hmem : c ∈ cmds ++ [c] := List.mem_append_right _ List.mem_cons_self
  obtain ⟨p, hp⟩ := (hknown c hmem).1
  have hport := (hs.eports c.mid c.src p).mpr ⟨occurs_src, hp⟩
  have hl2 := (hm.l2exclusionid p p).mpr ⟨rfl, _, _, occurs_src, hp⟩
  obtain ⟨x, hx, hh⟩ := h.add (x := (⟨p, p⟩ : PruneRule)) rfl fun y b hy he => by
    obtain ⟨c', -, -, hl⟩ := hy
    have hport : y.eport = p := (Prod.mk.inj (Except.ok.inj he)).1
    obtain ⟨eport, l2⟩ := y
    rw [PruneRule.mk.injEq]
    exact ⟨hport, hl.trans hport⟩
  refine ⟨x, ?_, hh.congr fun y => (exists_mem_snoc.trans (or_congr_right ⟨?_, ?_⟩)).symm⟩
  · unfold addL2exclusionPort
    rw [item_ok hport, Except.bind_ok, item_ok hl2, Except.bind_ok, hx]
    rfl
  · rintro ⟨hp', hl⟩
    have hport := Option.some.inj (hp'.symm.trans hp)
    obtain ⟨eport, l2⟩ := y
    rw [PruneRule.mk.injEq]
    exact ⟨hport, hl.trans hport⟩
  · rintro rfl
    exact ⟨hp, rfl⟩

omit hs hone in
theorem addIpv4Routes_ok (h : Holds RouteRule.entry (RouteOf cmds m) r.ipv4Routes) :
    ∃ x, addIpv4Routes c m r = .ok { r with ipv4Routes := x } ∧
      Holds RouteRule.entry (RouteOf (cmds ++ [c]) m) x := by
  have hmem : c ∈ cmds ++ [c] := List.mem_append_right _ List.mem_cons_self
  have hc := hknown c hmem
  obtain ⟨rid, hrid⟩ := (hm.replicationid.has (c.mid, c.dst)).mpr occurs_dst
  have hiff (y : RouteRule) : RouteOf (cmds ++ [c]) m y ↔ RouteOf cmds m y ∨
      ∃ ssrc ∈ c.ssrcs, y = ⟨c.sip, c.sport, ssrc, rid, c.dip, c.dport⟩ := by
    refine exists_mem_snoc.trans (or_congr_right ?_)
    constructor
    · rintro ⟨hs, hsip, hsport, hdip, hdport, hr'⟩
      obtain ⟨sip, sport, ssrc, rid', dip, dport⟩ := y
      dsimp only at hs hsip hsport hdip hdport hr'
      rw [hsip, hsport, hdip, hdport, ← Option.some.inj (hrid.symm.trans hr')]
      exact ⟨ssrc, hs, rfl⟩
    · rintro ⟨ssrc, hs, rfl⟩
      exact ⟨hs, rfl, rfl, rfl, rfl, hrid⟩
  obtain ⟨x, hx, hh⟩ := h.addEach c (fun ssrc => ⟨c.sip, c.sport, ssrc, rid, c.dip, c.dport⟩) (by
    intro ssrc hssrc
    refine ⟨_, _, RouteRule.entry_of_known hc.1 hc.2, fun y b hy he => ?_⟩
    exact routeOf_unique hm hknown ((hiff _).mpr (.inr ⟨ssrc, hssrc, rfl⟩)) ((hiff y).mpr hy)
      (RouteRule.entry_of_known hc.1 hc.2) he)
  refine ⟨x, ?_, hh.congr fun y => (hiff y).symm⟩
  unfold addIpv4Routes
  rw [item_ok hrid, Except.bind_ok, hx]
  rfl

end Step

theorem length_addParticipant (l : List Endpoint) (e : Endpoint) :
    l.length ≤ (addParticipant l e).length ∧
      ((addParticipant l e).length ≤ l.length → addParticipant l e = l) := by
  unfold addParticipant
  split
  next => exact ⟨Nat.le_refl _, fun _ => rfl⟩
  next =>
    rw [List.length_append, List.length_singleton]
    exact ⟨by omega, fun h => absurd h (by omega)⟩

section Groups
variable {r : Installed (Nat × Group) Nat Group} {mgid : Nat} {g : Group}
variable (hm : MapsRight (cmds ++ [c]) m) (h : GroupsRight cmds s m r)
variable (hpart : ∀ mid, s'.participantsOf mid =
  if mid = c.mid then addParticipant (addParticipant (s.participantsOf mid) c.src) c.dst
  else s.participantsOf mid)
variable (hmgid : m.meetingMgidMap.lookup c.mid = some mgid)
variable (hg : GroupOf m c.mid ((s'.participantsOf c.mid).mergeSort endpointLe) g)
include hm h hpart hmgid hg

/-- A group that is written is the group of its meeting. -/
theorem GroupsRight.insert : GroupsRight (cmds ++ [c]) s' m
    { rules := r.rules ++ [(mgid, g)], table := r.table.insert mgid g } where
  keys x hx := by
    rcases List.mem_append.mp hx with hx | hx
    · exact (h.keys x hx).imp fun _ hmid => ⟨meets_append.mpr (.inl hmid.1), hmid.2⟩
    · obtain rfl := List.mem_singleton.mp hx
      exact ⟨c.mid, meets_append.mpr (.inr rfl), hmgid⟩
  table k g' hl := by
    rcases UnorderedMap.lookup_insert_iff.mp hl with ⟨rfl, rfl⟩ | ⟨-, hl⟩
    · exact List.mem_append_right _ List.mem_cons_self
    · exact List.mem_append_left _ (h.table k g' hl)
  current mid k hmeets hl := by
    dsimp only
    by_cases hmid : mid = c.mid
    · subst hmid
      obtain rfl := Option.some.inj (hmgid.symm.trans hl)
      exact ⟨g, AList.lookup_insert _, hg⟩
    · obtain ⟨g', hg', hgroup⟩ := h.current mid k ((meets_append.mp hmeets).resolve_right hmid) hl
      have hne : k ≠ mgid := by
        rintro rfl
        exact hmid (hm.mgid.inj hl hmgid)
      refine ⟨g', by rw [AList.lookup_insert_ne hne, hg'], ?_⟩
      rw [hpart, if_neg hmid]
      exact hgroup
  longest mid k g' hl hmem := by
    rcases List.mem_append.mp hmem with hmem | hmem
    · refine Nat.le_trans (h.longest mid k g' hl hmem) ?_
      rw [hpart]
      split
      next => exact Nat.le_trans (length_addParticipant _ _).1 (length_addParticipant _ _).1
      next => exact Nat.le_refl _
    · obtain ⟨rfl, rfl⟩ := Prod.mk.inj (List.mem_singleton.mp hmem)
      obtain rfl := hm.mgid.inj hl hmgid
      rw [hg.length_nids, List.length_mergeSort]

/-- A group that was written before is the one that the switch has: the others were shorter. -/
theorem GroupsRight.same (hmem : (mgid, g) ∈ r.rules) : GroupsRight (cmds ++ [c]) s' m r := by
  have hlong := h.longest c.mid mgid g hmgid hmem
  have hadd := hpart c.mid
  rw [if_pos rfl] at hadd
  rw [hg.length_nids, List.length_mergeSort, hadd] at hlong
  have hsrc := length_addParticipant (s.participantsOf c.mid) c.src
  have hdst := length_addParticipant (addParticipant (s.participantsOf c.mid) c.src) c.dst
  have heq : s'.participantsOf c.mid = s.participantsOf c.mid := by
    rw [hadd, hdst.2 (by omega), hsrc.2 (by omega)]
  have hall (mid : μ) : s'.participantsOf mid = s.participantsOf mid := by
    by_cases hmid : mid = c.mid
    · rw [hmid, heq]
    · rw [hpart, if_neg hmid]
  have hmeets : Meets cmds c.mid := by
    obtain ⟨mid, hmeets, hl⟩ := h.keys _ hmem
    exact hm.mgid.inj hl hmgid ▸ hmeets
  refine ⟨fun x hx => ?_, h.table, fun mid k hmt hl => ?_, fun mid k g' hl hx => ?_⟩
  · exact (h.keys x hx).imp fun _ hmid => ⟨meets_append.mpr (.inl hmid.1), hmid.2⟩
  · rw [hall]
    exact h.current mid k ((meets_append.mp hmt).elim id fun hmid => hmid ▸ hmeets) hl
  · rw [hall]
    exact h.longest mid k g' hl hx

theorem Installed.setGroup_ok : ∃ x, r.setGroup mgid g = .ok x ∧
    GroupsRight (cmds ++ [c]) s' m x := by
  have hins := h.insert hm hpart hmgid hg
  unfold Installed.setGroup
  by_cases hkey : mgid ∈ r.rules.map Prod.fst
  · rw [if_neg (not_not_intro hkey)]
    by_cases hmem : (mgid, g) ∈ r.rules
    · rw [if_neg (not_not_intro hmem)]
      exact ⟨r, rfl, h.same hm hpart hmgid hg hmem⟩
    · obtain ⟨⟨k, g'⟩, hx, rfl⟩ := List.mem_map.mp hkey
      obtain ⟨mid, hmeets, hl⟩ := h.keys _ hx
      obtain ⟨g₀, hg₀, -⟩ := h.current mid _ hmeets hl
      have hmod : modEntry r.table k g = .ok (r.table.insert k g) := by
        unfold modEntry
        rw [hg₀]
        rfl
      rw [if_pos hmem, hmod]
      exact ⟨_, rfl, hins⟩
  · have hnone : r.table.lookup mgid = none := by
      cases hl : r.table.lookup mgid with
      | none => rfl
      | some g₀ => exact absurd (List.mem_map_of_mem (h.table _ _ hl)) hkey
    have hadd : addEntry r.table mgid g = .ok (r.table.insert mgid g) := by
      unfold addEntry
      rw [hnone]
      rfl
    rw [if_pos hkey, hadd]
    exact ⟨_, rfl, hins⟩

end Groups

theorem updateGroup_ok {r : Rules} (hs' : StateRight (cmds ++ [c]) s')
    (hm : MapsRight (cmds ++ [c]) m) (h : GroupsRight cmds s m r.mgidsParticipants)
    (hpart : ∀ mid, s'.participantsOf mid =
      if mid = c.mid then addParticipant (addParticipant (s.participantsOf mid) c.src) c.dst
      else s.participantsOf mid) :
    ∃ x, updateGroup c s' m r = .ok { r with mgidsParticipants := x } ∧
      GroupsRight (cmds ++ [c]) s' m x := by
  have hmeets : Meets (cmds ++ [c]) c.mid := meets_append.mpr (.inr rfl)
  obtain ⟨mgid, hmgid⟩ := (hm.mgid.has c.mid).mpr hmeets
  obtain ⟨es, hes⟩ := Option.isSome_iff_exists.mp ((hs'.meetings c.mid).mpr hmeets)
  have hpartOf : s'.participantsOf c.mid = es := by
    unfold LocalState.participantsOf
    rw [hes]
    rfl
  obtain ⟨g, hgroup, hg⟩ := group_ok hm fun e he =>
    (hs'.participants c.mid e).mp (hpartOf ▸ he)
  obtain ⟨x, hx, hright⟩ := Installed.setGroup_ok hm h hpart hmgid (hpartOf ▸ hg)
  refine ⟨x, ?_, hright⟩
  unfold updateGroup
  rw [item_ok hmgid, Except.bind_ok, item_ok hes, Except.bind_ok, hgroup, Except.bind_ok, hx]
  rfl

/-- The rules on the switch are those that the streams call for. -/
structure RulesRight (cmds : List (AddStream μ)) (s : LocalState μ) (m : Mappings μ) (r : Rules) :
    Prop where
  senders : Holds SenderRule.entry (SenderOf cmds m) r.sendersReplication
  nodes : Holds NodeRule.entry (NodeOf cmds m) r.participantsNodes
  groups : GroupsRight cmds s m r.mgidsParticipants
  prunes : Holds PruneRule.entry (PruneOf cmds) r.eportsL2exclusionids
  routes : Holds RouteRule.entry (RouteOf cmds m) r.ipv4Routes

theorem rulesRight_empty : RulesRight [] ({} : LocalState μ) {} {} where
  senders := holds_empty.congr fun _ => iff_of_false id fun h => nomatch h.choose_spec.1
  nodes := holds_empty.congr fun _ => iff_of_false id fun h =>
    nomatch h.choose_spec.choose_spec.1.choose_spec.1
  groups := ⟨nofun, nofun, nofun, nofun⟩
  prunes := holds_empty.congr fun _ => iff_of_false id fun h => nomatch h.choose_spec.1
  routes := holds_empty.congr fun _ => iff_of_false id fun h => nomatch h.choose_spec.1

theorem RulesRight.keeps {r : Rules} (h : RulesRight cmds s m r) (hm : MapsRight cmds m)
    (hk : m.Keeps m') (hm' : MapsRight (cmds ++ [c]) m') : RulesRight cmds s m' r where
  senders := h.senders.congr fun x => (senderOf_keeps hm hk x).symm
  nodes := h.nodes.congr fun x => (nodeOf_keeps hm hk x).symm
  groups := h.groups.keeps hm hk hm'
  prunes := h.prunes
  routes := h.routes.congr fun x => (routeOf_keeps hm hk x).symm

/-- One more stream installs what it calls for. -/
theorem processRules_ok {r : Rules} (hs' : StateRight (cmds ++ [c]) s')
    (hm : MapsRight (cmds ++ [c]) m) (hone : OneMeeting (cmds ++ [c]))
    (hknown : ∀ c' ∈ cmds ++ [c], c'.Known) (h : RulesRight cmds s m r)
    (hpart : ∀ mid, s'.participantsOf mid =
      if mid = c.mid then addParticipant (addParticipant (s.participantsOf mid) c.src) c.dst
      else s.participantsOf mid) :
    ∃ r', processRules c s' m r = .ok r' ∧ RulesRight (cmds ++ [c]) s' m r' := by
  obtain ⟨x₁, hx₁, h₁⟩ := addSender_ok hs' hm hone hknown h.senders
  let r₁ : Rules := { r with sendersReplication := x₁ }
  obtain ⟨x₂, hx₂, h₂⟩ := @addNodes_ok _ _ _ _ _ _ hs' hm hone hknown r₁ h.nodes
  let r₂ : Rules := { r₁ with participantsNodes := x₂ }
  obtain ⟨x₃, hx₃, h₃⟩ := @updateGroup_ok _ _ _ _ _ _ _ r₂ hs' hm h.groups hpart
  let r₃ : Rules := { r₂ with mgidsParticipants := x₃ }
  obtain ⟨x₄, hx₄, h₄⟩ := @addL2exclusionPort_ok _ _ _ _ _ _ hs' hm hknown r₃ h.prunes
  let r₄ : Rules := { r₃ with eportsL2exclusionids := x₄ }
  obtain ⟨x₅, hx₅, h₅⟩ := @addIpv4Routes_ok _ _ _ _ _ hm hknown r₄ h.routes
  refine ⟨{ r₄ with ipv4Routes := x₅ }, ?_, h₁, h₂, h₃, h₄, h₅⟩
  obtain ⟨r', hr', hr₂⟩ := Except.of_bind_ok hx₂
  unfold processRules
  rw [hx₁, Except.bind_ok, hr', Except.bind_ok, hr₂, Except.bind_ok, hx₃, Except.bind_ok, hx₄,
    Except.bind_ok, hx₅]

/-! ## Any sequence of streams -/

/-- The class and the switch, after some streams were added. -/
structure Pre.Right (cmds : List (AddStream μ)) (p : Pre μ) : Prop where
  state : StateRight cmds p.state
  maps : MapsRight cmds p.maps
  rules : RulesRight cmds p.state p.maps p.rules

theorem Pre.right_init : Pre.Right [] ({} : Pre μ) :=
  ⟨stateRight_empty, mapsRight_empty, rulesRight_empty⟩

/-- A meeting that has a stream has a group: the nodes of its participants, each once. -/
theorem Pre.Right.group_of_meets {p : Pre μ} (h : p.Right cmds) (hmeets : Meets cmds mid) :
    ∃ mgid g, p.maps.meetingMgidMap.lookup mid = some mgid ∧
      p.rules.mgidsParticipants.table.lookup mgid = some g ∧ g.nids.Nodup ∧
      ∀ nid, nid ∈ g.nids ↔
        ∃ e, Occurs cmds mid e ∧ p.maps.participantNodeidMap.lookup e = some nid := by
  obtain ⟨mgid, hmgid⟩ := (h.maps.mgid.has mid).mpr hmeets
  obtain ⟨g, hg, hgroup⟩ := h.rules.groups.current mid mgid hmeets hmgid
  have hperm := List.mergeSort_perm (p.state.participantsOf mid) endpointLe
  refine ⟨mgid, g, hmgid, hg, ?_, fun nid => ?_⟩
  · exact forall₂_some_nodup h.maps.nodeid.inj hgroup.nids
      (hperm.nodup_iff.mpr (h.state.nodup mid))
  · rw [forall₂_some_mem hgroup.nids]
    refine exists_congr fun e => and_congr_left fun _ => ?_
    rw [hperm.mem_iff, h.state.participants]

/-- A copy of a stream is rewritten for its receiver, and no other packet is. -/
theorem Pre.Right.route_iff {p : Pre μ} (h : p.Right cmds) (hknown : ∀ c ∈ cmds, c.Known)
    {sip dip : String} {sport ssrc dport : Int} {rid : Nat} {rewritten : Nat × Int}
    (hsip : KnownIp sip)
    (hrid : p.maps.meetingparticipantReplicationidMap.lookup (mid, (dip, dport)) = some rid) :
    p.rules.ipv4Routes.table.lookup (ipNumber sip, sport, ssrc, rid) = some rewritten ↔
      rewritten = (ipNumber dip, dport) ∧ ∃ c ∈ cmds, c.mid = mid ∧ c.src = (sip, sport) ∧
        c.dst = (dip, dport) ∧ ssrc ∈ c.ssrcs := by
  rw [h.rules.routes.table]
  constructor
  · rintro ⟨x, ⟨c, hc, hs, hxs, hxp, hxd, hxq, hr⟩, he⟩
    have hkx : KnownIp x.sip := hxs ▸ (hknown c hc).1
    rw [RouteRule.entry_of_known hkx (hxd ▸ (hknown c hc).2)] at he
    obtain ⟨hkey, hto⟩ := Prod.mk.inj (Except.ok.inj he)
    obtain ⟨hip, hkey⟩ := Prod.mk.inj hkey
    obtain ⟨hport, hkey⟩ := Prod.mk.inj hkey
    obtain ⟨hssrc, hrid'⟩ := Prod.mk.inj hkey
    have hdst := h.maps.replicationid.inj hr (hrid' ▸ hrid)
    obtain ⟨hmid, hdst⟩ := Prod.mk.inj hdst
    obtain ⟨hdip, hdport⟩ := Prod.mk.inj (show (c.dip, c.dport) = (dip, dport) from hdst)
    refine ⟨?_, c, hc, hmid, ?_, hdst, hssrc ▸ hs⟩
    · rw [← hto, hxd, hxq, hdip, hdport]
    · show (c.sip, c.sport) = (sip, sport)
      rw [← hxs, ← hxp, ipNumber_inj hkx hsip hip, hport]
  · rintro ⟨rfl, c, hc, rfl, hsrc, hdst, hs⟩
    obtain ⟨rfl, rfl⟩ := Prod.mk.inj (show (c.sip, c.sport) = (sip, sport) from hsrc)
    obtain ⟨rfl, rfl⟩ := Prod.mk.inj (show (c.dip, c.dport) = (dip, dport) from hdst)
    exact ⟨⟨c.sip, c.sport, ssrc, rid, c.dip, c.dport⟩, ⟨c, hc, hs, rfl, rfl, rfl, rfl, hrid⟩,
      RouteRule.entry_of_known hsip (hknown c hc).2⟩

/-- Streams between known addresses, for which there are identifiers, each endpoint in one meeting. -/
structure Admissible (cmds : List (AddStream μ)) : Prop where
  known : ∀ c ∈ cmds, c.Known
  within : Within cmds
  oneMeeting : OneMeeting cmds

theorem Pre.Right.addStream {p : Pre μ} (h : p.Right cmds) (hc : Admissible (cmds ++ [c])) :
    ∃ p', p.addStream c = .ok p' ∧ p'.Right (cmds ++ [c]) ∧ p.maps.Keeps p'.maps := by
  have hknown := hc.known c (List.mem_append_right _ List.mem_cons_self)
  obtain ⟨s, hs, hstate⟩ := updateLocalState_ok h.state hknown
  obtain ⟨m, hm, hmaps, hkeeps⟩ := updateMappings_ok h.maps hknown hc.within
  obtain ⟨r, hr, hrules⟩ := processRules_ok hstate hmaps hc.oneMeeting hc.known
    (h.rules.keeps h.maps hkeeps hmaps) (participantsOf_updateLocalState hs)
  refine ⟨{ p with state := s, maps := m, rules := r }, ?_, ⟨hstate, hmaps, hrules⟩, hkeeps⟩
  unfold Pre.addStream
  rw [hs]
  dsimp only [Except.bind]
  rw [hm]
  dsimp only
  rw [hr]
  rfl

theorem Admissible.of_append {rest : List (AddStream μ)} (h : Admissible (cmds ++ rest)) :
    Admissible cmds where
  known c hc := h.known c (List.mem_append_left _ hc)
  within := h.within.of_append
  oneMeeting mid mid' e ho ho' := by
    obtain ⟨c, hc, hce⟩ := ho
    obtain ⟨c', hc', hce'⟩ := ho'
    exact h.oneMeeting mid mid' e ⟨c, List.mem_append_left _ hc, hce⟩
      ⟨c', List.mem_append_left _ hc', hce'⟩

theorem Pre.Right.addStreams {rest : List (AddStream μ)} {p : Pre μ} (h : p.Right cmds)
    (hc : Admissible (cmds ++ rest)) :
    ∃ p', p.addStreams rest = .ok p' ∧ p'.Right (cmds ++ rest) ∧ p.maps.Keeps p'.maps := by
  induction rest generalizing cmds p with
  | nil =>
      rw [List.append_nil]
      exact ⟨p, rfl, h, .refl _⟩
  | cons c rest ih =>
      have happ : cmds ++ c :: rest = (cmds ++ [c]) ++ rest := (List.append_cons cmds c rest)
      rw [happ] at hc ⊢
      obtain ⟨p₁, hp₁, hright, hkeeps⟩ := h.addStream hc.of_append
      obtain ⟨p', hp', hright', hkeeps'⟩ := ih hright hc
      refine ⟨p', ?_, hright', hkeeps.trans hkeeps'⟩
      show (p.addStream c).bind (Pre.addStreams rest) = .ok p'
      rw [hp₁]
      exact hp'

theorem Pre.addStreams_append (pre post : List (AddStream μ)) (p : Pre μ) :
    p.addStreams (pre ++ post) = (p.addStreams pre).bind (Pre.addStreams post) := by
  induction pre generalizing p with
  | nil => rfl
  | cons c pre ih =>
      show (p.addStream c).bind (Pre.addStreams (pre ++ post)) =
        ((p.addStream c).bind (Pre.addStreams pre)).bind (Pre.addStreams post)
      cases p.addStream c with
      | error e => rfl
      | ok p' => exact ih p'

/-- Streams between known addresses, for which there are identifiers, each endpoint in one meeting: the
identifiers are unique, not zero, and stay as they are; the group of a meeting has the nodes of its
participants; a copy is rewritten for a receiver if and only if that stream was added. -/
theorem Pre.addStreams_groups (cmds : List (AddStream μ)) (h : Admissible cmds) :
    ∃ p : Pre μ, Pre.addStreams cmds {} = .ok p ∧
      (Numbering (Meets cmds) p.maps.meetingMgidMap ∧
        Numbering (fun e => ∃ mid, Occurs cmds mid e) p.maps.participantNodeidMap ∧
        Numbering (fun k => Occurs cmds k.1 k.2) p.maps.meetingparticipantReplicationidMap) ∧
      (∀ earlier later, cmds = earlier ++ later →
        ∃ p' : Pre μ, Pre.addStreams earlier {} = .ok p' ∧ p'.maps.Keeps p.maps) ∧
      (∀ mid, Meets cmds mid → ∃ mgid g, p.maps.meetingMgidMap.lookup mid = some mgid ∧
        p.rules.mgidsParticipants.table.lookup mgid = some g ∧ g.nids.Nodup ∧
        ∀ nid, nid ∈ g.nids ↔
          ∃ e, Occurs cmds mid e ∧ p.maps.participantNodeidMap.lookup e = some nid) ∧
      ∀ mid sip sport ssrc dip dport rid, KnownIp sip →
        p.maps.meetingparticipantReplicationidMap.lookup (mid, (dip, dport)) = some rid →
        ∀ rewritten, p.rules.ipv4Routes.table.lookup (ipNumber sip, sport, ssrc, rid) =
            some rewritten ↔
          rewritten = (ipNumber dip, dport) ∧ ∃ c ∈ cmds, c.mid = mid ∧ c.src = (sip, sport) ∧
            c.dst = (dip, dport) ∧ ssrc ∈ c.ssrcs := by
  obtain ⟨p, hp, hright, -⟩ := Pre.right_init.addStreams h
  refine ⟨p, hp, ⟨hright.maps.mgid, hright.maps.nodeid, hright.maps.replicationid⟩, ?_, ?_, ?_⟩
  · rintro earlier later rfl
    obtain ⟨p', hp', hright', -⟩ := (Pre.right_init).addStreams (show Admissible ([] ++ earlier) from h.of_append)
    obtain ⟨p₂, hp₂, -, hkeeps⟩ := hright'.addStreams h
    have heq : Pre.addStreams (earlier ++ later) {} = .ok p₂ := by
      rw [Pre.addStreams_append, hp']
      exact hp₂
    obtain rfl := Except.ok.inj (heq.symm.trans hp)
    exact ⟨p', hp', hkeeps⟩
  · intro mid hmeets
    exact hright.group_of_meets hmeets
  · intro mid sip sport ssrc dip dport rid hsip hrid rewritten
    exact hright.route_iff h.known hsip hrid

/-- Two participants of a meeting send to each other, one of them with retransmissions. -/
def twoStreams : List (AddStream Nat) :=
  [{ mid := 0, sip := "10.0.211.1", sport := 3000, ssrc := 1, ssrcRtx := 2, dip := "10.0.211.2",
     dport := 4000 },
   { mid := 0, sip := "10.0.211.2", sport := 4000, ssrc := 3, ssrcRtx := 0, dip := "10.0.211.1",
     dport := 3000 }]

theorem admissible_twoStreams : Admissible twoStreams where
  known c hc := by
    have h₁ : KnownIp "10.0.211.1" := ⟨4, by decide +kernel⟩
    have h₂ : KnownIp "10.0.211.2" := ⟨44, by decide +kernel⟩
    rcases List.mem_pair.mp hc with rfl | rfl
    · exact ⟨h₁, h₂⟩
    · exact ⟨h₂, h₁⟩
  within := ⟨by decide +kernel, by decide +kernel⟩
  oneMeeting mid mid' e ho ho' := by
    have hzero (c : AddStream Nat) (hc : c ∈ twoStreams) : c.mid = 0 := by
      rcases List.mem_pair.mp hc with rfl | rfl <;> rfl
    obtain ⟨c, hc, rfl, -⟩ := ho
    obtain ⟨c', hc', rfl, -⟩ := ho'
    rw [hzero c hc, hzero c' hc']

theorem Pre.addStreams_groups_twoStreams :
    ∃ p : Pre Nat, Pre.addStreams twoStreams {} = .ok p ∧
      ∃ mgid g, p.maps.meetingMgidMap.lookup 0 = some mgid ∧
        p.rules.mgidsParticipants.table.lookup mgid = some g ∧ g.nids.Nodup ∧
        ∀ nid, nid ∈ g.nids ↔
          ∃ e, Occurs twoStreams 0 e ∧ p.maps.participantNodeidMap.lookup e = some nid := by
  obtain ⟨p, hp, -, -, hgroups, -⟩ := Pre.addStreams_groups twoStreams admissible_twoStreams
  exact ⟨p, hp, hgroups 0 ⟨_, List.mem_cons_self, rfl⟩⟩

end Tofino

end Scallop
