import Scallop.Lib.Except
import Scallop.Tofino.Model

/-!
# Who has which identifier

* `Occurs` : an endpoint takes part in a meeting; `Within` : there are identifiers for all;
* `StateRight`, `MapsRight` : the dictionaries of the class, after some streams were added;
* `updateLocalState_ok`, `updateMappings_ok` : and after one more; nothing that was assigned changes;
* `updateLocalState_error` : an address without an egress port is a missing key.
-/

namespace Scallop

namespace Tofino

open Allocation

variable {μ : Type} {cmds : List (AddStream μ)} {c : AddStream μ} {mid : μ} {e : Endpoint}

/-! ## Streams that were added -/

def Meets (cmds : List (AddStream μ)) (mid : μ) : Prop := ∃ c ∈ cmds, c.mid = mid

/-- An endpoint that a stream of the meeting comes from or goes to. -/
def Occurs (cmds : List (AddStream μ)) (mid : μ) (e : Endpoint) : Prop :=
  ∃ c ∈ cmds, c.mid = mid ∧ (e = c.src ∨ e = c.dst)

def AddStream.participants (c : AddStream μ) : List (μ × Endpoint) :=
  [(c.mid, c.src), (c.mid, c.dst)]

def KnownIp (ip : String) : Prop := ∃ eport, EGRESS_PORTS.lookup ip = some eport

/-- A stream between addresses that have egress ports. -/
def AddStream.Known (c : AddStream μ) : Prop := KnownIp c.sip ∧ KnownIp c.dip

theorem exists_mem_snoc {α : Type} {p : α → Prop} {as : List α} {a : α} :
    (∃ x ∈ as ++ [a], p x) ↔ (∃ x ∈ as, p x) ∨ p a := by
  constructor
  · rintro ⟨x, hx, hp⟩
    rcases List.mem_append.mp hx with hx | hx
    · exact .inl ⟨x, hx, hp⟩
    · exact .inr (List.mem_singleton.mp hx ▸ hp)
  · rintro (⟨x, hx, hp⟩ | hp)
    · exact ⟨x, List.mem_append_left _ hx, hp⟩
    · exact ⟨a, List.mem_append_right _ List.mem_cons_self, hp⟩

theorem meets_append : Meets (cmds ++ [c]) mid ↔ Meets cmds mid ∨ mid = c.mid := by
  rw [eq_comm (a := mid)]
  exact exists_mem_snoc

theorem occurs_append : Occurs (cmds ++ [c]) mid e ↔
    Occurs cmds mid e ∨ (c.mid = mid ∧ (e = c.src ∨ e = c.dst)) := exists_mem_snoc

theorem occurs_src : Occurs (cmds ++ [c]) c.mid c.src := occurs_append.mpr (.inr ⟨rfl, .inl rfl⟩)

theorem occurs_dst : Occurs (cmds ++ [c]) c.mid c.dst := occurs_append.mpr (.inr ⟨rfl, .inr rfl⟩)

theorem eq_pair_iff {k : μ × Endpoint} : k = (mid, e) ↔ mid = k.1 ∧ k.2 = e :=
  ⟨fun h => h ▸ ⟨rfl, rfl⟩, fun h => Prod.ext h.1.symm h.2⟩

theorem occurs_pair {k : μ × Endpoint} : Occurs (cmds ++ [c]) k.1 k.2 ↔
    (Occurs cmds k.1 k.2 ∨ k = (c.mid, c.src)) ∨ k = (c.mid, c.dst) := by
  rw [occurs_append, or_assoc, eq_pair_iff, eq_pair_iff, ← and_or_left]

theorem mem_participants {k : μ × Endpoint} :
    k ∈ cmds.flatMap AddStream.participants ↔ Occurs cmds k.1 k.2 := by
  rw [List.mem_flatMap]
  refine exists_congr fun c => and_congr_right fun _ => ?_
  show k ∈ [(c.mid, c.src), (c.mid, c.dst)] ↔ _
  rw [List.mem_cons, List.mem_singleton, eq_pair_iff, eq_pair_iff, ← and_or_left]

variable [DecidableEq μ]

/-- There are as many identifiers as are needed. -/
structure Within (cmds : List (AddStream μ)) : Prop where
  meetings : (cmds.map AddStream.mid).dedup.length ≤ 64000
  participants : (cmds.flatMap AddStream.participants).dedup.length ≤ 2 ^ 16 - 1

theorem dedup_length_le {α : Type} [DecidableEq α] {as bs : List α} (h : as ⊆ bs) :
    as.dedup.length ≤ bs.dedup.length :=
  (List.subperm_of_subset as.nodup_dedup fun _ ha =>
    List.mem_dedup.mpr (h (List.mem_dedup.mp ha))).length_le

theorem dedup_map_length_le {α β : Type} [DecidableEq α] [DecidableEq β] (f : α → β) (as : List α) :
    (as.map f).dedup.length ≤ as.dedup.length := by
  have hsub : (as.map f).dedup ⊆ as.dedup.map f := by
    intro b hb
    obtain ⟨a, ha, rfl⟩ := List.mem_map.mp (List.mem_dedup.mp hb)
    exact List.mem_map_of_mem (List.mem_dedup.mpr ha)
  have hle := (List.subperm_of_subset (as.map f).nodup_dedup hsub).length_le
  rwa [List.length_map] at hle

theorem Within.of_append {rest : List (AddStream μ)} (h : Within (cmds ++ rest)) : Within cmds where
  meetings := Nat.le_trans (dedup_length_le (List.map_subset _ (List.subset_append_left _ _)))
    h.meetings
  participants := by
    refine Nat.le_trans (dedup_length_le fun k hk => ?_) h.participants
    rw [List.flatMap_append]
    exact List.mem_append_left _ hk

/-- The endpoints are no more than the participants of all meetings. -/
theorem Within.endpoints (h : Within cmds) :
    ((cmds.flatMap AddStream.participants).map Prod.snd).dedup.length ≤ 2 ^ 32 - 1 := by
  have hle := dedup_map_length_le Prod.snd (cmds.flatMap AddStream.participants)
  have hparts := h.participants
  omega

/-! ## Local state -/

def LocalState.participantsOf (s : LocalState μ) (mid : μ) : List Endpoint :=
  (s.meetingParticipants.lookup mid).getD []

/-- Who takes part in which meeting is remembered, and the port of each. -/
structure StateRight (cmds : List (AddStream μ)) (s : LocalState μ) : Prop where
  meetings : ∀ mid, (s.meetingParticipants.lookup mid).isSome ↔ Meets cmds mid
  nodup : ∀ mid, (s.participantsOf mid).Nodup
  participants : ∀ mid e, e ∈ s.participantsOf mid ↔ Occurs cmds mid e
  eports : ∀ mid e eport, s.meetingparticipantEportMap.lookup (mid, e) = some eport ↔
    Occurs cmds mid e ∧ EGRESS_PORTS.lookup e.1 = some eport

theorem stateRight_empty : StateRight [] ({} : LocalState μ) where
  meetings _ := iff_of_false Bool.false_ne_true (fun h => nomatch h.choose_spec.1)
  nodup _ := List.nodup_nil
  participants _ _ := iff_of_false List.not_mem_nil (fun h => nomatch h.choose_spec.1)
  eports _ _ _ := iff_of_false (fun h => nomatch h) (fun h => nomatch h.1.choose_spec.1)

theorem nodup_addParticipant {l : List Endpoint} (h : l.Nodup) (e : Endpoint) :
    (addParticipant l e).Nodup := by
  unfold addParticipant
  split
  next => exact h
  next he => exact List.nodup_append.mpr ⟨h, List.nodup_singleton e, fun a ha b hb => by
      obtain rfl := List.mem_singleton.mp hb
      rintro rfl
      exact he ha⟩

theorem mem_addParticipant {l : List Endpoint} {e f : Endpoint} :
    f ∈ addParticipant l e ↔ f ∈ l ∨ f = e := by
  unfold addParticipant
  split
  next he =>
    refine (or_iff_left_of_imp ?_).symm
    rintro rfl
    exact he
  next => rw [List.mem_append, List.mem_singleton]

theorem egressPort_of_lookup {ip : String} {eport : Nat} (h : EGRESS_PORTS.lookup ip = some eport) :
    egressPort ip = .ok eport := by
  unfold egressPort
  rw [h]

theorem egressPort_error {ip : String} (h : ¬ KnownIp ip) : egressPort ip = .error .keyError := by
  unfold egressPort
  split
  next eport he => exact absurd ⟨eport, he⟩ h
  next => rfl

/-- The port of a participant is assigned, once. -/
theorem assignEport_ok {d : UnorderedMap (μ × Endpoint) Nat} {e : Endpoint} {eport : Nat} (mid : μ)
    (hold : ∀ q, d.lookup (mid, e) = some q → q = eport)
    (hport : EGRESS_PORTS.lookup e.1 = some eport) :
    ∃ d', assignEport mid e d = .ok d' ∧ ∀ k q, d'.lookup k = some q ↔
      d.lookup k = some q ∨ k = (mid, e) ∧ q = eport := by
  unfold assignEport
  split
  next hsome =>
    obtain ⟨q, hq⟩ := Option.isSome_iff_exists.mp hsome
    refine ⟨d, rfl, fun k q' => (or_iff_left_of_imp ?_).symm⟩
    rintro ⟨rfl, rfl⟩
    rw [hq, hold q hq]
  next hnone =>
    rw [egressPort_of_lookup hport]
    refine ⟨_, rfl, fun k q => ?_⟩
    rw [UnorderedMap.lookup_insert_iff]
    by_cases hk : k = (mid, e)
    · subst hk
      rw [Option.not_isSome_iff_eq_none.mp hnone]
      simp [eq_comm]
    · simp [hk]

theorem updateLocalState_ok {s : LocalState μ} (h : StateRight cmds s) (hc : c.Known) :
    ∃ s', updateLocalState c s = .ok s' ∧ StateRight (cmds ++ [c]) s' := by
  obtain ⟨⟨p, hp⟩, q, hq⟩ := hc
  have hold {e : Endpoint} {r : Nat} (hr : EGRESS_PORTS.lookup e.1 = some r) (x : Nat)
      (hx : s.meetingparticipantEportMap.lookup (c.mid, e) = some x) : x = r :=
    Option.some.inj (((h.eports _ _ _).mp hx).2.symm.trans hr)
  obtain ⟨d, hd, hdl⟩ := assignEport_ok c.mid (hold (show EGRESS_PORTS.lookup c.src.1 = _ from hp)) hp
  have hold' (x : Nat) (hx : d.lookup (c.mid, c.dst) = some x) : x = q := by
    rcases (hdl _ _).mp hx with hx | ⟨hk, rfl⟩
    · exact hold (show EGRESS_PORTS.lookup c.dst.1 = _ from hq) x hx
    · have hip : c.dip = c.sip := congrArg (fun k : μ × Endpoint => k.2.1) hk
      rw [hip, hp] at hq
      exact Option.some.inj hq
  obtain ⟨d', hd', hdl'⟩ := assignEport_ok c.mid hold' hq
  unfold updateLocalState
  rw [hd]
  dsimp only [bind, Except.bind]
  rw [hd']
  refine ⟨_, rfl, ?_, ?_, ?_, ?_⟩
  · intro mid
    rw [meets_append, ← h.meetings]
    dsimp only
    by_cases hm : mid = c.mid
    · subst hm
      rw [AList.lookup_insert]
      exact iff_of_true rfl (.inr rfl)
    · rw [AList.lookup_insert_ne hm]
      exact (or_iff_left hm).symm
  · intro mid
    unfold LocalState.participantsOf
    dsimp only
    by_cases hm : mid = c.mid
    · subst hm
      rw [AList.lookup_insert]
      exact nodup_addParticipant (nodup_addParticipant (h.nodup c.mid) _) _
    · rw [AList.lookup_insert_ne hm]
      exact h.nodup mid
  · intro mid e
    unfold LocalState.participantsOf
    dsimp only
    rw [occurs_append, ← h.participants]
    by_cases hm : mid = c.mid
    · subst hm
      rw [AList.lookup_insert]
      show e ∈ addParticipant (addParticipant (s.participantsOf c.mid) c.src) c.dst ↔ _
      rw [mem_addParticipant, mem_addParticipant, or_assoc]
      simp
    · rw [AList.lookup_insert_ne hm]
      exact (or_iff_left fun hc => hm hc.1.symm).symm
  · intro mid e x
    dsimp only
    rw [hdl', hdl, h.eports, occurs_append, eq_pair_iff, eq_pair_iff]
    constructor
    · rintro ((⟨ho, hx⟩ | ⟨⟨hm, he⟩, rfl⟩) | ⟨⟨hm, he⟩, rfl⟩)
      · exact ⟨.inl ho, hx⟩
      · obtain rfl : e = c.src := he
        exact ⟨.inr ⟨hm, .inl rfl⟩, hp⟩
      · obtain rfl : e = c.dst := he
        exact ⟨.inr ⟨hm, .inr rfl⟩, hq⟩
    · rintro ⟨ho | ⟨hm, he | he⟩, hx⟩
      · exact .inl (.inl ⟨ho, hx⟩)
      · subst he
        exact .inl (.inr ⟨⟨hm, rfl⟩, Option.some.inj (hx.symm.trans hp)⟩)
      · subst he
        exact .inr ⟨⟨hm, rfl⟩, Option.some.inj (hx.symm.trans hq)⟩

theorem participantsOf_updateLocalState {s s' : LocalState μ} (h : updateLocalState c s = .ok s')
    (mid : μ) : s'.participantsOf mid =
      if mid = c.mid then addParticipant (addParticipant (s.participantsOf mid) c.src) c.dst
      else s.participantsOf mid := by
  obtain ⟨d, -, h⟩ := Except.of_bind_ok h
  obtain ⟨d', -, h⟩ := Except.of_bind_ok h
  obtain rfl := Except.ok.inj h
  unfold LocalState.participantsOf
  dsimp only
  split
  next hm => rw [hm, AList.lookup_insert]; rfl
  next hm => rw [AList.lookup_insert_ne hm]

/-- An address without an egress port is a missing key. -/
theorem updateLocalState_error {s : LocalState μ} (h : StateRight cmds s) (hc : ¬ c.Known) :
    updateLocalState c s = .error .keyError := by
  have hnone {d : UnorderedMap (μ × Endpoint) Nat} {e : Endpoint} (he : ¬ KnownIp e.1)
      (hd : ∀ q, d.lookup (c.mid, e) = some q → EGRESS_PORTS.lookup e.1 = some q) :
      assignEport c.mid e d = .error .keyError := by
    unfold assignEport
    split
    next hsome =>
      obtain ⟨q, hq⟩ := Option.isSome_iff_exists.mp hsome
      exact absurd ⟨q, hd q hq⟩ he
    next => rw [egressPort_error he]; rfl
  have hold {e : Endpoint} (q : Nat)
      (hq : s.meetingparticipantEportMap.lookup (c.mid, e) = some q) :
      EGRESS_PORTS.lookup e.1 = some q := ((h.eports _ _ _).mp hq).2
  unfold updateLocalState
  by_cases hsip : KnownIp c.sip
  · obtain ⟨p, hp⟩ := hsip
    obtain ⟨d, hd, hdl⟩ := assignEport_ok c.mid
      (fun q hq => Option.some.inj ((hold q hq).symm.trans hp)) (show EGRESS_PORTS.lookup c.src.1 = _ from hp)
    rw [hd]
    dsimp only [bind, Except.bind]
    rw [hnone fun hdip => hc ⟨⟨p, hp⟩, hdip⟩]
    intro q hq
    rcases (hdl _ _).mp hq with hq | ⟨hk, rfl⟩
    · exact hold q hq
    · have he : c.dst = c.src := (eq_pair_iff.mp hk).2
      rw [he]
      exact hp
  · rw [@hnone _ c.src hsip hold]
    rfl

/-! ## Data plane mappings -/

/-- The identifiers of the meetings and of their participants. -/
structure MapsRight (cmds : List (AddStream μ)) (m : Mappings μ) : Prop where
  mgid : Numbering (Meets cmds) m.meetingMgidMap
  nodeid : Numbering (fun e => ∃ mid, Occurs cmds mid e) m.participantNodeidMap
  replicationid : Numbering (fun k => Occurs cmds k.1 k.2) m.meetingparticipantReplicationidMap
  l1exclusionid : Grows m.meetingparticipantL1exclusionidMap m.meetingparticipantReplicationidMap
  hasL1exclusionid : ∀ k, (∃ v, m.meetingparticipantL1exclusionidMap.lookup k = some v) ↔
    Occurs cmds k.1 k.2
  l2exclusionid : ∀ eport x, m.eportL2exclusionidMap.lookup eport = some x ↔
    x = eport ∧ ∃ mid e, Occurs cmds mid e ∧ EGRESS_PORTS.lookup e.1 = some eport

structure Mappings.Keeps (m m' : Mappings μ) : Prop where
  mgid : Grows m.meetingMgidMap m'.meetingMgidMap
  nodeid : Grows m.participantNodeidMap m'.participantNodeidMap
  replicationid :
    Grows m.meetingparticipantReplicationidMap m'.meetingparticipantReplicationidMap

theorem Mappings.Keeps.refl (m : Mappings μ) : m.Keeps m := ⟨.refl _, .refl _, .refl _⟩

theorem Mappings.Keeps.trans {m m' m'' : Mappings μ} (h : m.Keeps m') (h' : m'.Keeps m'') :
    m.Keeps m'' where
  mgid := h.mgid.trans h'.mgid
  nodeid := h.nodeid.trans h'.nodeid
  replicationid := h.replicationid.trans h'.replicationid

theorem mapsRight_empty : MapsRight [] ({} : Mappings μ) where
  mgid := numbering_empty.congr fun _ => iff_of_false id fun h => nomatch h.choose_spec.1
  nodeid := numbering_empty.congr fun _ =>
    iff_of_false id fun h => nomatch h.choose_spec.choose_spec.1
  replicationid := numbering_empty.congr fun _ => iff_of_false id fun h => nomatch h.choose_spec.1
  l1exclusionid _ _ h := nomatch h
  hasL1exclusionid _ := iff_of_false (fun h => nomatch h.choose_spec) fun h =>
    nomatch h.choose_spec.1
  l2exclusionid _ _ := iff_of_false (fun h => nomatch h) fun h =>
    nomatch h.2.choose_spec.choose_spec.1.choose_spec.1

section Assignments
variable (m : Mappings μ)

theorem assignMgid_ok (h : Numbering (Meets cmds) m.meetingMgidMap) (hw : Within (cmds ++ [c])) :
    ∃ d, assignMgid c.mid m = .ok { m with meetingMgidMap := d } ∧
      Numbering (Meets (cmds ++ [c])) d ∧ Grows m.meetingMgidMap d := by
  have hks (l : μ) (hl : Meets cmds l) : l ∈ (cmds ++ [c]).map AddStream.mid := by
    obtain ⟨c', hc', rfl⟩ := hl
    exact List.mem_map_of_mem (List.mem_append_left _ hc')
  have hk : c.mid ∈ (cmds ++ [c]).map AddStream.mid :=
    List.mem_map_of_mem (List.mem_append_right _ List.mem_cons_self)
  obtain ⟨d, hd, hnum⟩ := h.assign hks hk hw.meetings
  refine ⟨d, ?_, hnum.congr fun l => meets_append.symm, grows_assign hd⟩
  unfold assignMgid
  rw [hd]
  rfl

/-- `cmds'` are the streams for whose endpoints there are node ids. -/
theorem assignNodeid_ok {cmds' : List (AddStream μ)} {dom : Endpoint → Prop} {e : Endpoint}
    (h : Numbering dom m.participantNodeidMap) (hdom : ∀ f, dom f → ∃ mid, Occurs cmds' mid f)
    (he : Occurs cmds' mid e) (hw : Within cmds') :
    ∃ d, assignNodeid e m = .ok { m with participantNodeidMap := d } ∧
      Numbering (fun f => dom f ∨ f = e) d ∧ Grows m.participantNodeidMap d := by
  have hmem {mid : μ} {f : Endpoint} (hf : Occurs cmds' mid f) :
      f ∈ (cmds'.flatMap AddStream.participants).map Prod.snd :=
    List.mem_map.mpr ⟨(mid, f), mem_participants.mpr hf, rfl⟩
  have hks (f : Endpoint) (hf : dom f) : f ∈ (cmds'.flatMap AddStream.participants).map Prod.snd :=
    (hdom f hf).elim fun _ => hmem
  obtain ⟨d, hd, hnum⟩ := h.assign hks (hmem he) hw.endpoints
  refine ⟨d, ?_, hnum, grows_assign hd⟩
  unfold assignNodeid
  rw [hd]
  rfl

theorem assignReplicationid_ok {cmds' : List (AddStream μ)} {dom : μ × Endpoint → Prop}
    (h : Numbering dom m.meetingparticipantReplicationidMap)
    (hdom : ∀ k, dom k → Occurs cmds' k.1 k.2) (he : Occurs cmds' mid e) (hw : Within cmds') :
    ∃ d, assignReplicationid mid e m = .ok { m with meetingparticipantReplicationidMap := d } ∧
      Numbering (fun k => dom k ∨ k = (mid, e)) d ∧
      Grows m.meetingparticipantReplicationidMap d := by
  obtain ⟨d, hd, hnum⟩ := h.assign (fun k hk => mem_participants.mpr (hdom k hk))
    (mem_participants.mpr (show Occurs cmds' (mid, e).1 (mid, e).2 from he)) hw.participants
  refine ⟨d, ?_, hnum, grows_assign hd⟩
  unfold assignReplicationid
  rw [hd]
  rfl

theorem assignL1exclusionid_ok {v : Nat}
    (h : Grows m.meetingparticipantL1exclusionidMap m.meetingparticipantReplicationidMap)
    (hv : m.meetingparticipantReplicationidMap.lookup (mid, e) = some v) :
    ∃ d, assignL1exclusionid mid e m = .ok { m with meetingparticipantL1exclusionidMap := d } ∧
      Grows d m.meetingparticipantReplicationidMap ∧
      ∀ k, (∃ v, d.lookup k = some v) ↔
        (∃ v, m.meetingparticipantL1exclusionidMap.lookup k = some v) ∨ k = (mid, e) := by
  unfold assignL1exclusionid
  split
  next hsome =>
    refine ⟨_, rfl, h, fun k => (or_iff_left_of_imp ?_).symm⟩
    rintro rfl
    exact Option.isSome_iff_exists.mp hsome
  next =>
    have hitem : item m.meetingparticipantReplicationidMap (mid, e) = .ok v := by
      unfold item
      rw [hv]
    rw [hitem]
    refine ⟨_, rfl, fun k w hw => ?_, fun k => ?_⟩
    · rcases UnorderedMap.lookup_insert_iff.mp hw with ⟨rfl, rfl⟩ | ⟨-, hw⟩
      · exact hv
      · exact h hw
    · by_cases hk : k = (mid, e)
      · subst hk
        exact iff_of_true ⟨v, AList.lookup_insert _⟩ (.inr rfl)
      · rw [AList.lookup_insert_ne hk]
        exact (or_iff_left hk).symm

omit [DecidableEq μ] in
theorem assignL2exclusionid_ok {ip : String} {eport : Nat}
    (h : ∀ q x, m.eportL2exclusionidMap.lookup q = some x → x = q)
    (hip : EGRESS_PORTS.lookup ip = some eport) :
    ∃ d, assignL2exclusionid ip m = .ok { m with eportL2exclusionidMap := d } ∧
      ∀ q x, d.lookup q = some x ↔
        m.eportL2exclusionidMap.lookup q = some x ∨ x = q ∧ q = eport := by
  unfold assignL2exclusionid
  rw [egressPort_of_lookup hip]
  dsimp only
  split
  next hsome =>
    obtain ⟨x, hx⟩ := Option.isSome_iff_exists.mp hsome
    refine ⟨_, rfl, fun q y => (or_iff_left_of_imp ?_).symm⟩
    rintro ⟨rfl, rfl⟩
    rw [hx, h _ x hx]
  next hnone =>
    refine ⟨_, rfl, fun q x => ?_⟩
    rw [UnorderedMap.lookup_insert_iff]
    constructor
    · rintro (⟨rfl, rfl⟩ | ⟨-, hq⟩)
      · exact .inr ⟨rfl, rfl⟩
      · exact .inl hq
    · rintro (hq | ⟨rfl, rfl⟩)
      · refine .inr ⟨?_, hq⟩
        rintro rfl
        rw [hq] at hnone
        exact hnone rfl
      · exact .inl ⟨rfl, rfl⟩

end Assignments

/-- One more stream: the identifiers that are there stay, and its participants get theirs. -/
theorem updateMappings_ok {m : Mappings μ} (h : MapsRight cmds m) (hc : c.Known)
    (hw : Within (cmds ++ [c])) : ∃ m', updateMappings c m = .ok m' ∧
      MapsRight (cmds ++ [c]) m' ∧ m.Keeps m' := by
  obtain ⟨⟨p, hp⟩, q, hq⟩ := hc
  have hold (mid : μ) (e : Endpoint) (ho : Occurs cmds mid e) : Occurs (cmds ++ [c]) mid e :=
    occurs_append.mpr (.inl ho)
  obtain ⟨mgids, hmgids, hmgid, hmgidKeeps⟩ := assignMgid_ok m h.mgid hw
  let m₁ : Mappings μ := { m with meetingMgidMap := mgids }
  obtain ⟨nids₁, hnids₁, hnid₁, hnidKeeps₁⟩ := assignNodeid_ok m₁ h.nodeid
    (fun f hf => hf.imp fun mid => hold mid f) occurs_src hw
  let m₂ : Mappings μ := { m₁ with participantNodeidMap := nids₁ }
  obtain ⟨nids, hnids, hnid, hnidKeeps⟩ := assignNodeid_ok m₂ hnid₁
    (fun f hf => hf.elim (fun hf => hf.imp fun mid => hold mid f) fun hf => ⟨_, hf ▸ occurs_src⟩)
    occurs_dst hw
  let m₃ : Mappings μ := { m₂ with participantNodeidMap := nids }
  obtain ⟨rids₁, hrids₁, hrid₁, hridKeeps₁⟩ := assignReplicationid_ok m₃ h.replicationid
    (fun k => hold k.1 k.2) occurs_src hw
  let m₄ : Mappings μ := { m₃ with meetingparticipantReplicationidMap := rids₁ }
  obtain ⟨rids, hrids, hrid₂, hridKeeps⟩ := assignReplicationid_ok m₄ hrid₁
    (fun k hk => hk.elim (hold k.1 k.2) fun hk => hk ▸ occurs_src) occurs_dst hw
  have hrid := hrid₂.congr fun k => occurs_pair.symm
  obtain ⟨rsrc, hrsrc⟩ := (hrid.has (c.mid, c.src)).mpr occurs_src
  obtain ⟨rdst, hrdst⟩ := (hrid.has (c.mid, c.dst)).mpr occurs_dst
  let m₅ : Mappings μ := { m₄ with meetingparticipantReplicationidMap := rids }
  obtain ⟨l1₁, hl1₁, hl1Sub₁, hl1Has₁⟩ := assignL1exclusionid_ok m₅
    (h.l1exclusionid.trans (hridKeeps₁.trans hridKeeps)) hrsrc
  let m₆ : Mappings μ := { m₅ with meetingparticipantL1exclusionidMap := l1₁ }
  obtain ⟨l1, hl1, hl1Sub, hl1Has⟩ := assignL1exclusionid_ok m₆ hl1Sub₁ hrdst
  let m₇ : Mappings μ := { m₆ with meetingparticipantL1exclusionidMap := l1 }
  obtain ⟨l2₁, hl2₁, hl2Has₁⟩ := assignL2exclusionid_ok m₇
    (fun q x hx => ((h.l2exclusionid q x).mp hx).1) hp
  let m₈ : Mappings μ := { m₇ with eportL2exclusionidMap := l2₁ }
  obtain ⟨l2, hl2, hl2Has⟩ := assignL2exclusionid_ok m₈
    (fun q x hx => ((hl2Has₁ q x).mp hx).elim (fun hx => ((h.l2exclusionid q x).mp hx).1) And.left) hq
  refine ⟨{ m₈ with eportL2exclusionidMap := l2 }, ?_, ⟨hmgid, hnid.congr ?_, hrid, hl1Sub, ?_, ?_⟩,
    hmgidKeeps, hnidKeeps₁.trans hnidKeeps, hridKeeps₁.trans hridKeeps⟩
  · calc updateMappings c m
        = (assignMgid c.mid m >>= fun m => assignNodeid c.src m >>= fun m =>
            assignNodeid c.dst m >>= fun m => assignReplicationid c.mid c.src m >>= fun m =>
            assignReplicationid c.mid c.dst m >>= fun m => assignL1exclusionid c.mid c.src m >>=
            fun m => assignL1exclusionid c.mid c.dst m >>= fun m =>
            assignL2exclusionid c.sip m >>= assignL2exclusionid c.dip) := rfl
      _ = .ok { m₈ with eportL2exclusionidMap := l2 } := by
          rw [hmgids, Except.bind_ok, hnids₁, Except.bind_ok, hnids, Except.bind_ok, hrids₁,
            Except.bind_ok, hrids, Except.bind_ok, hl1₁, Except.bind_ok, hl1, Except.bind_ok, hl2₁,
            Except.bind_ok, hl2]
  · intro f
    constructor
    · rintro ((⟨mid, ho⟩ | rfl) | rfl)
      · exact ⟨mid, hold mid f ho⟩
      · exact ⟨_, occurs_src⟩
      · exact ⟨_, occurs_dst⟩
    · rintro ⟨mid, ho⟩
      rcases occurs_append.mp ho with ho | ⟨-, rfl | rfl⟩
      · exact .inl (.inl ⟨mid, ho⟩)
      · exact .inl (.inr rfl)
      · exact .inr rfl
  · intro k
    rw [hl1Has, hl1Has₁, h.hasL1exclusionid, occurs_pair]
  · intro eport x
    rw [hl2Has, hl2Has₁, h.l2exclusionid]
    constructor
    · rintro ((⟨hx, mid, e, ho, he⟩ | ⟨hx, rfl⟩) | ⟨hx, rfl⟩)
      · exact ⟨hx, mid, e, hold mid e ho, he⟩
      · exact ⟨hx, _, _, occurs_src, hp⟩
      · exact ⟨hx, _, _, occurs_dst, hq⟩
    · rintro ⟨hx, mid, e, ho, he⟩
      rcases occurs_append.mp ho with ho | ⟨-, rfl | rfl⟩
      · exact .inl (.inl ⟨hx, mid, e, ho, he⟩)
      · exact .inl (.inr ⟨hx, Option.some.inj (he.symm.trans hp)⟩)
      · exact .inr ⟨hx, Option.some.inj (he.symm.trans hq)⟩

end Tofino

end Scallop
