import Scallop.Tofino.Rules

/-!
# Keys that are inserted twice

* `Tabled` : a table has the entries of the installed rules; `Tabled.add_cases` : an insertion is rejected iff another
  rule has the key;
* `Mapped`, `updateMappings_ensures` : the identifiers after any commands, also where they have run out;
  `updateMappings_iff` : a command comes to its rules iff there are identifiers for its participants;
* `RulesSound` : the rules on the switch, and what each is for; `Clash` : a participant of a command is installed as a
  node of another meeting; `processRules_ensures` : the rules of a command are rejected iff it clashes;
* `insertions_accepted_iff` : over any run of commands; `Pre.Right.collides_iff` : which commands collide after streams
  that do not.
-/

namespace Scallop

namespace Tofino

open Allocation

variable {μ κ α σ τ : Type} [DecidableEq κ]

/-! ## Tables -/

section Tables
variable {entry : τ → Except PyError (κ × α)} {r : Installed τ κ α} {x : τ}

/-- The table has the entries of the installed rules. -/
def Tabled (entry : τ → Except PyError (κ × α)) (r : Installed τ κ α) : Prop := Holds entry (· ∈ r.rules) r

theorem tabled_empty : Tabled entry ({} : Installed τ κ α) :=
  holds_empty.congr fun _ => iff_of_false id List.not_mem_nil

/-- Two installed rules with the same key have the same entry. -/
theorem Tabled.entry_eq (h : Tabled entry r) {y : τ} {k : κ} {a b : α} (hx : x ∈ r.rules) (hy : y ∈ r.rules)
    (hex : entry x = .ok (k, a)) (hey : entry y = .ok (k, b)) : a = b :=
  Option.some.inj (((h.table k a).mpr ⟨x, hx, hex⟩).symm.trans ((h.table k b).mpr ⟨y, hy, hey⟩))

variable [DecidableEq τ]

/-- An insertion is rejected iff another rule has the key. -/
theorem Tabled.add_cases (h : Tabled entry r) {k : κ} {a : α} (hx : entry x = .ok (k, a)) :
    (r.add entry x = .error .rpcException ∧ ∃ y ∈ r.rules, y ≠ x ∧ ∃ b, entry y = .ok (k, b)) ∨
    ∃ r', r.add entry x = .ok r' ∧ Tabled entry r' ∧ ∀ y, y ∈ r'.rules ↔ y ∈ r.rules ∨ y = x := by
  by_cases huniq : ∀ y b, y ∈ r.rules → entry y = .ok (k, b) → y = x
  · obtain ⟨r', hr', hh⟩ := Holds.add h hx huniq
    exact .inr ⟨r', hr', hh.congr fun y => (hh.rules y).symm, hh.rules⟩
  · simp only [not_forall] at huniq
    obtain ⟨y, b, hy, he, hne⟩ := huniq
    by_cases hmem : x ∈ r.rules
    · refine .inr ⟨r, if_pos hmem, h, fun z => (or_iff_left_of_imp ?_).symm⟩
      rintro rfl
      exact hmem
    · refine .inl ⟨?_, y, hy, hne, b, he⟩
      have hsome : r.table.lookup k = some b := (h.table k b).mpr ⟨y, hy, he⟩
      unfold Installed.add
      rw [if_neg hmem, hx, Except.bind_ok]
      unfold addEntry
      dsimp only
      rw [hsome]
      rfl

/-- A rule for each SSRC of a stream is installed, or one of them is rejected. -/
theorem Tabled.addEach_cases (h : Tabled entry r) (c : AddStream μ) (f : Int → τ)
    (hf : ∀ ssrc, ∃ k a, entry (f ssrc) = .ok (k, a)) :
    (c.forEachSsrc (fun ssrc => Installed.add entry (f ssrc)) r = .error .rpcException ∧
      ∃ ssrc y k a b, (y ∈ r.rules ∨ ∃ s, y = f s) ∧ y ≠ f ssrc ∧ entry (f ssrc) = .ok (k, a) ∧
        entry y = .ok (k, b)) ∨
    ∃ r', c.forEachSsrc (fun ssrc => Installed.add entry (f ssrc)) r = .ok r' ∧ Tabled entry r' ∧
      ∀ y ∈ r'.rules, y ∈ r.rules ∨ ∃ s, y = f s := by
  obtain ⟨k, a, hk⟩ := hf c.ssrc
  unfold AddStream.forEachSsrc
  dsimp only
  obtain ⟨hr, y, hy, hne, b, he⟩ | ⟨r₁, hr₁, h₁, hmem₁⟩ := h.add_cases hk
  · rw [hr]
    exact .inl ⟨rfl, c.ssrc, y, k, a, b, .inl hy, hne, hk, he⟩
  · have hin : ∀ y ∈ r₁.rules, y ∈ r.rules ∨ ∃ s, y = f s := fun y hy =>
      ((hmem₁ y).mp hy).imp_right fun hy => ⟨_, hy⟩
    rw [hr₁, Except.bind_ok]
    split
    · obtain ⟨k', a', hk'⟩ := hf c.ssrcRtx
      obtain ⟨hr, y, hy, hne, b, he⟩ | ⟨r₂, hr₂, h₂, hmem₂⟩ := h₁.add_cases hk'
      · rw [hr]
        exact .inl ⟨rfl, c.ssrcRtx, y, k', a', b, hin y hy, hne, hk', he⟩
      · rw [hr₂]
        refine .inr ⟨r₂, rfl, h₂, fun y hy => ?_⟩
        obtain hy | hy := (hmem₂ y).mp hy
        · exact hin y hy
        · exact .inr ⟨_, hy⟩
    · exact .inr ⟨r₁, rfl, h₁, hin⟩

end Tables

/-! ## Identifiers -/

variable [DecidableEq μ] {c : AddStream μ} {m m' m₀ : Mappings μ} {mid : μ} {e : Endpoint}

/-- No identifier is given twice, and every port is its own exclusion id. -/
structure Mapped (m : Mappings μ) : Prop where
  mgid : Numbered 64000 m.meetingMgidMap
  nodeid : Numbered (2 ^ 32 - 1) m.participantNodeidMap
  replicationid : Numbered (2 ^ 16 - 1) m.meetingparticipantReplicationidMap
  l2exclusionid : ∀ q x, m.eportL2exclusionidMap.lookup q = some x → x = q

theorem mapped_empty : Mapped ({} : Mappings μ) :=
  ⟨numbered_empty _, numbered_empty _, numbered_empty _, fun _ _ h => nomatch h⟩

/-- No identifier is changed, and no exclusion id of a port. -/
structure Mappings.Extends (m m' : Mappings μ) : Prop extends m.Keeps m' where
  l2exclusionid : Grows m.eportL2exclusionidMap m'.eportL2exclusionidMap

theorem Mappings.Extends.refl (m : Mappings μ) : m.Extends m := ⟨.refl m, .refl _⟩

theorem Mappings.Extends.trans {m'' : Mappings μ} (h : m.Extends m') (h' : m'.Extends m'') : m.Extends m'' :=
  ⟨h.toKeeps.trans h'.toKeeps, h.l2exclusionid.trans h'.l2exclusionid⟩

/-- What an early end of the assignments leaves, where they started from `m₀`. -/
def Left (m₀ : Mappings μ) : Exit (Mappings μ) → Prop
  | .returned m => Mapped m ∧ m₀.Extends m
  | .raised e => e = .keyError

/-- An assignment that starts from `m`, in a command that started from `m₀`, and comes to `Q`. -/
def Assigns (m₀ m : Mappings μ) (x : Except (Exit (Mappings μ)) (Mappings μ)) (Q : Mappings μ → Prop) : Prop :=
  x.Ensures (fun m' => (Mapped m' ∧ m.Extends m') ∧ Q m') (Left m₀)

theorem assignMgid_assigns (hm : Mapped m) (hk : m₀.Extends m) :
    Assigns m₀ m (assignMgid mid m) fun m' => ∃ g, m'.meetingMgidMap.lookup mid = some g := by
  unfold Assigns assignMgid
  cases ha : Allocation.assign 64000 m.meetingMgidMap mid with
  | none => exact ⟨hm, hk⟩
  | some d =>
      obtain ⟨hd, hhas⟩ := hm.mgid.assign ha
      exact ⟨⟨⟨hd, hm.nodeid, hm.replicationid, hm.l2exclusionid⟩,
        ⟨⟨grows_assign ha, .refl _, .refl _⟩, .refl _⟩⟩, hhas⟩

theorem assignNodeid_assigns (hm : Mapped m) (hk : m₀.Extends m) :
    Assigns m₀ m (assignNodeid e m) fun m' => ∃ n, m'.participantNodeidMap.lookup e = some n := by
  unfold Assigns assignNodeid
  cases ha : Allocation.assign (2 ^ 32 - 1) m.participantNodeidMap e with
  | none => exact ⟨hm, hk⟩
  | some d =>
      obtain ⟨hd, hhas⟩ := hm.nodeid.assign ha
      exact ⟨⟨⟨hm.mgid, hd, hm.replicationid, hm.l2exclusionid⟩,
        ⟨⟨.refl _, grows_assign ha, .refl _⟩, .refl _⟩⟩, hhas⟩

theorem assignReplicationid_assigns (hm : Mapped m) (hk : m₀.Extends m) :
    Assigns m₀ m (assignReplicationid mid e m) fun m' =>
      ∃ rid, m'.meetingparticipantReplicationidMap.lookup (mid, e) = some rid := by
  unfold Assigns assignReplicationid
  cases ha : Allocation.assign (2 ^ 16 - 1) m.meetingparticipantReplicationidMap (mid, e) with
  | none => exact ⟨hm, hk⟩
  | some d =>
      obtain ⟨hd, hhas⟩ := hm.replicationid.assign ha
      exact ⟨⟨⟨hm.mgid, hm.nodeid, hd, hm.l2exclusionid⟩,
        ⟨⟨.refl _, .refl _, grows_assign ha⟩, .refl _⟩⟩, hhas⟩

theorem assignL1exclusionid_assigns (hm : Mapped m) :
    Assigns m₀ m (assignL1exclusionid mid e m) fun _ => True := by
  unfold Assigns assignL1exclusionid
  split
  · exact ⟨⟨hm, .refl m⟩, trivial⟩
  · unfold item
    split
    · exact ⟨⟨⟨hm.mgid, hm.nodeid, hm.replicationid, hm.l2exclusionid⟩,
        ⟨⟨.refl _, .refl _, .refl _⟩, .refl _⟩⟩, trivial⟩
    · rename_i he
      split at he
      · cases he
      · cases he
        exact rfl

theorem assignL2exclusionid_assigns (hm : Mapped m) (ip : String) :
    Assigns m₀ m (assignL2exclusionid ip m) fun m' =>
      ∀ q, EGRESS_PORTS.lookup ip = some q → m'.eportL2exclusionidMap.lookup q = some q := by
  unfold Assigns assignL2exclusionid egressPort
  split
  · rename_i eport he
    split at he
    · rename_i q hq
      obtain rfl := Except.ok.inj he
      split
      · rename_i hsome
        obtain ⟨x, hx⟩ := Option.isSome_iff_exists.mp hsome
        refine ⟨⟨hm, .refl m⟩, fun q' hq' => ?_⟩
        obtain rfl := Option.some.inj (hq.symm.trans hq')
        rw [hx, hm.l2exclusionid _ x hx]
      · rename_i hnone
        refine ⟨⟨⟨hm.mgid, hm.nodeid, hm.replicationid, ?_⟩, ⟨⟨.refl _, .refl _, .refl _⟩, ?_⟩⟩, ?_⟩
        · intro q' x hx
          obtain ⟨rfl, rfl⟩ | ⟨-, hx⟩ := UnorderedMap.lookup_insert_iff.mp hx
          · rfl
          · exact hm.l2exclusionid q' x hx
        · exact grows_insert (Option.not_isSome_iff_eq_none.mp hnone) _
        · intro q' hq'
          obtain rfl := Option.some.inj (hq.symm.trans hq')
          exact AList.lookup_insert _
    · cases he
  · rename_i he
    split at he
    · cases he
    · cases he
      exact rfl

/-- What a command finds that comes to its rules. -/
structure Assigned (c : AddStream μ) (m : Mappings μ) : Prop where
  mgid : ∃ g, m.meetingMgidMap.lookup c.mid = some g
  nodeid : ∀ e, e = c.src ∨ e = c.dst → ∃ n, m.participantNodeidMap.lookup e = some n
  replicationid : ∀ e, e = c.src ∨ e = c.dst →
    ∃ rid, m.meetingparticipantReplicationidMap.lookup (c.mid, e) = some rid
  l2exclusionid : ∀ q, EGRESS_PORTS.lookup c.sip = some q → m.eportL2exclusionidMap.lookup q = some q

theorem Assigns.bind {x : Except (Exit (Mappings μ)) (Mappings μ)} {Q R : Mappings μ → Prop}
    {f : Mappings μ → Except (Exit (Mappings μ)) (Mappings μ)} (hx : Assigns m₀ m x Q) (hk : m₀.Extends m)
    (hf : ∀ m', Mapped m' → m.Extends m' → m₀.Extends m' → Q m' →
      (f m').Ensures (fun m'' => (Mapped m'' ∧ m₀.Extends m'') ∧ R m'') (Left m₀)) :
    (x >>= f).Ensures (fun m'' => (Mapped m'' ∧ m₀.Extends m'') ∧ R m'') (Left m₀) :=
  Except.Ensures.bind hx fun m' h => hf m' h.1.1 h.1.2 (hk.trans h.1.2) h.2

/-- The assignments of a command: identifiers are added, and none is changed. -/
theorem updateMappings_ensures (hm : Mapped m) (c : AddStream μ) :
    (updateMappings c m).Ensures (fun m' => (Mapped m' ∧ m.Extends m') ∧ Assigned c m') (Left m) := by
  unfold updateMappings
  refine (assignMgid_assigns hm (.refl m)).bind (.refl m) fun m₁ h₁ _ k₁ ⟨g, hg⟩ => ?_
  refine (assignNodeid_assigns h₁ k₁).bind k₁ fun m₂ h₂ e₂ k₂ ⟨ns, hns⟩ => ?_
  refine (assignNodeid_assigns h₂ k₂).bind k₂ fun m₃ h₃ e₃ k₃ ⟨nd, hnd⟩ => ?_
  refine (assignReplicationid_assigns h₃ k₃).bind k₃ fun m₄ h₄ e₄ k₄ ⟨rs, hrs⟩ => ?_
  refine (assignReplicationid_assigns h₄ k₄).bind k₄ fun m₅ h₅ e₅ k₅ ⟨rd, hrd⟩ => ?_
  refine (assignL1exclusionid_assigns h₅).bind k₅ fun m₆ h₆ e₆ k₆ _ => ?_
  refine (assignL1exclusionid_assigns h₆).bind k₆ fun m₇ h₇ e₇ k₇ _ => ?_
  refine (assignL2exclusionid_assigns h₇ c.sip).bind k₇ fun m₈ h₈ e₈ k₈ hl2 => ?_
  refine (assignL2exclusionid_assigns h₈ c.dip).mono (fun m₉ ⟨⟨h₉, e₉⟩, _⟩ => ?_) fun _ h => h
  have hend : m₅.Extends m₉ := e₆.trans (e₇.trans (e₈.trans e₉))
  refine ⟨⟨h₉, k₈.trans e₉⟩, ⟨g, ?_⟩, ?_, ?_, fun q hq => e₉.l2exclusionid (hl2 q hq)⟩
  · exact (e₂.trans (e₃.trans (e₄.trans (e₅.trans hend)))).mgid hg
  · rintro e (rfl | rfl)
    · exact ⟨ns, (e₃.trans (e₄.trans (e₅.trans hend))).nodeid hns⟩
    · exact ⟨nd, (e₄.trans (e₅.trans hend)).nodeid hnd⟩
  · rintro e (rfl | rfl)
    · exact ⟨rs, (e₅.trans hend).replicationid hrs⟩
    · exact ⟨rd, hend.replicationid hrd⟩

/-! ## When a command comes to its rules -/

/-- There are identifiers for the participants of a command. -/
structure Numbers (c : AddStream μ) (m : Mappings μ) : Prop where
  mgid : Room 64000 m.meetingMgidMap [c.mid]
  nodeid : Room (2 ^ 32 - 1) m.participantNodeidMap [c.src, c.dst]
  replicationid : Room (2 ^ 16 - 1) m.meetingparticipantReplicationidMap [(c.mid, c.src), (c.mid, c.dst)]

theorem room_two {limit : Nat} {d : UnorderedMap κ Nat} {k l : κ} (hd : Numbered limit d) :
    Room limit d [k, l] ↔ ∃ d₁, Allocation.assign limit d k = some d₁ ∧
      ∃ d₂, Allocation.assign limit d₁ l = some d₂ := by
  rw [room_cons]
  refine exists_congr fun d₁ => and_congr_right fun h₁ => ?_
  rw [room_cons]
  refine exists_congr fun d₂ => and_iff_left_of_imp fun h₂ => ?_
  exact ((hd.assign h₁).1.assign h₂).1.room_nil

theorem room_one {limit : Nat} {d : UnorderedMap κ Nat} {k : κ} (hd : Numbered limit d) :
    Room limit d [k] ↔ ∃ d₁, Allocation.assign limit d k = some d₁ := by
  rw [room_cons]
  exact exists_congr fun d₁ => and_iff_left_of_imp fun h₁ => (hd.assign h₁).1.room_nil

theorem orReturn_ok {β : Type} {s : σ} {x : Option α} {f : α → β} {b : β}
    (h : (orReturn s x).map f = .ok b) : ∃ a, x = some a ∧ f a = b := by
  cases x with
  | none => cases h
  | some a => exact ⟨a, rfl, Except.ok.inj h⟩

theorem assignExclusionids_ok (hm : Mapped m) (hc : c.Known)
    (hsrc : ∃ rid, m.meetingparticipantReplicationidMap.lookup (c.mid, c.src) = some rid)
    (hdst : ∃ rid, m.meetingparticipantReplicationidMap.lookup (c.mid, c.dst) = some rid) :
    ∃ m', (assignL1exclusionid c.mid c.src m >>= fun m => assignL1exclusionid c.mid c.dst m >>= fun m =>
      assignL2exclusionid c.sip m >>= assignL2exclusionid c.dip) = .ok m' := by
  obtain ⟨⟨p, hp⟩, q, hq⟩ := hc
  have hl1 {m₁ : Mappings μ} {e : Endpoint} {rid : Nat}
      (hrid : m₁.meetingparticipantReplicationidMap.lookup (c.mid, e) = some rid) :
      ∃ d, assignL1exclusionid c.mid e m₁ = .ok { m₁ with meetingparticipantL1exclusionidMap := d } := by
    unfold assignL1exclusionid
    split
    · exact ⟨_, rfl⟩
    · rw [item_ok hrid]
      exact ⟨_, rfl⟩
  obtain ⟨rs, hrs⟩ := hsrc
  obtain ⟨rd, hrd⟩ := hdst
  obtain ⟨d₁, h₁⟩ := hl1 hrs
  obtain ⟨d₂, h₂⟩ := @hl1 { m with meetingparticipantL1exclusionidMap := d₁ } _ _ hrd
  obtain ⟨l₁, h₃, hl₁⟩ := assignL2exclusionid_ok { m with meetingparticipantL1exclusionidMap := d₂ }
    hm.l2exclusionid hp
  obtain ⟨l₂, h₄, -⟩ := assignL2exclusionid_ok
    { m with meetingparticipantL1exclusionidMap := d₂, eportL2exclusionidMap := l₁ }
    (fun r x hx => ((hl₁ r x).mp hx).elim (hm.l2exclusionid r x) And.left) hq
  exact ⟨_, by rw [h₁, Except.bind_ok, h₂, Except.bind_ok, h₃, Except.bind_ok, h₄]⟩

/-- The assignments of a command come to their end iff there are identifiers for its participants. -/
theorem updateMappings_iff (hm : Mapped m) (hc : c.Known) :
    (∃ m', updateMappings c m = .ok m') ↔ Numbers c m := by
  constructor
  · rintro ⟨m', h⟩
    obtain ⟨_, h₁, h⟩ := Except.of_bind_ok h
    obtain ⟨d₁, hd₁, rfl⟩ := orReturn_ok h₁
    obtain ⟨_, h₂, h⟩ := Except.of_bind_ok h
    obtain ⟨d₂, hd₂, rfl⟩ := orReturn_ok h₂
    obtain ⟨_, h₃, h⟩ := Except.of_bind_ok h
    obtain ⟨d₃, hd₃, rfl⟩ := orReturn_ok h₃
    obtain ⟨_, h₄, h⟩ := Except.of_bind_ok h
    obtain ⟨d₄, hd₄, rfl⟩ := orReturn_ok h₄
    obtain ⟨_, h₅, -⟩ := Except.of_bind_ok h
    obtain ⟨d₅, hd₅, rfl⟩ := orReturn_ok h₅
    exact ⟨(room_one hm.mgid).mpr ⟨d₁, hd₁⟩, (room_two hm.nodeid).mpr ⟨d₂, hd₂, d₃, hd₃⟩,
      (room_two hm.replicationid).mpr ⟨d₄, hd₄, d₅, hd₅⟩⟩
  · intro h
    obtain ⟨d₁, hd₁⟩ := (room_one hm.mgid).mp h.mgid
    obtain ⟨d₂, hd₂, d₃, hd₃⟩ := (room_two hm.nodeid).mp h.nodeid
    obtain ⟨d₄, hd₄, d₅, hd₅⟩ := (room_two hm.replicationid).mp h.replicationid
    obtain ⟨hn₄, rs, hrs⟩ := hm.replicationid.assign hd₄
    obtain ⟨hn₅, hrd⟩ := hn₄.assign hd₅
    let m₅ : Mappings μ := { m with
      meetingMgidMap := d₁, participantNodeidMap := d₃, meetingparticipantReplicationidMap := d₅ }
    have hm₅ : Mapped m₅ := ⟨(hm.mgid.assign hd₁).1, ((hm.nodeid.assign hd₂).1.assign hd₃).1, hn₅,
      hm.l2exclusionid⟩
    obtain ⟨m', hm'⟩ := assignExclusionids_ok hm₅ hc ⟨rs, grows_assign hd₅ hrs⟩ hrd
    refine ⟨m', ?_⟩
    show (assignMgid c.mid m >>= fun m => assignNodeid c.src m >>= fun m =>
      assignNodeid c.dst m >>= fun m => assignReplicationid c.mid c.src m >>= fun m =>
      assignReplicationid c.mid c.dst m >>= fun m => assignL1exclusionid c.mid c.src m >>=
      fun m => assignL1exclusionid c.mid c.dst m >>= fun m =>
      assignL2exclusionid c.sip m >>= assignL2exclusionid c.dip) = _
    unfold assignMgid assignNodeid assignReplicationid
    rw [hd₁]
    dsimp only [orReturn, Except.map, bind, Except.bind]
    rw [hd₂]
    dsimp only
    rw [hd₃]
    dsimp only
    rw [hd₄]
    dsimp only
    rw [hd₅]
    exact hm'

/-- The port of every participant is the one of its address. -/
def Ported (s : LocalState μ) : Prop :=
  ∀ mid e q, s.meetingparticipantEportMap.lookup (mid, e) = some q → EGRESS_PORTS.lookup e.1 = some q

theorem ported_empty : Ported ({} : LocalState μ) := fun _ _ _ h => nomatch h

theorem assignEport_ensures (mid : μ) (e : Endpoint) {d : UnorderedMap (μ × Endpoint) Nat}
    (hd : ∀ mid e q, d.lookup (mid, e) = some q → EGRESS_PORTS.lookup e.1 = some q) :
    (assignEport mid e d).Ensures
      (fun d' => (∀ mid e q, d'.lookup (mid, e) = some q → EGRESS_PORTS.lookup e.1 = some q) ∧
        Grows d d' ∧ ∃ q, d'.lookup (mid, e) = some q)
      fun err => err = .keyError ∧ ¬ KnownIp e.1 := by
  unfold assignEport
  split
  next hsome => exact ⟨hd, .refl d, Option.isSome_iff_exists.mp hsome⟩
  next hnone =>
    unfold egressPort
    cases hq : EGRESS_PORTS.lookup e.1 with
    | none =>
        refine ⟨rfl, ?_⟩
        rintro ⟨q, hq'⟩
        cases hq.symm.trans hq'
    | some q =>
        refine ⟨fun mid' e' q' hl => ?_, grows_insert (Option.not_isSome_iff_eq_none.mp hnone) q, q,
          AList.lookup_insert d⟩
        obtain ⟨hk, rfl⟩ | ⟨-, hl⟩ := UnorderedMap.lookup_insert_iff.mp hl
        · obtain ⟨-, rfl⟩ := Prod.mk.inj hk
          exact hq
        · exact hd mid' e' q' hl

/-- The local state: the ports of both participants are known, or one of the addresses is not. -/
theorem updateLocalState_ensures {s : LocalState μ} (hs : Ported s) (c : AddStream μ) :
    (updateLocalState c s).Ensures
      (fun s' => Ported s' ∧ (∃ q, s'.meetingparticipantEportMap.lookup (c.mid, c.src) = some q) ∧
        ∃ q, s'.meetingparticipantEportMap.lookup (c.mid, c.dst) = some q)
      fun err => err = .keyError ∧ ¬ c.Known := by
  unfold updateLocalState
  have hsrc := (assignEport_ensures c.mid c.src hs).mono (fun _ h => h) fun err h =>
    (⟨h.1, fun hc => h.2 hc.1⟩ : err = .keyError ∧ ¬ c.Known)
  refine hsrc.bind fun d ⟨hd, _, q, hq⟩ => ?_
  have hdst := (assignEport_ensures c.mid c.dst hd).mono (fun _ h => h) fun err h =>
    (⟨h.1, fun hc => h.2 hc.2⟩ : err = .keyError ∧ ¬ c.Known)
  refine hdst.bind fun d' ⟨hd', hg', hq'⟩ => ?_
  exact ⟨hd', ⟨q, hg' hq⟩, hq'⟩

/-! ## What the rules are for -/

def Sends (m : Mappings μ) (mid : μ) (x : SenderRule) : Prop :=
  m.meetingMgidMap.lookup mid = some x.mgid ∧
    m.meetingparticipantReplicationidMap.lookup (mid, (x.sip, x.sport)) = some x.rid ∧
    EGRESS_PORTS.lookup x.sip = some x.l2Xid

/-- The node of a participant of a meeting. -/
def IsNode (m : Mappings μ) (mid : μ) (e : Endpoint) (x : NodeRule) : Prop :=
  m.participantNodeidMap.lookup e = some x.nid ∧
    m.meetingparticipantReplicationidMap.lookup (mid, e) = some x.rid ∧
    EGRESS_PORTS.lookup e.1 = some x.eport

/-- A rule for the copies that a participant of a meeting gets. -/
def Rewrites (m : Mappings μ) (mid : μ) (x : RouteRule) : Prop :=
  KnownIp x.sip ∧ KnownIp x.dip ∧
    m.meetingparticipantReplicationidMap.lookup (mid, (x.dip, x.dport)) = some x.rid

/-- The switch has a group for the identifiers that groups were installed for. -/
def Grouped (r : Installed (Nat × Group) Nat Group) : Prop :=
  ∀ mgid, (r.table.lookup mgid).isSome ↔ mgid ∈ r.rules.map Prod.fst

/-- The rules on the switch: every sender of a meeting is a node of it. -/
structure RulesSound (m : Mappings μ) (r : Rules) : Prop where
  senders : Tabled SenderRule.entry r.sendersReplication
  nodes : Tabled NodeRule.entry r.participantsNodes
  groups : Grouped r.mgidsParticipants
  prunes : Tabled PruneRule.entry r.eportsL2exclusionids
  routes : Tabled RouteRule.entry r.ipv4Routes
  isSender : ∀ x ∈ r.sendersReplication.rules, ∃ mid, Sends m mid x ∧
    ∃ y ∈ r.participantsNodes.rules, IsNode m mid (x.sip, x.sport) y
  isNode : ∀ x ∈ r.participantsNodes.rules, ∃ mid e, IsNode m mid e x
  isPrune : ∀ x ∈ r.eportsL2exclusionids.rules, x.l2Xid = x.eport
  isRoute : ∀ x ∈ r.ipv4Routes.rules, ∃ mid, Rewrites m mid x

theorem rulesSound_empty : RulesSound ({} : Mappings μ) {} :=
  ⟨tabled_empty, tabled_empty, fun _ => iff_of_false Bool.false_ne_true List.not_mem_nil, tabled_empty, tabled_empty,
    nofun, nofun, nofun, nofun⟩

theorem Sends.extends {x : SenderRule} (h : Sends m mid x) (hk : m.Extends m') : Sends m' mid x :=
  ⟨hk.mgid h.1, hk.replicationid h.2.1, h.2.2⟩

theorem IsNode.extends {x : NodeRule} (h : IsNode m mid e x) (hk : m.Extends m') : IsNode m' mid e x :=
  ⟨hk.nodeid h.1, hk.replicationid h.2.1, h.2.2⟩

theorem RulesSound.extends {r : Rules} (h : RulesSound m r) (hk : m.Extends m') : RulesSound m' r where
  senders := h.senders
  nodes := h.nodes
  groups := h.groups
  prunes := h.prunes
  routes := h.routes
  isSender x hx := (h.isSender x hx).imp fun _ ⟨hs, y, hy, hn⟩ => ⟨hs.extends hk, y, hy, hn.extends hk⟩
  isNode x hx := (h.isNode x hx).imp fun _ => Exists.imp fun _ hn => hn.extends hk
  isPrune := h.isPrune
  isRoute x hx := (h.isRoute x hx).imp fun _ ⟨hs, hd, hr⟩ => ⟨hs, hd, hk.replicationid hr⟩

/-- A participant of the command is installed as a node of another meeting. -/
def Clash (c : AddStream μ) (m : Mappings μ) (nodes : List NodeRule) : Prop :=
  ∃ mid e, mid ≠ c.mid ∧ (e = c.src ∨ e = c.dst) ∧ ∃ x ∈ nodes, IsNode m mid e x

/-- The identifiers that a command adds make no clash. -/
theorem clash_extends (hm' : Mapped m') (hk : m.Extends m') {nodes : List NodeRule}
    (hn : ∀ x ∈ nodes, ∃ mid e, IsNode m mid e x) : Clash c m' nodes ↔ Clash c m nodes := by
  refine exists_congr fun mid => exists_congr fun e => and_congr_right fun _ => and_congr_right fun _ =>
    exists_congr fun x => and_congr_right fun hx => ⟨fun h' => ?_, fun h => h.extends hk⟩
  obtain ⟨mid₀, e₀, h⟩ := hn x hx
  have h₀ := h.extends hk
  obtain rfl := hm'.nodeid.inj h₀.1 h'.1
  obtain ⟨rfl, -⟩ := Prod.mk.inj (hm'.replicationid.inj h₀.2.1 h'.2.1)
  exact h

/-- A meeting has one rule for an SSRC of a sender. -/
theorem Sends.unique {x y : SenderRule} (hx : Sends m mid x) (hy : Sends m mid y) {k : Nat × Int × Int}
    {a b : Nat × Nat × Nat} (hk : x.entry = .ok (k, a)) (hk' : y.entry = .ok (k, b)) : y = x := by
  obtain ⟨hip, hport, hssrc⟩ := SenderRule.entry_key ⟨_, hx.2.2⟩ ⟨_, hy.2.2⟩ hk hk'
  obtain ⟨hg, hr, hl⟩ := hx
  obtain ⟨hg', hr', hl'⟩ := hy
  rw [hip, hport] at hr'
  rw [hip] at hl'
  obtain ⟨sip, sport, ssrc, mgid, rid, l2⟩ := x
  obtain ⟨sip', sport', ssrc', mgid', rid', l2'⟩ := y
  rw [SenderRule.mk.injEq]
  exact ⟨hip, hport, hssrc, Option.some.inj (hg'.symm.trans hg), Option.some.inj (hr'.symm.trans hr),
    Option.some.inj (hl'.symm.trans hl)⟩

/-- A meeting has one node for a participant. -/
theorem IsNode.unique {x y : NodeRule} (hx : IsNode m mid e x) (hy : IsNode m mid e y) : y = x := by
  obtain ⟨hn, hr, hl⟩ := hx
  obtain ⟨hn', hr', hl'⟩ := hy
  obtain ⟨nid, rid, eport⟩ := x
  obtain ⟨nid', rid', eport'⟩ := y
  rw [NodeRule.mk.injEq]
  exact ⟨Option.some.inj (hn'.symm.trans hn), Option.some.inj (hr'.symm.trans hr),
    Option.some.inj (hl'.symm.trans hl)⟩

/-- A participant is a node of one meeting only. -/
theorem IsNode.same_meeting (hm : Mapped m) {mid' : μ} {x y : NodeRule} {t : Installed NodeRule Nat (Nat × List Nat)}
    (ht : Tabled NodeRule.entry t) (hxt : x ∈ t.rules) (hyt : y ∈ t.rules) (hx : IsNode m mid e x)
    (hy : IsNode m mid' e y) : mid = mid' := by
  have hnid : y.nid = x.nid := Option.some.inj (hy.1.symm.trans hx.1)
  have hrid := (Prod.mk.inj (ht.entry_eq hxt hyt rfl (hnid ▸ rfl : y.entry = .ok (x.nid, y.rid, [y.eport])))).1
  exact (Prod.mk.inj (hm.replicationid.inj hx.2.1 (hrid ▸ hy.2.1))).1

/-! ## The rules of one command -/

section Step
variable (hm : Mapped m) (ha : Assigned c m) {s : LocalState μ} (hs : Ported s) {r : Rules}
include hm ha hs

omit hm in
theorem addSender_cases (hsrc : ∃ q, s.meetingparticipantEportMap.lookup (c.mid, c.src) = some q)
    (h : RulesSound m r) :
    (addSender c s m r = .error .rpcException ∧ Clash c m r.participantsNodes.rules) ∨
    ∃ x, addSender c s m r = .ok { r with sendersReplication := x } ∧ Tabled SenderRule.entry x ∧
      ∀ y ∈ x.rules, y ∈ r.sendersReplication.rules ∨ (y.sip, y.sport) = c.src ∧ Sends m c.mid y := by
  obtain ⟨g, hg⟩ := ha.mgid
  obtain ⟨rid, hrid⟩ := ha.replicationid c.src (.inl rfl)
  obtain ⟨q, hq⟩ := hsrc
  have hport : EGRESS_PORTS.lookup c.sip = some q := hs c.mid c.src q hq
  have hsends (ssrc : Int) : Sends m c.mid ⟨c.sip, c.sport, ssrc, g, rid, q⟩ := ⟨hg, hrid, hport⟩
  unfold addSender
  rw [item_ok hg, Except.bind_ok, item_ok hrid, Except.bind_ok, item_ok hq, Except.bind_ok,
    item_ok (ha.l2exclusionid q hport), Except.bind_ok]
  obtain ⟨hr, ssrc, y, k, a, b, hy, hne, hk, he⟩ | ⟨x, hx, ht, hin⟩ :=
    h.senders.addEach_cases c (fun ssrc => ⟨c.sip, c.sport, ssrc, g, rid, q⟩) fun ssrc =>
      ⟨_, _, SenderRule.entry_of_known ⟨q, hport⟩⟩
  · rw [hr]
    refine .inl ⟨rfl, ?_⟩
    obtain hy | ⟨ssrc', rfl⟩ := hy
    · obtain ⟨mid, hy, n, hn, hnode⟩ := h.isSender y hy
      obtain ⟨hip, hpt, -⟩ := SenderRule.entry_key ⟨q, hport⟩ ⟨_, hy.2.2⟩ hk he
      refine ⟨mid, c.src, fun hmid => ?_, .inl rfl, n, hn, ?_⟩
      · subst hmid
        exact hne ((hsends ssrc).unique hy hk he)
      · rw [hip, hpt] at hnode
        exact hnode
    · exact absurd ((hsends ssrc).unique (hsends ssrc') hk he) hne
  · rw [hx]
    refine .inr ⟨x, rfl, ht, fun y hy => (hin y hy).imp_right fun ⟨ssrc, hy⟩ => ?_⟩
    rw [hy]
    exact ⟨rfl, hsends ssrc⟩

/-- The node of a participant, where `nodes` were installed before the command. -/
theorem addNode_cases (he : e = c.src ∨ e = c.dst)
    (hport : ∃ q, s.meetingparticipantEportMap.lookup (c.mid, e) = some q)
    (ht : Tabled NodeRule.entry r.participantsNodes) {nodes : List NodeRule}
    (hold : ∀ y ∈ nodes, ∃ mid e, IsNode m mid e y)
    (hin : ∀ y ∈ r.participantsNodes.rules, y ∈ nodes ∨ ∃ e, IsNode m c.mid e y) :
    (addNode c.mid e s m r = .error .rpcException ∧ Clash c m nodes) ∨
    ∃ x y, addNode c.mid e s m r = .ok { r with participantsNodes := x } ∧ Tabled NodeRule.entry x ∧
      IsNode m c.mid e y ∧ ∀ z, z ∈ x.rules ↔ z ∈ r.participantsNodes.rules ∨ z = y := by
  obtain ⟨nid, hnid⟩ := ha.nodeid e he
  obtain ⟨rid, hrid⟩ := ha.replicationid e he
  obtain ⟨q, hq⟩ := hport
  have hnode : IsNode m c.mid e ⟨nid, rid, q⟩ := ⟨hnid, hrid, hs c.mid e q hq⟩
  unfold addNode
  rw [item_ok hnid, Except.bind_ok, item_ok hrid, Except.bind_ok, item_ok hq, Except.bind_ok]
  obtain ⟨hr, y, hy, hne, b, hb⟩ | ⟨x, hx, htx, hmem⟩ := ht.add_cases (x := (⟨nid, rid, q⟩ : NodeRule)) rfl
  · rw [hr]
    refine .inl ⟨rfl, ?_⟩
    have hn : y.nid = nid := (Prod.mk.inj (Except.ok.inj hb)).1
    have hmid (mid : μ) (e' : Endpoint) (hy : IsNode m mid e' y) : e' = e := hm.nodeid.inj hy.1 (hn ▸ hnid)
    obtain hy | ⟨e', hy⟩ := hin y hy
    · obtain ⟨mid, e', hnode'⟩ := hold y hy
      obtain rfl := hmid mid e' hnode'
      refine ⟨mid, e', fun hmid => ?_, he, y, hy, hnode'⟩
      subst hmid
      exact hne (hnode.unique hnode')
    · obtain rfl := hmid c.mid e' hy
      exact absurd (hnode.unique hy) hne
  · rw [hx]
    exact .inr ⟨x, _, rfl, htx, hnode, hmem⟩

/-- The first three parts of the rules are rejected iff the command clashes. -/
theorem addParticipants_cases (hsrc : ∃ q, s.meetingparticipantEportMap.lookup (c.mid, c.src) = some q)
    (hdst : ∃ q, s.meetingparticipantEportMap.lookup (c.mid, c.dst) = some q) (h : RulesSound m r) :
    ((addSender c s m r >>= fun r => addNode c.mid c.src s m r >>= addNode c.mid c.dst s m) =
        .error .rpcException ∧ Clash c m r.participantsNodes.rules) ∨
    ∃ r', (addSender c s m r >>= fun r => addNode c.mid c.src s m r >>= addNode c.mid c.dst s m) = .ok r' ∧
      RulesSound m r' ∧ ¬ Clash c m r.participantsNodes.rules := by
  obtain ⟨hr, hc⟩ | ⟨x, hx, hxt, hxin⟩ := addSender_cases ha hs hsrc h
  · rw [hr]
    exact .inl ⟨rfl, hc⟩
  let r₁ : Rules := { r with sendersReplication := x }
  rw [hx, Except.bind_ok]
  obtain ⟨hr, hc⟩ | ⟨t₁, y₁, h₁, ht₁, hy₁, hin₁⟩ :=
    @addNode_cases _ _ _ _ _ hm ha _ hs r₁ (.inl rfl) hsrc h.nodes _ h.isNode fun y hy => .inl hy
  · rw [hr]
    exact .inl ⟨rfl, hc⟩
  let r₂ : Rules := { r₁ with participantsNodes := t₁ }
  rw [h₁, Except.bind_ok]
  have hin (y : NodeRule) (hy : y ∈ t₁.rules) : y ∈ r.participantsNodes.rules ∨ ∃ e, IsNode m c.mid e y := by
    obtain hy | rfl := (hin₁ y).mp hy
    · exact .inl hy
    · exact .inr ⟨c.src, hy₁⟩
  obtain ⟨hr, hc⟩ | ⟨t₂, y₂, h₂, ht₂, hy₂, hin₂⟩ :=
    @addNode_cases _ _ _ _ _ hm ha _ hs r₂ (.inr rfl) hdst ht₁ _ h.isNode hin
  · rw [hr]
    exact .inl ⟨rfl, hc⟩
  have hold (y : NodeRule) (hy : y ∈ r.participantsNodes.rules) : y ∈ t₂.rules :=
    (hin₂ y).mpr (.inl ((hin₁ y).mpr (.inl hy)))
  have hsrcIn : y₁ ∈ t₂.rules := (hin₂ y₁).mpr (.inl ((hin₁ y₁).mpr (.inr rfl)))
  have hdstIn : y₂ ∈ t₂.rules := (hin₂ y₂).mpr (.inr rfl)
  refine .inr ⟨{ r₂ with participantsNodes := t₂ }, h₂,
    ⟨hxt, ht₂, h.groups, h.prunes, h.routes, fun y hy => ?_, fun y hy => ?_, h.isPrune, h.isRoute⟩, ?_⟩
  · obtain hy | ⟨hsrc, hsends⟩ := hxin y hy
    · exact (h.isSender y hy).imp fun _ ⟨hsends, n, hn, hnode⟩ => ⟨hsends, n, hold n hn, hnode⟩
    · exact ⟨c.mid, hsends, y₁, hsrcIn, hsrc ▸ hy₁⟩
  · obtain hy | rfl := (hin₂ y).mp hy
    · obtain hy | rfl := (hin₁ y).mp hy
      · exact h.isNode y hy
      · exact ⟨c.mid, c.src, hy₁⟩
    · exact ⟨c.mid, c.dst, hy₂⟩
  · rintro ⟨mid, e, hne, he, z, hz, hnode⟩
    obtain rfl | rfl := he
    · exact hne (hnode.same_meeting hm ht₂ (hold z hz) hsrcIn hy₁)
    · exact hne (hnode.same_meeting hm ht₂ (hold z hz) hdstIn hy₂)

omit hm hs ha in
theorem item_ensures (d : UnorderedMap κ α) (k : κ) :
    (item d k).Ensures (fun a => d.lookup k = some a) (· = .keyError) := by
  unfold item
  cases hl : d.lookup k with
  | none => exact rfl
  | some a => exact rfl

omit hm hs ha in
theorem group_ensures (mid : μ) (es : List Endpoint) (m : Mappings μ) :
    (group mid es m).Ensures (fun _ => True) (· = .keyError) := by
  unfold group
  cases hmap : (es.mergeSort endpointLe).mapM fun e => do
      let nid ← item m.participantNodeidMap e
      let l1Xid ← item m.meetingparticipantL1exclusionidMap (mid, e)
      return (nid, l1Xid) with
  | ok nodes => trivial
  | error err =>
      obtain ⟨e, -, he⟩ := Except.of_mapM_error hmap
      obtain he | ⟨nid, -, he⟩ := Except.of_bind_error he
      · exact (item_ensures _ _).of_error he
      · obtain he | ⟨l1Xid, -, he⟩ := Except.of_bind_error he
        · exact (item_ensures _ _).of_error he
        · cases he

omit hm hs ha [DecidableEq μ] in
theorem Grouped.setGroup {t : Installed (Nat × Group) Nat Group} (h : Grouped t) (mgid : Nat) (g : Group) :
    ∃ t', t.setGroup mgid g = .ok t' ∧ Grouped t' := by
  have hins : Grouped { rules := t.rules ++ [(mgid, g)], table := t.table.insert mgid g } := by
    intro k
    show ((t.table.insert mgid g).lookup k).isSome ↔ k ∈ (t.rules ++ [(mgid, g)]).map Prod.fst
    rw [List.map_append, List.mem_append, ← h]
    by_cases hk : k = mgid
    · subst hk
      rw [AList.lookup_insert]
      exact iff_of_true rfl (.inr List.mem_cons_self)
    · rw [AList.lookup_insert_ne hk]
      exact (or_iff_left fun hmem => hk (List.mem_singleton.mp hmem)).symm
  unfold Installed.setGroup addEntry modEntry
  by_cases hkey : mgid ∈ t.rules.map Prod.fst
  · rw [if_neg (not_not_intro hkey)]
    split
    · rw [if_pos ((h mgid).mpr hkey)]
      exact ⟨_, rfl, hins⟩
    · exact ⟨t, rfl, h⟩
  · rw [if_pos hkey, if_neg (fun hsome => hkey ((h mgid).mp hsome))]
    exact ⟨_, rfl, hins⟩

omit hm hs ha in
theorem updateGroup_ensures (s : LocalState μ) (h : RulesSound m r) :
    (updateGroup c s m r).Ensures (RulesSound m) (· = .keyError) := by
  unfold updateGroup
  refine (item_ensures _ _).bind fun mgid _ => (item_ensures _ _).bind fun es _ =>
    (group_ensures _ _ _).bind fun g _ => ?_
  obtain ⟨t, ht, hg⟩ := h.groups.setGroup mgid g
  rw [ht]
  exact ⟨h.senders, h.nodes, hg, h.prunes, h.routes, h.isSender, h.isNode, h.isPrune, h.isRoute⟩

omit hm in
theorem addL2exclusionPort_sound (hsrc : ∃ q, s.meetingparticipantEportMap.lookup (c.mid, c.src) = some q)
    (h : RulesSound m r) : ∃ r', addL2exclusionPort c s m r = .ok r' ∧ RulesSound m r' := by
  obtain ⟨q, hq⟩ := hsrc
  unfold addL2exclusionPort
  rw [item_ok hq, Except.bind_ok, item_ok (ha.l2exclusionid q (hs c.mid c.src q hq)), Except.bind_ok]
  obtain ⟨-, y, hy, hne, b, hb⟩ | ⟨t, ht, htx, hin⟩ := h.prunes.add_cases (x := (⟨q, q⟩ : PruneRule)) rfl
  · have hport : y.eport = q := (Prod.mk.inj (Except.ok.inj hb)).1
    have hxid := h.isPrune y hy
    obtain ⟨eport, l2Xid⟩ := y
    dsimp only at hport hxid
    rw [hxid, hport] at hne
    exact absurd rfl hne
  · rw [ht]
    refine ⟨_, rfl, h.senders, h.nodes, h.groups, htx, h.routes, h.isSender, h.isNode, fun y hy => ?_, h.isRoute⟩
    obtain hy | rfl := (hin y).mp hy
    · exact h.isPrune y hy
    · rfl

omit hs in
theorem addIpv4Routes_sound (hc : c.Known) (h : RulesSound m r) :
    ∃ r', addIpv4Routes c m r = .ok r' ∧ RulesSound m r' := by
  obtain ⟨rid, hrid⟩ := ha.replicationid c.dst (.inr rfl)
  have hroute (ssrc : Int) : Rewrites m c.mid ⟨c.sip, c.sport, ssrc, rid, c.dip, c.dport⟩ := ⟨hc.1, hc.2, hrid⟩
  unfold addIpv4Routes
  rw [item_ok hrid, Except.bind_ok]
  obtain ⟨-, ssrc, y, k, a, b, hy, hne, hk, he⟩ | ⟨t, ht, htx, hin⟩ :=
    h.routes.addEach_cases c (fun ssrc => ⟨c.sip, c.sport, ssrc, rid, c.dip, c.dport⟩) fun ssrc =>
      ⟨_, _, RouteRule.entry_of_known hc.1 hc.2⟩
  · have hy' : ∃ mid, Rewrites m mid y := by
      obtain hy | ⟨ssrc', rfl⟩ := hy
      · exact h.isRoute y hy
      · exact ⟨c.mid, hroute ssrc'⟩
    obtain ⟨mid, hsip, hdip, hr⟩ := hy'
    obtain ⟨hip, hport, hssrc, hrid'⟩ := RouteRule.entry_key hc.1 hc.2 hsip hdip hk he
    rw [hrid'] at hr
    obtain ⟨-, hdst⟩ := Prod.mk.inj (hm.replicationid.inj hr hrid)
    obtain ⟨hdi, hdp⟩ := Prod.mk.inj (show (y.dip, y.dport) = (c.dip, c.dport) from hdst)
    obtain ⟨sip, sport, ssrc', rid', dip, dport⟩ := y
    refine absurd ?_ hne
    rw [RouteRule.mk.injEq]
    exact ⟨hip, hport, hssrc, hrid', hdi, hdp⟩
  · rw [ht]
    refine ⟨_, rfl, h.senders, h.nodes, h.groups, h.prunes, htx, h.isSender, h.isNode, h.isPrune, fun y hy => ?_⟩
    obtain hy | ⟨ssrc, hy⟩ := hin y hy
    · exact h.isRoute y hy
    · exact ⟨c.mid, hy ▸ hroute ssrc⟩

/-- The rules of a command are rejected iff it clashes. -/
theorem processRules_ensures (hc : c.Known)
    (hsrc : ∃ q, s.meetingparticipantEportMap.lookup (c.mid, c.src) = some q)
    (hdst : ∃ q, s.meetingparticipantEportMap.lookup (c.mid, c.dst) = some q) (h : RulesSound m r) :
    (processRules c s m r).Ensures (fun r' => RulesSound m r' ∧ ¬ Clash c m r.participantsNodes.rules)
      fun e => e = .rpcException ↔ Clash c m r.participantsNodes.rules := by
  have hassoc : processRules c s m r =
      ((addSender c s m r >>= fun r => addNode c.mid c.src s m r >>= addNode c.mid c.dst s m) >>= fun r =>
        updateGroup c s m r >>= fun r => addL2exclusionPort c s m r >>= addIpv4Routes c m) := by
    unfold processRules
    rw [bind_assoc]
    exact bind_congr fun r => (bind_assoc _ _ _).symm
  rw [hassoc]
  obtain ⟨hr, hclash⟩ | ⟨r₁, hr₁, h₁, hclash⟩ := addParticipants_cases hm ha hs hsrc hdst h
  · rw [hr]
    exact iff_of_true rfl hclash
  · rw [hr₁, Except.bind_ok]
    refine ((updateGroup_ensures s h₁).mono (fun _ h => h) fun e he => ?_).bind fun r₂ h₂ => ?_
    · subst he
      exact iff_of_false (by decide) hclash
    · obtain ⟨r₃, hr₃, h₃⟩ := addL2exclusionPort_sound ha hs hsrc h₂
      obtain ⟨r₄, hr₄, h₄⟩ := addIpv4Routes_sound hm ha hc h₃
      rw [hr₃, Except.bind_ok, hr₄]
      exact ⟨h₄, hclash⟩

end Step

/-! ## Any run of commands -/

/-- The class and the switch, after any commands. -/
structure Pre.Sound (p : Pre μ) : Prop where
  ports : Ported p.state
  maps : Mapped p.maps
  rules : RulesSound p.maps p.rules

theorem Pre.sound_init : Pre.Sound ({} : Pre μ) := ⟨ported_empty, mapped_empty, rulesSound_empty⟩

/-- The command comes to its rules, and a participant of it is installed as a node of another meeting. -/
structure Pre.Collides (p : Pre μ) (c : AddStream μ) : Prop where
  known : c.Known
  numbers : Numbers c p.maps
  clash : Clash c p.maps p.rules.participantsNodes.rules

/-- A command is rejected by the switch iff it collides. -/
theorem Pre.Sound.addStream_ensures {p : Pre μ} (h : p.Sound) :
    (p.addStream c).Ensures (fun p' => p'.Sound ∧ ¬ p.Collides c) fun e => e = .rpcException ↔ p.Collides c := by
  have hlocal := updateLocalState_ensures h.ports c
  unfold Pre.addStream
  cases hs : updateLocalState c p.state with
  | error e =>
      obtain ⟨rfl, hc⟩ := hlocal.of_error hs
      exact iff_of_false (by decide) fun hcol => hc hcol.known
  | ok s =>
      obtain ⟨hports, ⟨q, hq⟩, q', hq'⟩ := hlocal.of_ok hs
      have hknown : c.Known := ⟨⟨q, hports c.mid c.src q hq⟩, q', hports c.mid c.dst q' hq'⟩
      have hmaps := updateMappings_ensures h.maps c
      have hnumbers := updateMappings_iff h.maps hknown
      dsimp only [Except.bind]
      cases hm : updateMappings c p.maps with
      | error x =>
          have hnot : ¬ p.Collides c := by
            intro hcol
            obtain ⟨m', hm'⟩ := hnumbers.mpr hcol.numbers
            rw [hm] at hm'
            cases hm'
          cases x with
          | returned m =>
              obtain ⟨hmapped, hk⟩ := hmaps.of_error hm
              exact ⟨⟨hports, hmapped, h.rules.extends hk⟩, hnot⟩
          | raised e =>
              obtain rfl := hmaps.of_error hm
              exact iff_of_false (by decide) hnot
      | ok m =>
          obtain ⟨⟨hmapped, hk⟩, ha⟩ := hmaps.of_ok hm
          have hclash := clash_extends (c := c) hmapped hk h.rules.isNode
          have hcol : p.Collides c ↔ Clash c m p.rules.participantsNodes.rules :=
            ⟨fun hcol => hclash.mpr hcol.clash, fun h => ⟨hknown, hnumbers.mp ⟨m, hm⟩, hclash.mp h⟩⟩
          rw [hcol]
          exact (processRules_ensures hmapped ha hports hknown ⟨q, hq⟩ ⟨q', hq'⟩ (h.rules.extends hk)).map
            fun r hr => ⟨⟨hports, hmapped, hr.1⟩, hr.2⟩

/-- Along a run, the switch rejects an insertion iff one of the commands collides when it comes. -/
theorem Pre.Sound.addStreams_iff {p : Pre μ} (h : p.Sound) (cmds : List (AddStream μ)) :
    p.addStreams cmds ≠ .error .rpcException ↔ ∀ earlier c later p', cmds = earlier ++ c :: later →
      p.addStreams earlier = .ok p' → ¬ p'.Collides c := by
  induction cmds generalizing p with
  | nil =>
      refine iff_of_true (fun h => nomatch h) fun earlier c later p' hsplit => ?_
      exact absurd hsplit.symm (List.append_ne_nil_of_right_ne_nil earlier (List.cons_ne_nil c later))
  | cons c cs ih =>
      have hstep := h.addStream_ensures (c := c)
      show (p.addStream c).bind (Pre.addStreams cs) ≠ _ ↔ _
      cases hc : p.addStream c with
      | error e =>
          have he := hstep.of_error hc
          constructor
          · intro hne earlier c' later p' hsplit hp'
            cases earlier with
            | nil =>
                obtain ⟨rfl, rfl⟩ := List.cons.inj hsplit
                obtain rfl := Except.ok.inj hp'
                exact fun hcol => hne (congrArg Except.error (he.mpr hcol))
            | cons c₀ earlier =>
                obtain ⟨rfl, -⟩ := List.cons.inj hsplit
                have hbind : (p.addStream c).bind (Pre.addStreams earlier) = .ok p' := hp'
                rw [hc] at hbind
                cases hbind
          · intro hall heq
            exact hall [] c cs p rfl rfl (he.mp (Except.error.inj heq))
      | ok p₁ =>
          obtain ⟨h₁, hnot⟩ := hstep.of_ok hc
          refine (ih h₁).trans ⟨?_, ?_⟩
          · intro hall earlier c' later p' hsplit hp'
            cases earlier with
            | nil =>
                obtain ⟨rfl, rfl⟩ := List.cons.inj hsplit
                obtain rfl := Except.ok.inj hp'
                exact hnot
            | cons c₀ earlier =>
                obtain ⟨rfl, rfl⟩ := List.cons.inj hsplit
                have hbind : (p.addStream c).bind (Pre.addStreams earlier) = .ok p' := hp'
                rw [hc] at hbind
                exact hall earlier c' later p' rfl hbind
          · intro hall earlier c' later p' hsplit hp'
            refine hall (c :: earlier) c' later p' (congrArg _ hsplit) ?_
            show (p.addStream c).bind (Pre.addStreams earlier) = .ok p'
            rw [hc]
            exact hp'

/-- No key is inserted twice, and the switch rejects no insertion, iff no command of the run collides when it
comes. -/
theorem insertions_accepted_iff (cmds : List (AddStream μ)) :
    Pre.addStreams cmds {} ≠ .error .rpcException ↔ ∀ earlier c later p, cmds = earlier ++ c :: later →
      Pre.addStreams earlier {} = .ok p → ¬ p.Collides c :=
  Pre.sound_init.addStreams_iff cmds

variable {cmds : List (AddStream μ)}

theorem Pre.Right.numbers {p : Pre μ} (h : p.Right cmds) (hw : Within (cmds ++ [c])) : Numbers c p.maps where
  mgid := by
    have hmem (mid : μ) (hmeets : Meets cmds mid) : mid ∈ cmds.map AddStream.mid := List.mem_map.mpr hmeets
    have hle := hw.meetings
    rw [List.map_append] at hle
    exact h.maps.mgid.room hmem hle
  nodeid := by
    have hmem (e : Endpoint) (ho : ∃ mid, Occurs cmds mid e) :
        e ∈ (cmds.flatMap AddStream.participants).map Prod.snd := by
      obtain ⟨mid, ho⟩ := ho
      exact List.mem_map.mpr ⟨(mid, e), mem_participants.mpr ho, rfl⟩
    have hle := hw.endpoints
    rw [List.flatMap_append, List.map_append] at hle
    exact h.maps.nodeid.room hmem hle
  replicationid := by
    have hle := hw.participants
    rw [List.flatMap_append] at hle
    exact h.maps.replicationid.room (fun k ho => mem_participants.mpr ho) hle

/-- After streams that each have their endpoints in one meeting, a command collides iff an endpoint of it is in
another meeting. -/
theorem Pre.Right.collides_iff {p : Pre μ} (h : p.Right cmds) (hc : c.Known) (hw : Within (cmds ++ [c])) :
    p.Collides c ↔ ∃ mid, mid ≠ c.mid ∧ (Occurs cmds mid c.src ∨ Occurs cmds mid c.dst) := by
  constructor
  · rintro ⟨-, -, mid, e, hne, he, x, hx, hn, hr, -⟩
    obtain ⟨mid', e', ho, hn', hr', -⟩ := (h.rules.nodes.rules x).mp hx
    obtain ⟨rfl, rfl⟩ := Prod.mk.inj (h.maps.replicationid.inj hr' hr)
    refine ⟨mid', hne, ?_⟩
    obtain rfl | rfl := he
    · exact .inl ho
    · exact .inr ho
  · rintro ⟨mid, hne, ho⟩
    have hclash {e : Endpoint} (he : e = c.src ∨ e = c.dst) (hip : KnownIp e.1) (ho : Occurs cmds mid e) :
        Clash c p.maps p.rules.participantsNodes.rules := by
      obtain ⟨nid, hnid⟩ := (h.maps.nodeid.has e).mpr ⟨mid, ho⟩
      obtain ⟨rid, hrid⟩ := (h.maps.replicationid.has (mid, e)).mpr ho
      obtain ⟨q, hq⟩ := hip
      have hin := (h.rules.nodes.rules ⟨nid, rid, q⟩).mpr ⟨mid, e, ho, hnid, hrid, hq⟩
      exact ⟨mid, e, hne, he, ⟨nid, rid, q⟩, hin, hnid, hrid, hq⟩
    refine ⟨hc, h.numbers hw, ?_⟩
    obtain ho | ho := ho
    · exact hclash (.inl rfl) hc.1 ho
    · exact hclash (.inr rfl) hc.2 ho

def streamOf (mid : Nat) : AddStream Nat where
  mid := mid
  sip := "10.0.211.1"
  sport := 3000
  ssrc := 1
  ssrcRtx := 2
  dip := "10.0.211.2"
  dport := 4000

/-- The second command inserts a key that the first one has inserted. -/
theorem insertion_rejected : Pre.addStreams [streamOf 0, streamOf 1] {} = .error .rpcException := by
  have hknown (mid : Nat) : (streamOf mid).Known := ⟨⟨4, rfl⟩, 44, rfl⟩
  have hone : Admissible ([] ++ [streamOf 0]) := by
    refine ⟨fun c hc => ?_, ⟨by decide, by decide⟩, fun mid mid' e ho ho' => ?_⟩
    · rw [List.mem_singleton.mp hc]
      exact hknown 0
    · obtain ⟨c, hc, rfl, -⟩ := ho
      obtain ⟨c', hc', rfl, -⟩ := ho'
      rw [List.mem_singleton.mp hc, List.mem_singleton.mp hc']
  obtain ⟨p, hp, hright, -⟩ := Pre.right_init.addStream hone
  have hcol : p.Collides (streamOf 1) :=
    (hright.collides_iff (hknown 1) ⟨by decide, by decide⟩).mpr ⟨0, by decide, .inl occurs_src⟩
  have hsecond := (Pre.sound_init.addStream_ensures.of_ok hp).1.addStream_ensures (c := streamOf 1)
  show ((Pre.addStream (streamOf 0) {}).bind fun p => (p.addStream (streamOf 1)).bind Except.ok) = _
  rw [hp]
  dsimp only [Except.bind]
  cases hr : p.addStream (streamOf 1) with
  | ok p' => exact absurd hcol (hsecond.of_ok hr).2
  | error e => rw [(hsecond.of_error hr).mpr hcol]

end Tofino

end Scallop
