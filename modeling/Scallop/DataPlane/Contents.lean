import Scallop.DataPlane.Targets

/-!
# The contents of the SFU table

* `SFUTable.Targets` : a match has an action for a receiver;
* `addStream_targets` : the action that a new stream has for its source, whatever that is;
* `hasMatch_addStream`, `targets_addStream` : the matches and the actions that a stream adds;
* `SFUTable.Keeps` : the actions that are there stay as they are, before the new ones;
* `Adjusts` : nothing but the mode of the action for one receiver changes;
* `addStreams_contents` : the table after any streams.
-/

namespace Scallop

/-- `0.0.0.0:0`. -/
abbrev zeroAddr : IPv4Port := { ip := 0, port := 0 }

def SFUTable.Targets (t : SFUTable) (m : Match) (toAddr : IPv4Port) : Prop :=
  ∃ e, t.entry m = some e ∧ toAddr ∈ e.actions.map Action.toAddr

namespace DataPlaneModel

section Targets
variable {t : SFUTable} {m m' : Match} {toAddr : IPv4Port}

theorem targets_of_inForce {target : Av1.DecodeTarget}
    (h : SFUTable.inForce t m toAddr = some target) : t.Targets m toAddr := by
  unfold SFUTable.inForce at h
  obtain ⟨e, he, htarget⟩ := Option.bind_eq_some_iff.mp h
  refine ⟨e, he, ?_⟩
  by_contra hno
  rw [targetFor_eq_none hno] at htarget
  exact nomatch htarget

theorem targets_addMatch : (addMatch t m).Targets m' toAddr ↔ t.Targets m' toAddr := by
  unfold addMatch
  split
  · rfl
  · rename_i hno
    by_cases hm : m' = m
    · subst hm
      constructor
      · rintro ⟨e, he, hmem⟩
        rw [SFUTable.entry_setEntry_self] at he
        obtain rfl := Option.some.inj he
        exact absurd hmem List.not_mem_nil
      · rintro ⟨e, he, -⟩
        exact absurd (by unfold SFUTable.hasMatch; rw [he]; rfl) hno
    · unfold SFUTable.Targets
      rw [SFUTable.entry_setEntry_of_ne _ hm]

theorem hasMatch_addMatch : (addMatch t m).hasMatch m' = true ↔ m' = m ∨ t.hasMatch m' = true := by
  unfold addMatch
  split
  · refine ⟨.inr, fun h => h.elim ?_ id⟩
    rintro rfl
    assumption
  · by_cases hm : m' = m
    · subst hm
      simp [SFUTable.hasMatch]
    · unfold SFUTable.hasMatch
      rw [SFUTable.entry_setEntry_of_ne _ hm]
      simp [hm]

theorem hasMatch_addAction {a : Action} : (addAction t m a).hasMatch m' = t.hasMatch m' := by
  unfold addAction
  split
  · rfl
  · rename_i e he
    split
    · by_cases hm : m' = m
      · subst hm
        simp [SFUTable.hasMatch, he]
      · unfold SFUTable.hasMatch
        rw [SFUTable.entry_setEntry_of_ne _ hm]
    · rfl

/-- The actions of a match that is there, with one more. -/
theorem targets_addAction {a : Action} (h : t.hasMatch m = true) :
    (addAction t m a).Targets m' toAddr ↔
      (m' = m ∧ toAddr = a.toAddr) ∨ t.Targets m' toAddr := by
  obtain ⟨e, he⟩ := Option.isSome_iff_exists.mp h
  unfold addAction
  rw [he]
  dsimp only
  unfold Entry.addAction
  by_cases hex : e.hasAction a = true
  · rw [dif_pos hex]
    refine ⟨.inr, fun h => h.elim ?_ id⟩
    rintro ⟨rfl, rfl⟩
    obtain ⟨b, hb, hto⟩ := List.any_eq_true.mp hex
    exact ⟨e, he, List.mem_map.mpr ⟨b, hb, by simpa using hto⟩⟩
  · rw [dif_neg hex]
    dsimp only
    unfold SFUTable.Targets
    by_cases hm : m' = m
    · subst hm
      simp [he, or_comm, eq_comm]
    · rw [SFUTable.entry_setEntry_of_ne _ hm]
      simp [hm]

/-- Without a destination a stream has its matches only. -/
theorem addStream_of_dst_zero {dp : DataPlaneModel} {s : DataPlaneStream} (h : s.dst = zeroAddr) :
    (dp.addStream s).sfu =
      let t := addMatch dp.sfu ⟨s.src, s.ssrc⟩
      if s.rtxSsrc ≠ 0 then addMatch t ⟨s.src, s.rtxSsrc⟩ else t := by
  unfold addStream
  dsimp only
  rw [if_pos h]

theorem targets_addStream_of_dst_zero {dp : DataPlaneModel} {s : DataPlaneStream}
    (h : s.dst = zeroAddr) : (dp.addStream s).sfu.Targets m toAddr ↔ dp.sfu.Targets m toAddr := by
  rw [addStream_of_dst_zero h]
  dsimp only
  split
  · rw [targets_addMatch, targets_addMatch]
  · rw [targets_addMatch]

/-- With a destination it has an action for its source. -/
theorem addStream_targets {dp : DataPlaneModel} {s : DataPlaneStream} (h : s.dst ≠ zeroAddr) :
    (dp.addStream s).sfu.Targets ⟨s.dst, s.rtcpSsrc⟩ s.src := by
  rw [addStream_of_dst_ne h]
  have hret := inForce_addAction_self (a := { toAddr := s.src })
    (isSome_addAction (m := ⟨s.src, s.ssrc⟩) (a := { toAddr := s.dst })
      (isSome_addMatches_ret dp.sfu s)) rfl
  apply targets_of_inForce
  apply Extends.some _ hret
  exact (addAction_extends _ _ rfl).ite.trans (addAction_extends _ _ rfl).ite

end Targets

end DataPlaneModel

/-! ## What a stream adds -/

namespace DataPlaneStream
variable (s : DataPlaneStream) (m : Match)

/-- The SSRCs of the media: the main one, and that of retransmissions unless it is zero. -/
def IsMedia (ssrc : SSRC) : Prop := ssrc = s.ssrc ∨ s.rtxSsrc ≠ 0 ∧ ssrc = s.rtxSsrc

/-- The SSRCs of the reports of the receiver. -/
def IsReport (ssrc : SSRC) : Prop := ssrc = s.rtcpSsrc ∨ s.rtcpRtxSsrc ≠ 0 ∧ ssrc = s.rtcpRtxSsrc

/-- The SSRCs of the reports that are sent on to the sender. -/
def IsReturned (ssrc : SSRC) : Prop :=
  ssrc = s.rtcpSsrc ∨ (s.rtcpRtxSsrc ≠ 0 ∧ s.rtcpSsrc ≠ 1) ∧ ssrc = s.rtcpRtxSsrc

def Matches : Prop := (m.ipPort = s.src ∧ s.IsMedia m.ssrc) ∨ (m.ipPort = s.dst ∧ s.IsReport m.ssrc)

/-- The stream has an action of a match for a receiver. -/
def Sends (toAddr : IPv4Port) : Prop :=
  (m.ipPort = s.src ∧ s.IsMedia m.ssrc ∧ toAddr = s.dst) ∨
    (m.ipPort = s.dst ∧ s.IsReturned m.ssrc ∧ toAddr = s.src)

end DataPlaneStream

namespace DataPlaneModel

section Contents
variable {t : SFUTable} {m : Match} {toAddr : IPv4Port} {dp : DataPlaneModel} {s : DataPlaneStream}

theorem hasMatch_addMatches :
    (addMatches t s).hasMatch m = true ↔ s.Matches m ∨ t.hasMatch m = true := by
  obtain ⟨a, x⟩ := m
  unfold addMatches DataPlaneStream.Matches DataPlaneStream.IsMedia DataPlaneStream.IsReport
  dsimp only
  split_ifs with hret hrtx hrtx <;> simp only [hasMatch_addMatch, Match.mk.injEq] <;> tauto

theorem hasMatch_addActions : (addActions t s).hasMatch m = t.hasMatch m := by
  unfold addActions
  dsimp only
  split_ifs <;> simp only [hasMatch_addAction]

theorem hasMatch_addStream (h : s.dst ≠ zeroAddr) :
    (dp.addStream s).sfu.hasMatch m = true ↔ s.Matches m ∨ dp.sfu.hasMatch m = true := by
  rw [addStream_of_dst_ne h, hasMatch_addActions, hasMatch_addMatches]

theorem targets_addMatches : (addMatches t s).Targets m toAddr ↔ t.Targets m toAddr := by
  unfold addMatches
  dsimp only
  split_ifs <;> simp only [targets_addMatch]

theorem targets_ite {p : Prop} [Decidable p] {m' : Match} {a : Action}
    (h : p → t.hasMatch m = true) : (if p then addAction t m a else t).Targets m' toAddr ↔
      (p ∧ m' = m ∧ toAddr = a.toAddr) ∨ t.Targets m' toAddr := by
  split
  · rw [targets_addAction (h ‹p›)]
    simp [‹p›]
  · simp [‹¬ p›]

theorem targets_addActions (h : ∀ m, s.Matches m → t.hasMatch m = true) :
    (addActions t s).Targets m toAddr ↔ s.Sends m toAddr ∨ t.Targets m toAddr := by
  have hmain : t.hasMatch ⟨s.src, s.ssrc⟩ = true := h _ (.inl ⟨rfl, .inl rfl⟩)
  have hrtx (h0 : s.rtxSsrc ≠ 0) : t.hasMatch ⟨s.src, s.rtxSsrc⟩ = true :=
    h _ (.inl ⟨rfl, .inr ⟨h0, rfl⟩⟩)
  have hret : t.hasMatch ⟨s.dst, s.rtcpSsrc⟩ = true := h _ (.inr ⟨rfl, .inl rfl⟩)
  have hretRtx (h0 : s.rtcpRtxSsrc ≠ 0) : t.hasMatch ⟨s.dst, s.rtcpRtxSsrc⟩ = true :=
    h _ (.inr ⟨rfl, .inr ⟨h0, rfl⟩⟩)
  obtain ⟨a, x⟩ := m
  unfold addActions DataPlaneStream.Sends DataPlaneStream.IsMedia DataPlaneStream.IsReturned
  dsimp only
  have hrtx' (h0 : s.rtxSsrc ≠ 0) : SFUTable.hasMatch (addAction (addAction t ⟨s.src, s.ssrc⟩
      { toAddr := s.dst }) ⟨s.dst, s.rtcpSsrc⟩ { toAddr := s.src }) ⟨s.src, s.rtxSsrc⟩ = true := by
    rw [hasMatch_addAction, hasMatch_addAction, hrtx h0]
  rw [targets_ite, targets_ite hrtx', targets_addAction (by rw [hasMatch_addAction, hret]),
    targets_addAction hmain]
  · simp only [Match.mk.injEq]
    constructor
    · rintro (⟨h0, ⟨rfl, rfl⟩, rfl⟩ | ⟨h0, ⟨rfl, rfl⟩, rfl⟩ | ⟨⟨rfl, rfl⟩, rfl⟩ | ⟨⟨rfl, rfl⟩, rfl⟩ | ht)
      · exact .inl (.inr ⟨rfl, .inr ⟨h0, rfl⟩, rfl⟩)
      · exact .inl (.inl ⟨rfl, .inr ⟨h0, rfl⟩, rfl⟩)
      · exact .inl (.inr ⟨rfl, .inl rfl, rfl⟩)
      · exact .inl (.inl ⟨rfl, .inl rfl, rfl⟩)
      · exact .inr ht
    · rintro ((⟨rfl, rfl | ⟨h0, rfl⟩, rfl⟩ | ⟨rfl, rfl | ⟨h0, rfl⟩, rfl⟩) | ht)
      · exact .inr (.inr (.inr (.inl ⟨⟨rfl, rfl⟩, rfl⟩)))
      · exact .inr (.inl ⟨h0, ⟨rfl, rfl⟩, rfl⟩)
      · exact .inr (.inr (.inl ⟨⟨rfl, rfl⟩, rfl⟩))
      · exact .inl ⟨h0, ⟨rfl, rfl⟩, rfl⟩
      · exact .inr (.inr (.inr (.inr ht)))
  · intro h0
    split <;> simp only [hasMatch_addAction, hretRtx h0.1]

theorem targets_addStream (h : s.dst ≠ zeroAddr) :
    (dp.addStream s).sfu.Targets m toAddr ↔ s.Sends m toAddr ∨ dp.sfu.Targets m toAddr := by
  rw [addStream_of_dst_ne h, targets_addActions, targets_addMatches]
  exact fun m hm => hasMatch_addMatches.mpr (.inl hm)

end Contents

end DataPlaneModel

/-! ## What stays -/

/-- The actions that are there stay as they are, before those that come. -/
def SFUTable.Keeps (t t' : SFUTable) : Prop :=
  ∀ m e, t.entry m = some e → ∃ e', t'.entry m = some e' ∧ e.actions <+: e'.actions

namespace DataPlaneModel

section Keeps
variable {t t' t'' : SFUTable}

theorem keeps_refl (t : SFUTable) : t.Keeps t := fun _ e he => ⟨e, he, List.prefix_rfl⟩

theorem keeps_trans (h : t.Keeps t') (h' : t'.Keeps t'') : t.Keeps t'' := by
  intro m e he
  obtain ⟨e', he', hp⟩ := h m e he
  obtain ⟨e'', he'', hp'⟩ := h' m e' he'
  exact ⟨e'', he'', hp.trans hp'⟩

theorem keeps_ite {p : Prop} [Decidable p] (h : t.Keeps t') : t.Keeps (if p then t' else t) := by
  split
  · exact h
  · exact keeps_refl t

theorem keeps_addMatch (t : SFUTable) (m : Match) : t.Keeps (addMatch t m) := by
  unfold addMatch
  split
  · exact keeps_refl t
  · rename_i hno
    intro m' e he
    refine ⟨e, ?_, List.prefix_rfl⟩
    rw [SFUTable.entry_setEntry_of_ne, he]
    rintro rfl
    exact hno (by unfold SFUTable.hasMatch; rw [he]; rfl)

theorem keeps_addAction (t : SFUTable) (m : Match) (a : Action) : t.Keeps (addAction t m a) := by
  unfold addAction
  split
  · exact keeps_refl t
  rename_i e he
  unfold Entry.addAction
  by_cases hex : e.hasAction a = true
  · rw [dif_pos hex]
    exact keeps_refl t
  rw [dif_neg hex]
  intro m' e' he'
  by_cases hm : m' = m
  · subst hm
    obtain rfl := Option.some.inj (he.symm.trans he')
    exact ⟨_, SFUTable.entry_setEntry_self .., List.prefix_append _ _⟩
  · exact ⟨e', (SFUTable.entry_setEntry_of_ne _ hm _).trans he', List.prefix_rfl⟩

/-- A stream, whether it has been added before or not, leaves the actions that are there. -/
theorem keeps_addStream (dp : DataPlaneModel) (s : DataPlaneStream) :
    dp.sfu.Keeps (dp.addStream s).sfu := by
  by_cases h : s.dst = zeroAddr
  · rw [addStream_of_dst_zero h]
    exact keeps_trans (keeps_addMatch _ _) (keeps_ite (keeps_addMatch _ _))
  · rw [addStream_of_dst_ne h]
    refine keeps_trans (?_ : dp.sfu.Keeps (addMatches dp.sfu s)) ?_
    · exact keeps_trans (keeps_addMatch _ _) <| keeps_trans (keeps_ite (keeps_addMatch _ _)) <|
        keeps_trans (keeps_addMatch _ _) (keeps_ite (keeps_addMatch _ _))
    · exact keeps_trans (keeps_addAction _ _ _) <| keeps_trans (keeps_addAction _ _ _) <|
        keeps_trans (keeps_ite (keeps_addAction _ _ _)) (keeps_ite (keeps_addAction _ _ _))

end Keeps

/-- An action is as before, or it is the one for a receiver, in another mode. -/
def Adjusts (toAddr : IPv4Port) (a a' : Action) : Prop :=
  a' = a ∨ a.toAddr = toAddr ∧ ∃ svcConfig, a' = { a with svcConfig }

section Adjusts
variable {toAddr : IPv4Port} {target : Nat} {a : Action}

theorem adjusts_setTarget (h : a.toAddr = toAddr) : Adjusts toAddr a (setTarget a target) := by
  refine .inr ⟨h, ?_⟩
  unfold setTarget
  dsimp only
  split
  · exact ⟨_, rfl⟩
  · split
    · exact ⟨_, rfl⟩
    · exact ⟨_, rfl⟩

theorem adjusts_adjustActions (as : List Action) :
    List.Forall₂ (Adjusts toAddr) as (adjustActions toAddr target as) := by
  induction as with
  | nil => exact .nil
  | cons a as ih =>
      unfold adjustActions
      split
      · exact .cons (adjusts_setTarget ‹_›) (List.forall₂_same.mpr fun _ _ => .inl rfl)
      · exact .cons (.inl rfl) ih

/-- Nothing but the mode of one action of a match differs. -/
def AdjustsOnly (m : Match) (toAddr : IPv4Port) (dp dp' : DataPlaneModel) : Prop :=
  dp' = { dp with sfu := dp'.sfu } ∧ (∀ m' ≠ m, dp'.sfu.entry m' = dp.sfu.entry m') ∧
    Option.Rel (fun e e' => List.Forall₂ (Adjusts toAddr) e.actions e'.actions)
      (dp.sfu.entry m) (dp'.sfu.entry m)

theorem adjustDecodeTarget_adjustsOnly (dp : DataPlaneModel) (sender toAddr : IPv4Port) (ssrc : SSRC)
    (target : Nat) :
    AdjustsOnly ⟨sender, ssrc⟩ toAddr dp (dp.adjustDecodeTarget sender toAddr ssrc target) := by
  unfold adjustDecodeTarget
  cases he : dp.sfu.entry ⟨sender, ssrc⟩ with
  | none =>
      refine ⟨rfl, fun _ _ => rfl, ?_⟩
      rw [he]
      exact .none
  | some e =>
      refine ⟨rfl, fun m' hm => SFUTable.entry_setEntry_of_ne _ hm _, ?_⟩
      dsimp only
      rw [he, SFUTable.entry_setEntry_self]
      exact .some (adjusts_adjustActions e.actions)

end Adjusts

/-! ## Runs -/

def addStreams (dp : DataPlaneModel) (streams : List DataPlaneStream) : DataPlaneModel :=
  streams.foldl addStream dp

section Runs
variable {dp : DataPlaneModel} {streams : List DataPlaneStream} {m : Match} {toAddr : IPv4Port}

theorem hasMatch_addStreams (h : ∀ s ∈ streams, s.dst ≠ zeroAddr) :
    (dp.addStreams streams).sfu.hasMatch m = true ↔
      (∃ s ∈ streams, s.Matches m) ∨ dp.sfu.hasMatch m = true := by
  unfold addStreams
  induction streams generalizing dp with
  | nil => simp
  | cons s streams ih =>
      obtain ⟨hs, hrest⟩ := List.forall_mem_cons.mp h
      rw [List.foldl_cons, ih hrest, hasMatch_addStream hs, List.exists_mem_cons_iff, or_left_comm,
        or_assoc]

theorem targets_addStreams (h : ∀ s ∈ streams, s.dst ≠ zeroAddr) :
    (dp.addStreams streams).sfu.Targets m toAddr ↔
      (∃ s ∈ streams, s.Sends m toAddr) ∨ dp.sfu.Targets m toAddr := by
  unfold addStreams
  induction streams generalizing dp with
  | nil => simp
  | cons s streams ih =>
      obtain ⟨hs, hrest⟩ := List.forall_mem_cons.mp h
      rw [List.foldl_cons, ih hrest, targets_addStream hs, List.exists_mem_cons_iff, or_left_comm,
        or_assoc]

/-- **The table after any streams**: the matches and the receivers of the actions are those of the
streams, each receiver once. A stream leaves the actions that are there, and `adjustDecodeTarget`
changes the mode of one action. -/
theorem addStreams_contents (dp : DataPlaneModel) (streams : List DataPlaneStream)
    (hnew : dp.sfu = {}) (h : ∀ s ∈ streams, s.dst ≠ zeroAddr) :
    (∀ m, (dp.addStreams streams).sfu.hasMatch m = true ↔ ∃ s ∈ streams, s.Matches m) ∧
      (∀ m e, (dp.addStreams streams).sfu.entry m = some e → (e.actions.map Action.toAddr).Nodup ∧
        ∀ toAddr, toAddr ∈ e.actions.map Action.toAddr ↔ ∃ s ∈ streams, s.Sends m toAddr) ∧
      (∀ (dp : DataPlaneModel) (s : DataPlaneStream), dp.sfu.Keeps (dp.addStream s).sfu) ∧
      ∀ (dp : DataPlaneModel) (sender toAddr : IPv4Port) (ssrc : SSRC) (target : Nat),
        AdjustsOnly ⟨sender, ssrc⟩ toAddr dp (dp.adjustDecodeTarget sender toAddr ssrc target) := by
  refine ⟨fun m => ?_, fun m e he => ⟨e.nodup, fun toAddr => ?_⟩, keeps_addStream,
    adjustDecodeTarget_adjustsOnly⟩
  · rw [hasMatch_addStreams h, hnew]
    simp [SFUTable.hasMatch]
  · have htargets := @targets_addStreams dp streams m toAddr h
    rw [hnew] at htargets
    constructor
    · intro hmem
      refine (htargets.mp ⟨e, he, hmem⟩).resolve_right ?_
      rintro ⟨e', he', -⟩
      cases he'
    · intro hsends
      obtain ⟨e', he', hmem⟩ := htargets.mpr (.inl hsends)
      obtain rfl := Option.some.inj (he.symm.trans he')
      exact hmem

/-- Two participants that listen to each other, with the SSRC `1` for their reports. -/
def twoStreams : List DataPlaneStream :=
  [⟨⟨1, 1⟩, ⟨2, 2⟩, 10, 11, 1, 0⟩, ⟨⟨2, 2⟩, ⟨1, 1⟩, 20, 0, 1, 0⟩]

theorem addStreams_contents_two :
    (∀ m, (addStreams { av1RtpExt := 12 } twoStreams).sfu.hasMatch m = true ↔
        ∃ s ∈ twoStreams, s.Matches m) ∧
      (∀ m e, (addStreams { av1RtpExt := 12 } twoStreams).sfu.entry m = some e →
        (e.actions.map Action.toAddr).Nodup ∧
          ∀ toAddr, toAddr ∈ e.actions.map Action.toAddr ↔ ∃ s ∈ twoStreams, s.Sends m toAddr) ∧
      (∀ (dp : DataPlaneModel) (s : DataPlaneStream), dp.sfu.Keeps (dp.addStream s).sfu) ∧
      ∀ (dp : DataPlaneModel) (sender toAddr : IPv4Port) (ssrc : SSRC) (target : Nat),
        AdjustsOnly ⟨sender, ssrc⟩ toAddr dp (dp.adjustDecodeTarget sender toAddr ssrc target) :=
  addStreams_contents { av1RtpExt := 12 } twoStreams rfl (by decide)

end Runs

end DataPlaneModel

end Scallop
