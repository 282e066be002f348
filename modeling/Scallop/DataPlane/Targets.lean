import Scallop.DataPlane.Model

/-!
# The decode targets in force

* `DataPlaneModel.inForce` : the decode target of the action of a match for a receiver;
* `inForce_addStream` : a new stream leaves the targets that are there, and new actions are at `hi`;
* `inForce_adjustDecodeTarget` : the target of one action changes;
* `onPacket_inForce` : datagrams leave the targets;
* `ReachesAgent`, `onPacket_toController` : which RTCP datagrams the switch agent gets.
-/

namespace Scallop

open Av1

/-- The decode target of the action for a receiver. -/
def targetFor (toAddr : IPv4Port) (as : List Action) : Option DecodeTarget :=
  (as.find? fun a => a.toAddr = toAddr).map Action.target

namespace SFUTable

def inForce (t : SFUTable) (m : Match) (toAddr : IPv4Port) : Option DecodeTarget :=
  (t.entry m).bind fun e => targetFor toAddr e.actions

end SFUTable

namespace DataPlaneModel

/-- The decode target of the action of `m` for a receiver. -/
def inForce (dp : DataPlaneModel) (m : Match) (toAddr : IPv4Port) : Option DecodeTarget :=
  dp.sfu.inForce m toAddr

section Targets
variable {toAddr : IPv4Port} {as : List Action} {a : Action}

theorem targetFor_cons_self (h : a.toAddr = toAddr) :
    targetFor toAddr (a :: as) = some a.target := by
  rw [targetFor, List.find?_cons_of_pos (by simpa using h), Option.map_some]

theorem targetFor_cons_of_ne (h : a.toAddr ≠ toAddr) :
    targetFor toAddr (a :: as) = targetFor toAddr as := by
  rw [targetFor, List.find?_cons_of_neg (by simpa using h), targetFor]

theorem targetFor_append (as as' : List Action) :
    targetFor toAddr (as ++ as') = (targetFor toAddr as).or (targetFor toAddr as') := by
  rw [targetFor, List.find?_append, Option.map_or]
  rfl

/-- Without an action for the receiver there is no target. -/
theorem targetFor_eq_none (h : toAddr ∉ as.map Action.toAddr) : targetFor toAddr as = none := by
  rw [targetFor, Option.map_eq_none_iff, List.find?_eq_none]
  intro a ha he
  exact h (List.mem_map.mpr ⟨a, ha, by simpa using he⟩)

end Targets

/-! ## New streams -/

/-- The targets that are there stay, and actions that come are at `hi`. -/
def Extends (t t' : SFUTable) : Prop :=
  ∀ m toAddr, t'.inForce m toAddr = t.inForce m toAddr ∨
    (t.inForce m toAddr = none ∧ t'.inForce m toAddr = some .hi)

section AddStream
variable {t t' t'' : SFUTable} {m m' : Match} {a : Action} {toAddr : IPv4Port}

theorem Extends.refl (t : SFUTable) : Extends t t := fun _ _ => .inl rfl

theorem Extends.trans (h : Extends t t') (h' : Extends t' t'') : Extends t t'' := by
  intro m toAddr
  rcases h m toAddr with h1 | ⟨h1, h2⟩
  · rcases h' m toAddr with h3 | ⟨h3, h4⟩
    · exact .inl (h3.trans h1)
    · exact .inr ⟨h1 ▸ h3, h4⟩
  · rcases h' m toAddr with h3 | ⟨h3, _⟩
    · exact .inr ⟨h1, h3.trans h2⟩
    · exact absurd (h2.symm.trans h3) (by simp)

theorem Extends.some {target : DecodeTarget} (h : Extends t t')
    (ht : t.inForce m toAddr = some target) : t'.inForce m toAddr = some target := by
  rcases h m toAddr with h1 | ⟨h1, -⟩
  · rw [h1, ht]
  · exact absurd (h1.symm.trans ht) (by simp)

theorem inForce_addMatch (t : SFUTable) (m m' : Match) (toAddr : IPv4Port) :
    (addMatch t m').inForce m toAddr = t.inForce m toAddr := by
  unfold addMatch
  split
  · rfl
  rename_i hno
  by_cases hm : m = m'
  · subst hm
    have hnone : t.entry m = none := by
      simpa [SFUTable.hasMatch] using hno
    rw [SFUTable.inForce, SFUTable.entry_setEntry_self, SFUTable.inForce, hnone]
    rfl
  · rw [SFUTable.inForce, SFUTable.entry_setEntry_of_ne t hm, SFUTable.inForce]

theorem addMatch_extends (t : SFUTable) (m : Match) : Extends t (addMatch t m) :=
  fun m' toAddr => .inl (inForce_addMatch t m' m toAddr)

theorem hasMatch_addMatch_self (t : SFUTable) (m : Match) : ((addMatch t m).entry m).isSome := by
  unfold addMatch
  split
  · assumption
  · rw [SFUTable.entry_setEntry_self]
    rfl

theorem isSome_addMatch (h : (t.entry m).isSome) (m' : Match) :
    ((addMatch t m').entry m).isSome := by
  by_cases hm : m = m'
  · subst hm
    exact hasMatch_addMatch_self t m
  · unfold addMatch
    split
    · exact h
    · rw [SFUTable.entry_setEntry_of_ne t hm]
      exact h

/-- What `_addAction` does to the action it is for. -/
theorem inForce_addAction_self (h : (t.entry m).isSome) (ha : a.target = .hi) :
    (addAction t m a).inForce m a.toAddr = some ((t.inForce m a.toAddr).getD .hi) := by
  obtain ⟨e, he⟩ := Option.isSome_iff_exists.mp h
  unfold addAction
  rw [he]
  dsimp only
  unfold Entry.addAction
  by_cases hex : e.hasAction a = true
  · rw [dif_pos hex]
    have hsome : targetFor a.toAddr e.actions ≠ none := by
      intro hn
      obtain ⟨b, hb, hto⟩ := List.any_eq_true.mp hex
      rw [targetFor, Option.map_eq_none_iff] at hn
      exact List.find?_eq_none.mp hn b hb hto
    obtain ⟨target, ht⟩ := Option.ne_none_iff_exists'.mp hsome
    rw [SFUTable.inForce, he, Option.bind_some, ht, Option.getD_some]
  · rw [dif_neg hex]
    have hnone : targetFor a.toAddr e.actions = none := by
      refine targetFor_eq_none fun hmem => hex ?_
      obtain ⟨b, hb, hto⟩ := List.mem_map.mp hmem
      exact List.any_eq_true.mpr ⟨b, hb, by simpa using hto⟩
    dsimp only
    rw [SFUTable.inForce, SFUTable.entry_setEntry_self, Option.bind_some, targetFor_append, hnone,
      Option.none_or, targetFor_cons_self rfl, ha, SFUTable.inForce, he, Option.bind_some, hnone,
      Option.getD_none]

theorem inForce_addAction_of_ne (h : m' = m → toAddr ≠ a.toAddr) :
    (addAction t m a).inForce m' toAddr = t.inForce m' toAddr := by
  unfold addAction
  split
  · rfl
  rename_i e he
  unfold Entry.addAction
  by_cases hex : e.hasAction a = true
  · rw [dif_pos hex]
  rw [dif_neg hex]
  dsimp only
  by_cases hm : m' = m
  · subst hm
    rw [SFUTable.inForce, SFUTable.entry_setEntry_self, SFUTable.inForce, he, Option.bind_some,
      Option.bind_some, targetFor_append, targetFor_cons_of_ne (h rfl).symm]
    exact Option.or_none
  · rw [SFUTable.inForce, SFUTable.entry_setEntry_of_ne t hm, SFUTable.inForce]

theorem addAction_extends (t : SFUTable) (m : Match) (ha : a.target = .hi) :
    Extends t (addAction t m a) := by
  intro m' toAddr
  by_cases hself : m' = m ∧ toAddr = a.toAddr
  · obtain ⟨rfl, rfl⟩ := hself
    cases he : t.entry m' with
    | none =>
        left
        unfold addAction
        rw [he]
    | some e =>
        rw [inForce_addAction_self (by rw [he]; rfl) ha]
        cases ht : t.inForce m' a.toAddr with
        | none => exact .inr ⟨rfl, rfl⟩
        | some target => exact .inl rfl
  · exact .inl (inForce_addAction_of_ne fun hm hto => hself ⟨hm, hto⟩)

theorem Extends.ite {p : Prop} [Decidable p] (h : Extends t t') :
    Extends t (if p then t' else t) := by
  split
  · exact h
  · exact .refl t

/-- The table with the matches of a stream. -/
def addMatches (t : SFUTable) (s : DataPlaneStream) : SFUTable :=
  let t := addMatch t ⟨s.src, s.ssrc⟩
  let t := if s.rtxSsrc ≠ 0 then addMatch t ⟨s.src, s.rtxSsrc⟩ else t
  let t := addMatch t ⟨s.dst, s.rtcpSsrc⟩
  if s.rtcpRtxSsrc ≠ 0 then addMatch t ⟨s.dst, s.rtcpRtxSsrc⟩ else t

theorem addMatches_extends (t : SFUTable) (s : DataPlaneStream) : Extends t (addMatches t s) :=
  (addMatch_extends _ _).trans <| (addMatch_extends _ _).ite.trans <|
    (addMatch_extends _ _).trans (addMatch_extends _ _).ite

theorem isSome_ite {p : Prop} [Decidable p] (h : (t.entry m).isSome)
    (h' : (t.entry m).isSome → (t'.entry m).isSome) :
    ((if p then t' else t).entry m).isSome := by
  split
  · exact h' h
  · exact h

theorem isSome_addMatches (t : SFUTable) (s : DataPlaneStream) :
    ((addMatches t s).entry ⟨s.src, s.ssrc⟩).isSome :=
  isSome_ite (isSome_addMatch (isSome_ite (hasMatch_addMatch_self _ _)
    fun h => isSome_addMatch h _) _) fun h => isSome_addMatch h _

/-- The match of the reverse direction is there, too. -/
theorem isSome_addMatches_ret (t : SFUTable) (s : DataPlaneStream) :
    ((addMatches t s).entry ⟨s.dst, s.rtcpSsrc⟩).isSome :=
  isSome_ite (hasMatch_addMatch_self _ _) fun h => isSome_addMatch h _

theorem isSome_addAction (h : (t.entry m').isSome) :
    ((addAction t m a).entry m').isSome := by
  unfold addAction
  split
  · exact h
  · split
    · rename_i e he e' he'
      by_cases hm : m' = m
      · rw [hm, SFUTable.entry_setEntry_self]
        rfl
      · rw [SFUTable.entry_setEntry_of_ne t hm]
        exact h
    · exact h

/-- The table with the actions of a stream, too. -/
def addActions (t : SFUTable) (s : DataPlaneStream) : SFUTable :=
  let t := addAction t ⟨s.src, s.ssrc⟩ { toAddr := s.dst }
  let t := addAction t ⟨s.dst, s.rtcpSsrc⟩ { toAddr := s.src }
  let t := if s.rtxSsrc ≠ 0 then addAction t ⟨s.src, s.rtxSsrc⟩ { toAddr := s.dst } else t
  if s.rtcpRtxSsrc ≠ 0 ∧ s.rtcpSsrc ≠ 1 then
    addAction t ⟨s.dst, s.rtcpRtxSsrc⟩ { toAddr := s.src }
  else t

theorem addAction_addActions_extends (t : SFUTable) (s : DataPlaneStream) :
    Extends (addAction t ⟨s.src, s.ssrc⟩ { toAddr := s.dst }) (addActions t s) :=
  (addAction_extends _ _ rfl).trans <| (addAction_extends _ _ rfl).ite.trans
    (addAction_extends _ _ rfl).ite

theorem addStream_of_dst_ne {dp : DataPlaneModel} {s : DataPlaneStream}
    (h : s.dst ≠ { ip := 0, port := 0 }) :
    (dp.addStream s).sfu = addActions (addMatches dp.sfu s) s := by
  unfold addStream
  dsimp only
  rw [if_neg h]
  rfl

theorem addStream_extends (dp : DataPlaneModel) (s : DataPlaneStream) :
    Extends dp.sfu (dp.addStream s).sfu := by
  by_cases h : s.dst = { ip := 0, port := 0 }
  · unfold addStream
    dsimp only
    rw [if_pos h]
    exact (addMatch_extends _ _).trans (addMatch_extends _ _).ite
  · rw [addStream_of_dst_ne h]
    exact (addMatches_extends _ _).trans
      ((addAction_extends _ _ rfl).trans (addAction_addActions_extends _ _))

theorem inForce_addStream_dst {dp : DataPlaneModel} {s : DataPlaneStream}
    (h : s.dst ≠ { ip := 0, port := 0 })
    (hold : ∀ target, dp.inForce ⟨s.src, s.ssrc⟩ s.dst = some target → target = .hi) :
    (dp.addStream s).inForce ⟨s.src, s.ssrc⟩ s.dst = some .hi := by
  have hself := inForce_addAction_self (a := { toAddr := s.dst }) (isSome_addMatches dp.sfu s) rfl
  have hhi : ((addMatches dp.sfu s).inForce ⟨s.src, s.ssrc⟩ s.dst).getD .hi = .hi := by
    rcases addMatches_extends dp.sfu s ⟨s.src, s.ssrc⟩ s.dst with h1 | ⟨-, h1⟩
    · rw [h1]
      cases ht : dp.sfu.inForce ⟨s.src, s.ssrc⟩ s.dst with
      | none => rfl
      | some target => exact hold target ht
    · rw [h1, Option.getD_some]
  rw [hhi] at hself
  rw [inForce, addStream_of_dst_ne h]
  exact (addAction_addActions_extends _ _).some hself

end AddStream

/-! ## A changed target -/

section Adjust
variable {dp : DataPlaneModel} {sender toAddr toAddr' : IPv4Port} {ssrc : SSRC} {n : Nat}
variable {target : DecodeTarget} {a : Action} {as : List Action} {m : Match}

theorem target_setTarget (h : decodeTargetFromNumIdentifier n = .ok target) :
    (setTarget a n).target = target := by
  unfold setTarget
  dsimp only
  rw [if_neg (not_gt_of_decodeTarget h), h]
  rfl

theorem targetFor_adjustActions_self (h : decodeTargetFromNumIdentifier n = .ok target) :
    targetFor toAddr (adjustActions toAddr n as) = (targetFor toAddr as).map fun _ => target := by
  induction as with
  | nil => rfl
  | cons a as ih =>
      by_cases ha : a.toAddr = toAddr
      · rw [adjustActions, if_pos ha, targetFor_cons_self ha, Option.map_some,
          targetFor_cons_self ((setTarget_toAddr a n).trans ha), target_setTarget h]
      · rw [adjustActions, if_neg ha, targetFor_cons_of_ne ha, targetFor_cons_of_ne ha, ih]

theorem targetFor_adjustActions_of_ne (h : toAddr' ≠ toAddr) :
    targetFor toAddr' (adjustActions toAddr n as) = targetFor toAddr' as := by
  induction as with
  | nil => rfl
  | cons a as ih =>
      by_cases ha : a.toAddr = toAddr
      · have hne : a.toAddr ≠ toAddr' := fun he => h (he.symm.trans ha)
        rw [adjustActions, if_pos ha, targetFor_cons_of_ne hne,
          targetFor_cons_of_ne (by rw [setTarget_toAddr]; exact hne)]
      · rw [adjustActions, if_neg ha]
        by_cases hb : a.toAddr = toAddr'
        · rw [targetFor_cons_self hb, targetFor_cons_self hb]
        · rw [targetFor_cons_of_ne hb, targetFor_cons_of_ne hb, ih]

theorem inForce_adjust_self (h : decodeTargetFromNumIdentifier n = .ok target)
    (hold : (dp.inForce ⟨sender, ssrc⟩ toAddr).isSome) :
    (dp.adjustDecodeTarget sender toAddr ssrc n).inForce ⟨sender, ssrc⟩ toAddr = some target := by
  unfold inForce SFUTable.inForce at hold
  unfold adjustDecodeTarget inForce SFUTable.inForce
  cases he : dp.sfu.entry ⟨sender, ssrc⟩ with
  | none =>
      rw [he] at hold
      exact absurd hold Bool.false_ne_true
  | some e =>
      rw [he, Option.bind_some] at hold
      dsimp only
      rw [SFUTable.entry_setEntry_self, Option.bind_some]
      obtain ⟨old, ht⟩ := Option.isSome_iff_exists.mp hold
      change targetFor toAddr (adjustActions toAddr n e.actions) = some target
      rw [targetFor_adjustActions_self h, ht, Option.map_some]

theorem inForce_adjust_of_ne (h : m = ⟨sender, ssrc⟩ → toAddr' ≠ toAddr) :
    (dp.adjustDecodeTarget sender toAddr ssrc n).inForce m toAddr' = dp.inForce m toAddr' := by
  unfold adjustDecodeTarget
  split
  · rfl
  rename_i e he
  unfold inForce SFUTable.inForce
  by_cases hm : m = ⟨sender, ssrc⟩
  · subst hm
    rw [SFUTable.entry_setEntry_self, he, Option.bind_some, Option.bind_some]
    exact targetFor_adjustActions_of_ne (h rfl)
  · rw [SFUTable.entry_setEntry_of_ne _ hm]

end Adjust

/-! ## Datagrams -/

section Packet
variable {f : Match → IPv4Port → Option DecodeTarget}

theorem targetFor_forward (toAddr : IPv4Port) (av1 : Option MandatoryFields) (as : List Action)
    (buf : Buf) : targetFor toAddr (forward av1 as buf).1 = targetFor toAddr as := by
  induction as generalizing buf with
  | nil => rfl
  | cons a as ih =>
      have hcons : ∀ (a' : Action) (as' : List Action), a'.toAddr = a.toAddr →
          a'.target = a.target → targetFor toAddr as' = targetFor toAddr as →
          targetFor toAddr (a' :: as') = targetFor toAddr (a :: as) := by
        intro a' as' hto ht has
        by_cases ha : a.toAddr = toAddr
        · rw [targetFor_cons_self (hto.trans ha), targetFor_cons_self ha, ht]
        · rw [targetFor_cons_of_ne (hto ▸ ha), targetFor_cons_of_ne ha, has]
      unfold forward
      cases av1 with
      | none => exact hcons _ _ rfl rfl (ih buf)
      | some m =>
          dsimp only
          split
          · exact hcons _ _ rfl rfl rfl
          · exact hcons _ _ rfl rfl (ih _)

theorem forwardRTP_inForce (sender : IPv4Port) (buf : Buf) (av1 : Option MandatoryFields) :
    Eff.Keeps (fun dp => dp.inForce = f) (forwardRTP sender buf av1) := by
  intro dp hdp
  unfold forwardRTP
  rw [Eff.get_bind_run]
  cases he : dp.sfu.entry ⟨sender, Rtp.ssrc buf⟩ with
  | none => exact hdp
  | some e =>
      rw [← hdp]
      funext m toAddr
      change SFUTable.inForce (dp.sfu.setEntry _ _) m toAddr = dp.sfu.inForce m toAddr
      unfold SFUTable.inForce
      by_cases hm : m = ⟨sender, Rtp.ssrc buf⟩
      · rw [hm, SFUTable.entry_setEntry_self, he, Option.bind_some, Option.bind_some]
        exact targetFor_forward toAddr av1 e.actions buf
      · rw [SFUTable.entry_setEntry_of_ne _ hm]

theorem onPacket_inForce (lost : Bool) (sender : IPv4Port) (buf : Buf) :
    Eff.Keeps (fun dp => dp.inForce = f) (onPacket lost sender buf) :=
  onPacket_keeps (fun _ _ h => h) forwardRTP_inForce lost sender buf

end Packet

/-! ## What the agent gets -/

/-- RTCP whose first packet is a receiver report, a NACK or a PLI. -/
def ReachesAgent (buf : Buf) : Prop :=
  Rtp.containsRtpOrRtcp buf = true ∧ Rtp.isRtcp buf = true ∧
    (Rtcp.pt buf = .rr ∨ ((Rtcp.pt buf = .rtpfb ∨ Rtcp.pt buf = .psfb) ∧ Rtcp.fbFmt buf = 1))

instance (buf : Buf) : Decidable (ReachesAgent buf) := by
  unfold ReachesAgent
  infer_instance

section ToController
variable {sender : IPv4Port} {buf : Buf} {P : Prop}

/-- If the effect passes an RTCP datagram to the agent, it is `buf`, and `P` holds. -/
def PassesOnly (sender : IPv4Port) (buf : Buf) (P : Prop) (w : Effect) : Prop :=
  ∀ sender' buf', w = .toController .rtcp sender' buf' → sender' = sender ∧ buf' = buf ∧ P

theorem only_toController {reason : Reason} (h : reason = .rtcp → P) :
    Eff.Only (PassesOnly sender buf P) (toController reason sender buf) := by
  unfold toController
  refine Eff.only_get_bind fun dp => ?_
  split
  · refine Eff.only_emit fun sender' buf' he => ?_
    rw [Effect.toController.injEq] at he
    exact ⟨he.2.1.symm, he.2.2.symm, h he.1⟩
  · exact Eff.only_throw _

theorem passesOnly_send (toAddr : IPv4Port) (b : Buf) :
    PassesOnly sender buf P (.send toAddr b) := fun _ _ he => nomatch he

theorem only_sendToActions : Eff.Only (PassesOnly sender buf P) (sendToActions sender buf) := by
  unfold sendToActions
  refine Eff.only_get_bind fun dp => ?_
  split
  · exact Eff.only_pure _
  · refine Eff.only_emits fun w hw => ?_
    obtain ⟨a, -, rfl⟩ := List.mem_map.mp hw
    exact passesOnly_send _ _

theorem only_handleFeedback (h : Rtcp.fbFmt buf = 1 → P) :
    Eff.Only (PassesOnly sender buf P) (handleFeedback sender buf) := by
  unfold handleFeedback
  split
  · rename_i hf
    exact only_sendToActions.bind fun _ => only_toController fun _ => h hf
  · exact Eff.only_pure _

theorem only_describe : Eff.Only (PassesOnly sender buf P) (describe sender buf) := by
  unfold describe
  refine Eff.only_get_bind fun dp => (Eff.only_ofExcept _).bind fun av1 => ?_
  cases av1 with
  | none => exact Eff.only_pure _
  | some d =>
      dsimp only
      split
      · exact (only_toController fun h => nomatch h).bind fun _ => (Eff.only_modify _).bind fun _ =>
          Eff.only_pure _
      · exact (Eff.only_modify _).bind fun _ => Eff.only_pure _

theorem only_forwardRTP (av1 : Option MandatoryFields) :
    Eff.Only (PassesOnly sender buf P) (forwardRTP sender buf av1) := by
  unfold forwardRTP
  refine Eff.only_get_bind fun dp => ?_
  split
  · exact Eff.only_pure _
  · refine (Eff.only_set _).bind fun _ => Eff.only_emits fun w hw => ?_
    obtain ⟨a, -, b, rfl⟩ := forward_sends av1 _ buf w hw
    exact passesOnly_send _ _

/-- The agent gets a datagram of RTCP only if its first packet is for it. -/
theorem onPacket_passesOnly (lost : Bool) :
    Eff.Only (PassesOnly sender buf (ReachesAgent buf)) (onPacket lost sender buf) := by
  unfold onPacket
  dsimp only
  split
  · exact (Eff.only_modify _).bind fun _ => (Eff.only_modify _).bind fun _ =>
      only_toController fun h => nomatch h
  split
  · rename_i hrtp
    refine (Eff.only_modify _).bind fun _ => ?_
    split
    · rename_i hrtcp
      unfold handleRTCP
      refine (Eff.only_modify _).bind fun _ => ?_
      split
      · exact only_sendToActions
      · rename_i hpt
        exact only_toController fun _ => ⟨hrtp, hrtcp, .inl hpt⟩
      · rename_i hpt
        exact only_handleFeedback fun hf => ⟨hrtp, hrtcp, .inr ⟨.inl hpt, hf⟩⟩
      · rename_i hpt
        exact only_handleFeedback fun hf => ⟨hrtp, hrtcp, .inr ⟨.inr hpt, hf⟩⟩
      · exact Eff.only_pure _
      · exact Eff.only_pure _
    · unfold handleRTP
      split
      · exact Eff.only_pure _
      · exact (Eff.only_modify _).bind fun _ => only_describe.bind fun av1 => only_forwardRTP av1
  · exact Eff.only_pure _

end ToController

end DataPlaneModel

end Scallop
