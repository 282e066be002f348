import Scallop.Controller.Stream
import Scallop.Sdp.Candidates
import Scallop.Sdp.RoundTrip

/-!
# What the constructor of a stream reads

* `usedCandidate_eq` : the candidate that is used, with the check before it is read; `usedCandidate_of_*` : what it
  comes to;
* `Stream.Checked` : the checks of the constructor pass; `Stream.Complete` : all that is read without a check is there;
* `Stream.offered` : a stream is made and offered; `Stream.Safe` : that reads nothing that is not there;
* `safe_iff` : this is when a description that passes the checks is complete.
-/

namespace Scallop

namespace Stream

open Sdp

/-! ## The candidate -/

section Candidate
variable {media : MediaDescription} {cfg : SFUConfig}

def noCandidate : Fault := .invalidArgument "Stream: Stream(): no ICE candidates matching subnet filter"

/-- The choice is read once the candidates are known not to be empty. -/
theorem usedCandidate_eq (media : MediaDescription) (cfg : SFUConfig) : usedCandidate media cfg = (do
    let filtered ← filterCandidatesBySubnet media.iceCandidates cfg.netLimit
    if filtered = [] then .error noCandidate
    else match highestPriorityICECandidate filtered with
      | some highest => return highest
      | none => .error .outOfBounds) := by
  unfold usedCandidate
  congr 1
  funext filtered
  cases filtered with
  | nil => rfl
  | cons c cs => rw [if_neg (List.cons_ne_nil c cs)]; rfl

theorem usedCandidate_of_empty (h : ∀ c ∈ media.iceCandidates, c.HasAddress)
    (hnone : inside cfg.netLimit media.iceCandidates = []) : usedCandidate media cfg = .error noCandidate := by
  rw [usedCandidate_eq, filterCandidatesBySubnet_ok h, Except.bind_ok, if_pos hnone]

theorem usedCandidate_of_inside (h : ∀ c ∈ media.iceCandidates, c.HasAddress)
    (hsome : inside cfg.netLimit media.iceCandidates ≠ []) :
    ∃ c, usedCandidate media cfg = .ok c ∧ Best (inside cfg.netLimit media.iceCandidates) c := by
  rw [usedCandidate_eq, filterCandidatesBySubnet_ok h, Except.bind_ok, if_neg hsome]
  cases hc : highestPriorityICECandidate (inside cfg.netLimit media.iceCandidates) with
  | none => exact absurd (highestPriorityICECandidate_eq_none.mp hc) hsome
  | some c => exact ⟨c, rfl, highestPriorityICECandidate_best hc⟩

theorem usedCandidate_of_invalid (h : ¬ ∀ c ∈ media.iceCandidates, c.HasAddress) :
    ∃ c ∈ media.iceCandidates,
      usedCandidate media cfg = .error (.invalidArgument ("net::IPv4: invalid address: " ++ c.address)) := by
  rw [usedCandidate_eq]
  cases hf : filterCandidatesBySubnet media.iceCandidates cfg.netLimit with
  | ok filtered => exact absurd (fun c hc => filterCandidatesBySubnet_hasAddress hf hc) h
  | error e =>
      obtain ⟨c, hc, rfl⟩ := filterCandidatesBySubnet_error hf
      exact ⟨c, hc, rfl⟩

end Candidate

/-! ## What is read -/

/-- The constructor gets as far as to read the parts of the description. -/
structure Checked (media : MediaDescription) (cfg : SFUConfig) (ssrcs : SSRCDescription) : Prop where
  direction : media.direction = some .sendonly ∧ ssrcs.ssrcs = [] ∧ media.ssrcDescription.isSome ∨
    media.direction = some .recvonly ∧ ssrcs.ssrcs ≠ []
  addresses : ∀ c ∈ media.iceCandidates, c.HasAddress
  candidate : inside cfg.netLimit media.iceCandidates ≠ []

/-- The parts that are read without a check. -/
structure Complete (media : MediaDescription) : Prop where
  iceUfrag : media.iceUfrag.isSome
  icePwd : media.icePwd.isSome
  connectionData : media.connectionData.isSome
  ssrcs : ∀ d ∈ media.ssrcDescription, d.ssrcs ≠ []

/-- A stream is made of a description, and offered. -/
def offered (media : MediaDescription) (cfg : SFUConfig) (ssrcs : SSRCDescription) :
    Except Fault MediaDescription := do
  let stream ← ofDescription media cfg ssrcs
  stream.offer cfg

def Safe (media : MediaDescription) (cfg : SFUConfig) (ssrcs : SSRCDescription) : Prop :=
  (offered media cfg ssrcs).Ensures (fun _ => True) fun e => ¬ e.IsUndefined

/-! ## When that is safe -/

section Safe
variable {media : MediaDescription} {cfg : SFUConfig} {ssrcs : SSRCDescription}

def Lacks (media : MediaDescription) (e : Fault) : Prop := e.IsUndefined ∧ ¬ Complete media

structure Read (media : MediaDescription) : Prop where
  iceUfrag : media.iceUfrag.isSome
  icePwd : media.icePwd.isSome
  ssrcs : ∀ d ∈ media.ssrcDescription, d.ssrcs ≠ []

theorem complete_iff : Complete media ↔ Read media ∧ media.connectionData.isSome := by
  constructor
  · intro h
    exact ⟨⟨h.iceUfrag, h.icePwd, h.ssrcs⟩, h.connectionData⟩
  · rintro ⟨h, hdata⟩
    exact ⟨h.iceUfrag, h.icePwd, hdata, h.ssrcs⟩

/-- What such a read of the constructor shows. -/
def Unread (media : MediaDescription) (e : Fault) : Prop := e.IsUndefined ∧ ¬ Read media

theorem deref_ensures {α : Type} {P : Prop} (o : Option α) (h : o.isSome ∨ ¬ P) :
    (deref o).Ensures (fun _ => o.isSome) fun e => e.IsUndefined ∧ ¬ P := by
  cases o with
  | some a => exact rfl
  | none => exact ⟨.inl rfl, h.resolve_left Bool.false_ne_true⟩

theorem or_not_of_imp {P R : Prop} [Decidable P] (h : R → P) : P ∨ ¬ R := by
  by_cases hP : P
  · exact .inl hP
  · exact .inr fun hR => hP (h hR)

theorem baseConfig_ensures (ha : ∀ c ∈ media.iceCandidates, c.HasAddress)
    (hc : inside cfg.netLimit media.iceCandidates ≠ []) :
    (baseConfig media cfg).Ensures (fun _ => media.iceUfrag.isSome ∧ media.icePwd.isSome) (Unread media) := by
  obtain ⟨c, hused, hbest⟩ := usedCandidate_of_inside ha hc
  obtain ⟨ip, hip⟩ := ha c (mem_inside.mp hbest.mem).1
  unfold baseConfig
  rw [hused, Except.bind_ok, hip, Except.bind_ok]
  apply Except.Ensures.bind (deref_ensures media.iceUfrag (or_not_of_imp Read.iceUfrag))
  intro iceUfrag hufrag
  apply Except.Ensures.bind (deref_ensures media.icePwd (or_not_of_imp Read.icePwd))
  intro icePwd hpwd
  exact ⟨hufrag, hpwd⟩

theorem mainSSRC_eq_none {d : SSRCDescription} : d.mainSSRC = none ↔ d.ssrcs = [] := by
  unfold SSRCDescription.mainSSRC
  cases d.ssrcs with
  | nil => exact ⟨fun _ => rfl, fun _ => rfl⟩
  | cons s ss => exact ⟨fun h => (nomatch h), fun h => (nomatch h)⟩

theorem ofSendonly_ensures (hchecked : Checked media cfg ssrcs) (hdir : media.direction = some .sendonly) :
    (ofSendonly media cfg ssrcs hdir).Ensures (fun s => s.description = media ∧ Read media) (Unread media) := by
  rcases hchecked.direction with ⟨-, hempty, hsome⟩ | ⟨hrecv, -⟩
  · have hvalues : ¬ ssrcs.ssrcValues ≠ [] := by
      unfold SSRCDescription.ssrcValues
      rw [hempty]
      exact fun h => h rfl
    unfold ofSendonly
    rw [if_neg hvalues]
    split
    · rename_i hnone
      rw [hnone] at hsome
      exact nomatch hsome
    · rename_i d hd
      apply Except.Ensures.bind (baseConfig_ensures hchecked.addresses hchecked.candidate)
      intro base hbase
      split
      · rename_i hmain
        exact ⟨.inr rfl, fun h => h.ssrcs d hd (mainSSRC_eq_none.mp hmain)⟩
      · rename_i mainSSRC hmain
        refine ⟨rfl, hbase.1, hbase.2, fun d' hd' hnil => ?_⟩
        obtain rfl := Option.some.inj (hd.symm.trans hd')
        rw [mainSSRC_eq_none.mpr hnil] at hmain
        exact nomatch hmain
  · exact nomatch hdir.symm.trans hrecv

theorem rtcpSSRCs_ensures (media : MediaDescription) :
    (rtcpSSRCs media.ssrcDescription).Ensures (fun _ => ∀ d ∈ media.ssrcDescription, d.ssrcs ≠ []) (Unread media) := by
  unfold rtcpSSRCs
  cases hd : media.ssrcDescription with
  | none => exact fun d hd => nomatch hd
  | some d =>
      dsimp only
      cases hmain : d.mainSSRC with
      | none => exact ⟨.inr rfl, fun h => h.ssrcs d hd (mainSSRC_eq_none.mp hmain)⟩
      | some rtcpSSRC =>
          intro d' hd' hnil
          obtain rfl := Option.some.inj hd'
          rw [mainSSRC_eq_none.mpr hnil] at hmain
          exact nomatch hmain

theorem ofRecvonly_ensures (hchecked : Checked media cfg ssrcs) (hdir : media.direction = some .recvonly) :
    (ofRecvonly media cfg ssrcs hdir).Ensures (fun s => s.description = media ∧ Read media) (Unread media) := by
  rcases hchecked.direction with ⟨hsend, -⟩ | ⟨-, hsome⟩
  · exact nomatch hdir.symm.trans hsend
  · have hvalues : ¬ ssrcs.ssrcValues = [] := fun h => hsome (List.map_eq_nil_iff.mp h)
    unfold ofRecvonly
    rw [if_neg hvalues]
    apply Except.Ensures.bind (baseConfig_ensures hchecked.addresses hchecked.candidate)
    intro base hbase
    cases hmain : ssrcs.mainSSRC with
    | none => exact absurd (mainSSRC_eq_none.mp hmain) hsome
    | some mainSSRC =>
        apply Except.Ensures.bind (rtcpSSRCs_ensures media)
        intro r hr
        exact ⟨rfl, hbase.1, hbase.2, hr⟩

theorem ofDescription_ensures (hchecked : Checked media cfg ssrcs) :
    (ofDescription media cfg ssrcs).Ensures (fun s => s.description = media ∧ Read media) (Unread media) := by
  unfold ofDescription
  split
  · rename_i hdir
    rcases hchecked.direction with ⟨h, -⟩ | ⟨h, -⟩
    · exact nomatch hdir.symm.trans h
    · exact nomatch hdir.symm.trans h
  · exact ofSendonly_ensures hchecked _
  · exact ofRecvonly_ensures hchecked _
  · rename_i hsend hrecv hdir
    rcases hchecked.direction with ⟨h, -⟩ | ⟨h, -⟩
    · exact absurd (Option.some.inj (hdir.symm.trans h)) hsend
    · exact absurd (Option.some.inj (hdir.symm.trans h)) hrecv

/-- Once the checks have passed, a complete description gives an offer, and any other one a read of what is not
there. -/
theorem offered_ensures (hchecked : Checked media cfg ssrcs) :
    (offered media cfg ssrcs).Ensures (fun _ => Complete media) (Lacks media) := by
  have hstream := (ofDescription_ensures hchecked).mono (fun _ h => h) fun _ he =>
    (⟨he.1, fun h => he.2 (complete_iff.mp h).1⟩ : Lacks media _)
  unfold offered
  apply Except.Ensures.bind hstream
  rintro s ⟨rfl, hread⟩
  unfold offer
  apply Except.Ensures.bind (deref_ensures s.description.connectionData (or_not_of_imp Complete.connectionData))
  intro connectionData hdata
  exact complete_iff.mpr ⟨hread, hdata⟩

theorem not_isUndefined_invalidArgument (what : String) : ¬ (Fault.invalidArgument what).IsUndefined := by
  simp [Fault.IsUndefined]

theorem not_isUndefined_logicError (what : String) : ¬ (Fault.logicError what).IsUndefined := by
  simp [Fault.IsUndefined]

def Throws {α : Type} (x : Except Fault α) : Prop := ∃ e, x = .error e ∧ ¬ e.IsUndefined

theorem Throws.bind {α β : Type} {x : Except Fault α} {f : α → Except Fault β} (h : Throws x) : Throws (x >>= f) := by
  obtain ⟨e, rfl, he⟩ := h
  exact ⟨e, rfl, he⟩

theorem baseConfig_throws
    (h : ¬ ((∀ c ∈ media.iceCandidates, c.HasAddress) ∧ inside cfg.netLimit media.iceCandidates ≠ [])) :
    Throws (baseConfig media cfg) := by
  unfold baseConfig
  apply Throws.bind
  by_cases ha : ∀ c ∈ media.iceCandidates, c.HasAddress
  · have hnone : inside cfg.netLimit media.iceCandidates = [] := by
      by_contra hc
      exact h ⟨ha, hc⟩
    exact ⟨_, usedCandidate_of_empty ha hnone, not_isUndefined_invalidArgument _⟩
  · obtain ⟨c, -, hused⟩ := @usedCandidate_of_invalid media cfg ha
    exact ⟨_, hused, not_isUndefined_invalidArgument _⟩

theorem ofDescription_throws (h : ¬ Checked media cfg ssrcs) : Throws (ofDescription media cfg ssrcs) := by
  have hbase (hdir : media.direction = some .sendonly ∧ ssrcs.ssrcs = [] ∧ media.ssrcDescription.isSome ∨
      media.direction = some .recvonly ∧ ssrcs.ssrcs ≠ []) : Throws (baseConfig media cfg) :=
    baseConfig_throws fun hboth => h ⟨hdir, hboth.1, hboth.2⟩
  unfold ofDescription
  split
  · exact ⟨_, rfl, not_isUndefined_logicError _⟩
  · rename_i hdir
    unfold ofSendonly
    by_cases hvalues : ssrcs.ssrcValues ≠ []
    · rw [if_pos hvalues]
      exact ⟨_, rfl, not_isUndefined_invalidArgument _⟩
    · rw [if_neg hvalues]
      have hempty : ssrcs.ssrcs = [] := List.map_eq_nil_iff.mp (not_not.mp hvalues)
      split
      · exact ⟨_, rfl, not_isUndefined_logicError _⟩
      · rename_i d hd
        have hsome : media.ssrcDescription.isSome := by rw [hd]; rfl
        exact (hbase (.inl ⟨hdir, hempty, hsome⟩)).bind
  · rename_i hdir
    unfold ofRecvonly
    by_cases hvalues : ssrcs.ssrcValues = []
    · rw [if_pos hvalues]
      exact ⟨_, rfl, not_isUndefined_invalidArgument _⟩
    · rw [if_neg hvalues]
      have hsome : ssrcs.ssrcs ≠ [] := fun hnil => hvalues (List.map_eq_nil_iff.mpr hnil)
      exact (hbase (.inr ⟨hdir, hsome⟩)).bind
  · exact ⟨_, rfl, not_isUndefined_invalidArgument _⟩

theorem ofDescription_isOk_iff :
    (∃ s, ofDescription media cfg ssrcs = .ok s) ↔ Checked media cfg ssrcs ∧ Read media := by
  constructor
  · rintro ⟨s, hs⟩
    by_cases hchecked : Checked media cfg ssrcs
    · exact ⟨hchecked, ((ofDescription_ensures hchecked).of_ok hs).2⟩
    · obtain ⟨e, he, -⟩ := ofDescription_throws hchecked
      exact nomatch hs.symm.trans he
  · rintro ⟨hchecked, hread⟩
    cases hs : ofDescription media cfg ssrcs with
    | ok s => exact ⟨s, rfl⟩
    | error e => exact absurd hread ((ofDescription_ensures hchecked).of_error hs).2

theorem offered_throws (h : ¬ Checked media cfg ssrcs) : Throws (offered media cfg ssrcs) :=
  (ofDescription_throws h).bind

end Safe

/-- A description is handled safely just when it is complete, or is refused before that matters. -/
theorem safe_iff (media : MediaDescription) (cfg : SFUConfig) (ssrcs : SSRCDescription) :
    Safe media cfg ssrcs ↔ (Checked media cfg ssrcs → Complete media) := by
  unfold Safe
  by_cases hchecked : Checked media cfg ssrcs
  · have h := offered_ensures hchecked
    constructor
    · intro hsafe _
      cases ho : offered media cfg ssrcs with
      | ok m => exact h.of_ok ho
      | error e => exact absurd (h.of_error ho).1 (hsafe.of_error ho)
    · intro hcomplete
      exact h.mono (fun _ _ => trivial) fun e he => absurd (hcomplete hchecked) he.2
  · obtain ⟨e, he, hdefined⟩ := offered_throws hchecked
    rw [he]
    exact ⟨fun _ h => absurd h hchecked, fun _ => hdefined⟩

/-- The lines of a section without an `a=ice-ufrag` line. -/
def noUfragSection : MediaDescription := { videoSection "0" with iceUfrag := none, direction := some .sendonly }

theorem noUfragSection_wellFormed : noUfragSection.WellFormed :=
  { @videoSection_wellFormed "0" (by decide) with
    iceUfrag := by
      rintro s ⟨⟩ }

/-- It is parsed, and its credentials are read although they are not there. -/
theorem not_safe_noUfragSection :
    MediaDescription.ofLines noUfragSection.lines = .ok noUfragSection.printed ∧
      ¬ Safe noUfragSection.printed (SFUConfig.of "10.0.0.1" 3202 "7Ad/" "UKZe" ⟨0, 0⟩) {} := by
  refine ⟨MediaDescription.ofLines_lines noUfragSection_wellFormed.readable, ?_⟩
  rw [safe_iff]
  intro h
  have hip : IPv4.ofString "10.0.0.2" = .ok 0x0a000002 := IPv4.ofString_str 0x0a000002
  have hchecked : Checked noUfragSection.printed (SFUConfig.of "10.0.0.1" 3202 "7Ad/" "UKZe" ⟨0, 0⟩) {} := by
    refine ⟨.inl ⟨rfl, rfl, rfl⟩, fun c hc => ?_, fun hnil => ?_⟩
    · obtain rfl := List.mem_singleton.mp hc
      exact ⟨_, hip⟩
    · have hmem := List.filter_eq_nil_iff.mp hnil _ List.mem_cons_self
      unfold ICECandidate.inSubnet at hmem
      rw [hip] at hmem
      exact hmem rfl
  exact nomatch (h hchecked).iceUfrag

end Stream

end Scallop
