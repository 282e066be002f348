import Scallop.Controller.Changes
import Scallop.Controller.Failure
import Scallop.Controller.StreamSafety

/-!
# The endpoints of streams

* `Connection`, `Session.transceiver` : a session seen as its connections; `transceiver_*` : how it changes;
* `SameFirst` : a list of candidates begins as those that were announced do;
* `permitted`, `ReachesBest` : the candidates that a section may use, and an address that is right;
* `Choosable` : sections for which the code finds it; `sectionStream_chosen` : what comes of them;
* `Session.Installs` : a call so far; `addOffer_installs`, `addAnswer_installs`;
* `Announcements`, `Op.announce` : what was announced so far in a run; `Op.ChoosesBest`, `run_choosesBest`.
-/

namespace Scallop

open Machine Sdp

/-! ## Connections -/

/-- What a participant sends, or what it receives of another one. -/
inductive Connection where
  | sender (id : Nat)
  | receiver (id offerId : Nat)
deriving DecidableEq

/-- The participant whose connection it is. -/
def Connection.owner : Connection → Nat
  | .sender id => id
  | .receiver id _ => id

def Participant.transceiver (p : Participant) : Connection → Transceiver
  | .sender _ => p.sender
  | .receiver _ offerId => p.receiver offerId

section Participants
variable {p : Participant} {c : Connection} {id offerId : Nat} {t : Transceiver} {g : Transceiver → Transceiver}

theorem Participant.transceiver_sender (hc : c.owner = id) :
    ({ p with sender := t } : Participant).transceiver c = Function.update p.transceiver (.sender id) t c := by
  cases c with
  | sender k =>
      obtain rfl : k = id := hc
      rw [Function.update_self]
      rfl
  | receiver k j =>
      rw [Function.update_of_ne (by simp)]
      rfl

theorem Participant.transceiver_updateReceiver (hc : c.owner = id) : (p.updateReceiver offerId g).transceiver c =
    Function.update p.transceiver (.receiver id offerId) (g (p.receiver offerId)) c := by
  cases c with
  | sender k =>
      rw [Function.update_of_ne (by simp)]
      rfl
  | receiver k j =>
      obtain rfl : k = id := hc
      show (p.updateReceiver offerId g).receiver j = _
      by_cases hj : j = offerId
      · rw [hj, Participant.receiver_updateReceiver_self, Function.update_self]
      · rw [Participant.receiver_updateReceiver_of_ne hj, Function.update_of_ne (by simp [hj])]
        rfl

/-- The candidates of an answer are put down, also those that are known. -/
theorem Participant.transceiver_addAnswerCandidates (answer : SessionDescription) (hc : c.owner = id) :
    (Session.addAnswerCandidates p offerId answer).transceiver c =
      Function.update p.transceiver (.receiver id offerId) { p.receiver offerId with
        iceCandidates := (p.receiver offerId).iceCandidates ++ Transceiver.descriptionCandidates answer } c := by
  unfold Session.addAnswerCandidates
  induction Transceiver.descriptionCandidates answer generalizing p with
  | nil =>
      rw [List.append_nil]
      exact congrFun (Function.update_eq_self (Connection.receiver id offerId) p.transceiver).symm c
  | cons new news ih =>
      rw [List.foldl_cons, ih, Participant.receiver_updateReceiver_self]
      have hcs := List.append_cons (p.receiver offerId).iceCandidates new news
      by_cases heq : c = .receiver id offerId
      · rw [heq, Function.update_self, Function.update_self, hcs]
        rfl
      · rw [Function.update_of_ne heq, Function.update_of_ne heq, Participant.transceiver_updateReceiver hc,
          Function.update_of_ne heq]

end Participants

namespace Session

def transceiver (s : Session) (c : Connection) : Transceiver := (s.participant c.owner).transceiver c

section Transceivers
variable {s : Session} {c : Connection} {id offerId : Nat} {f : Participant → Participant} {t : Transceiver}
variable {g : Transceiver → Transceiver}

theorem transceiver_update_of_owner (h : c.owner = id) :
    (s.update id f).transceiver c = (f (s.participant id)).transceiver c := by
  unfold transceiver
  rw [h, participant_update_self]

theorem transceiver_update_of_ne (h : c.owner ≠ id) : (s.update id f).transceiver c = s.transceiver c := by
  unfold transceiver
  rw [participant_update_of_ne h]

theorem transceiver_update (hf : (f (s.participant id)).transceiver = (s.participant id).transceiver) :
    (s.update id f).transceiver = s.transceiver := by
  funext c
  by_cases h : c.owner = id
  · rw [transceiver_update_of_owner h, hf, ← h]
    rfl
  · exact transceiver_update_of_ne h

theorem transceiver_update_at (hc : c.owner = id) (hf : ∀ c', c'.owner = id →
      (f (s.participant id)).transceiver c' = Function.update (s.participant id).transceiver c t c') :
    (s.update id f).transceiver = Function.update s.transceiver c t := by
  funext c'
  by_cases h : c'.owner = id
  · rw [transceiver_update_of_owner h, hf c' h]
    by_cases heq : c' = c
    · rw [heq, Function.update_self, Function.update_self]
    · rw [Function.update_of_ne heq, Function.update_of_ne heq, ← h]
      rfl
  · have heq : c' ≠ c := fun heq => h (heq ▸ hc)
    rw [transceiver_update_of_ne h, Function.update_of_ne heq]

theorem transceiver_update_sender : (s.update id fun p => { p with sender := g p.sender }).transceiver =
    Function.update s.transceiver (.sender id) (g (s.transceiver (.sender id))) :=
  transceiver_update_at rfl fun _ hc' => Participant.transceiver_sender hc'

theorem transceiver_updateReceiver : (s.update id fun p => p.updateReceiver offerId g).transceiver =
    Function.update s.transceiver (.receiver id offerId) (g (s.transceiver (.receiver id offerId))) :=
  transceiver_update_at rfl fun _ hc' => Participant.transceiver_updateReceiver hc'

theorem transceiver_addAnswerCandidates (s : Session) (fromId offerId : Nat) (answer : SessionDescription) :
    (s.update fromId fun p => addAnswerCandidates p offerId answer).transceiver =
      Function.update s.transceiver (.receiver fromId offerId) { s.transceiver (.receiver fromId offerId) with
        iceCandidates := (s.transceiver (.receiver fromId offerId)).iceCandidates ++
          Transceiver.descriptionCandidates answer } :=
  @transceiver_update_at s (.receiver fromId offerId) fromId (fun p => addAnswerCandidates p offerId answer) _ rfl
    fun _ hc' => Participant.transceiver_addAnswerCandidates answer hc'

/-- `_participants[id]`, which changes nothing that can be read. -/
theorem participant_touch (s : Session) (id k : Nat) : (s.update id fun p => p).participant k = s.participant k := by
  by_cases hk : k = id
  · rw [hk, participant_update_self]
  · exact participant_update_of_ne hk

/-- A participant that is not there has no connections. -/
theorem participant_of_not_exists (h : ¬ s.participantExists id = true) : s.participant id = {} := by
  rw [participantExists_iff, Option.not_isSome_iff_eq_none] at h
  rw [participant_eq, h]
  rfl

theorem transceiver_erase_of_owner (h : c.owner = id) : ((s.erase id).transceiver c).iceCandidates = [] := by
  have hnone : (s.erase id).participant id = {} := by
    unfold erase
    rw [participant_eq, Std.ExtTreeMap.getElem?_erase_self]
    rfl
  unfold transceiver
  rw [h, hnone]
  cases c with
  | sender k => rfl
  | receiver k j => rfl

theorem transceiver_erase_of_ne (h : c.owner ≠ id) : (s.erase id).transceiver c = s.transceiver c := by
  unfold transceiver
  rw [participant_erase_of_ne h]

end Transceivers

end Session

/-! ## Candidates that were announced -/

/-- A list of candidates begins as all that were announced do. -/
def SameFirst (cs announced : List ICECandidate) : Prop := cs.head? = announced.head?

section SameFirst
variable {cs announced : List ICECandidate}

theorem SameFirst.append (h : SameFirst cs announced) (new : List ICECandidate) :
    SameFirst (cs ++ new) (announced ++ new) := by
  unfold SameFirst at h ⊢
  rw [List.head?_append, List.head?_append, h]

/-- A candidate that is known does not have to be put down once more. -/
theorem SameFirst.append_of_mem {c : ICECandidate} (h : SameFirst cs announced) (hc : c ∈ cs) :
    SameFirst cs (announced ++ [c]) := by
  cases announced with
  | nil =>
      rw [List.head?_eq_none_iff.mp h] at hc
      exact absurd hc List.not_mem_nil
  | cons a as => exact h

theorem SameFirst.updateICECandidates {t : Transceiver} (h : SameFirst t.iceCandidates announced)
    (sdp : SessionDescription) :
    SameFirst (t.updateICECandidates sdp).iceCandidates (announced ++ Transceiver.descriptionCandidates sdp) := by
  unfold Transceiver.updateICECandidates
  generalize Transceiver.descriptionCandidates sdp = new
  induction new generalizing t announced with
  | nil => rwa [List.append_nil]
  | cons c new ih =>
      rw [List.foldl_cons, List.append_cons]
      apply ih
      by_cases hc : t.hasICECandidate c = true
      · rw [if_pos hc]
        exact h.append_of_mem (of_decide_eq_true hc)
      · rw [if_neg hc]
        exact h.append [c]

end SameFirst

/-! ## Sections -/

/-- The candidates that a section may use: its own, or those that were announced, where it has none. With `ownOnly`
any candidate of its own counts, else just those in the subnet. -/
def permitted (ownOnly : Bool) (net : IPv4Prefix) (announced : List ICECandidate) (media : MediaDescription) :
    List ICECandidate :=
  if media.iceCandidates = [] ∨ ownOnly = false ∧ inside net media.iceCandidates = [] then inside net announced
  else inside net media.iceCandidates

/-- The address of a candidate with maximal priority. -/
def ReachesBest (cs : List ICECandidate) (addr : IPv4Port) : Prop := ∃ c, Best cs c ∧ c.endpoint? = some addr

/-- A stream of a section, which may have got a candidate. -/
def Stream.IsOf (stream : Stream) (media : MediaDescription) : Prop :=
  stream.description = { media with iceCandidates := stream.description.iceCandidates }

/-- The section has a candidate in the subnet, or candidates that are all it may use; or nothing in the subnet was
announced; or it has no candidates, and the first one that was announced is as good as any in the subnet. -/
inductive Choosable (ownOnly : Bool) (net : IPv4Prefix) (announced : List ICECandidate) (media : MediaDescription) :
    Prop where
  | own (h : inside net media.iceCandidates ≠ [])
  | outside (honly : ownOnly = true) (hown : media.iceCandidates ≠ [])
  | nothing (h : inside net announced = [])
  | first {c : ICECandidate} {addr : IPv4Port} (hown : media.iceCandidates = []) (hfirst : announced.head? = some c)
      (haddr : c.endpoint? = some addr) (hbest : ReachesBest (inside net announced) addr)

def sectionStream (t : Transceiver) (media : MediaDescription) (cfg : SFUConfig) (ssrcs : SSRCDescription) :
    Except Fault Stream := do
  let media ← Session.withCandidate t media
  Stream.ofDescription media cfg ssrcs

def noOfferCandidates : Fault := .logicError "Session: addOffer: no ice candidates in offer"

def LacksCandidates (e : Fault) : Prop := e = noOfferCandidates ∨ e = Stream.noCandidate

instance (e : Fault) : Decidable (LacksCandidates e) := inferInstanceAs (Decidable (_ ∨ _))

section Sections
variable {media : MediaDescription} {cfg : SFUConfig} {ssrcs : SSRCDescription} {t : Transceiver}
variable {announced : List ICECandidate} {net : IPv4Prefix} {ownOnly : Bool}

theorem not_lacksCandidates_invalid (address : String) :
    ¬ LacksCandidates (.invalidArgument ("net::IPv4: invalid address: " ++ address)) := by
  rintro (h | h)
  · exact nomatch h
  · have hhead := congrArg (fun s => s.toList.head?) (Fault.invalidArgument.inj h)
    have hn : ("net::IPv4: invalid address: " ++ address).toList.head? = some 'n' := by
      rw [String.toList_append]
      rfl
    exact absurd (hn.symm.trans hhead) (by decide)

theorem not_lacksCandidates_undefined {e : Fault} (h : e.IsUndefined) : ¬ LacksCandidates e := by
  rcases h with rfl | rfl
  · decide
  · decide

theorem usedCandidate_chosen (media : MediaDescription) (cfg : SFUConfig) :
    (Stream.usedCandidate media cfg).Ensures (Best (inside cfg.netLimit media.iceCandidates))
      fun e => LacksCandidates e → inside cfg.netLimit media.iceCandidates = [] := by
  by_cases ha : ∀ c ∈ media.iceCandidates, c.HasAddress
  · by_cases hc : inside cfg.netLimit media.iceCandidates = []
    · rw [Stream.usedCandidate_of_empty ha hc]
      exact fun _ => hc
    · obtain ⟨c, hused, hbest⟩ := Stream.usedCandidate_of_inside ha hc
      rw [hused]
      exact hbest
  · obtain ⟨c, -, hused⟩ := @Stream.usedCandidate_of_invalid media cfg ha
    rw [hused]
    exact fun h => absurd h (not_lacksCandidates_invalid _)

theorem baseConfig_chosen (media : MediaDescription) (cfg : SFUConfig) :
    (Stream.baseConfig media cfg).Ensures
      (fun base => ReachesBest (inside cfg.netLimit media.iceCandidates) base.addr)
      fun e => LacksCandidates e → inside cfg.netLimit media.iceCandidates = [] := by
  have hderef {α : Type} (o : Option α) : (Stream.deref o).Ensures (fun _ => True)
      fun e => LacksCandidates e → inside cfg.netLimit media.iceCandidates = [] := by
    cases o with
    | some a => trivial
    | none => exact fun h => absurd h (not_lacksCandidates_undefined (.inl rfl))
  unfold Stream.baseConfig
  apply Except.Ensures.bind (usedCandidate_chosen media cfg)
  intro c hbest
  obtain ⟨ip, hip⟩ := ICECandidate.hasAddress_of_inSubnet (mem_inside.mp hbest.mem).2
  rw [hip, Except.bind_ok]
  apply Except.Ensures.bind (hderef media.iceUfrag)
  intro iceUfrag _
  apply Except.Ensures.bind (hderef media.icePwd)
  intro icePwd _
  refine ⟨c, hbest, ?_⟩
  unfold ICECandidate.endpoint?
  rw [hip]

theorem ofSendonly_chosen (hdir : media.direction = some .sendonly) :
    (Stream.ofSendonly media cfg ssrcs hdir).Ensures
      (fun s => s.description = media ∧ ReachesBest (inside cfg.netLimit media.iceCandidates) s.config.addr)
      fun e => LacksCandidates e → inside cfg.netLimit media.iceCandidates = [] := by
  unfold Stream.ofSendonly
  split
  · exact fun h => absurd h (by decide)
  · split
    · exact fun h => absurd h (by decide)
    · apply Except.Ensures.bind (baseConfig_chosen media cfg)
      intro base hbase
      split
      · exact fun h => absurd h (not_lacksCandidates_undefined (.inr rfl))
      · exact ⟨rfl, hbase⟩

theorem ofRecvonly_chosen (hdir : media.direction = some .recvonly) :
    (Stream.ofRecvonly media cfg ssrcs hdir).Ensures
      (fun s => s.description = media ∧ ReachesBest (inside cfg.netLimit media.iceCandidates) s.config.addr)
      fun e => LacksCandidates e → inside cfg.netLimit media.iceCandidates = [] := by
  have hssrcs : (Stream.rtcpSSRCs media.ssrcDescription).Ensures (fun _ => True)
      fun e => LacksCandidates e → inside cfg.netLimit media.iceCandidates = [] := by
    unfold Stream.rtcpSSRCs
    cases media.ssrcDescription with
    | none => trivial
    | some d =>
        dsimp only
        cases d.mainSSRC with
        | none => exact fun h => absurd h (not_lacksCandidates_undefined (.inr rfl))
        | some rtcpSSRC => trivial
  unfold Stream.ofRecvonly
  split
  · exact fun h => absurd h (by decide)
  · apply Except.Ensures.bind (baseConfig_chosen media cfg)
    intro base hbase
    cases ssrcs.mainSSRC with
    | none => exact fun h => absurd h (not_lacksCandidates_undefined (.inr rfl))
    | some mainSSRC =>
        apply Except.Ensures.bind hssrcs
        intro r _
        exact ⟨rfl, hbase⟩

/-- A stream has the address of a best candidate of its description. -/
theorem ofDescription_chosen (media : MediaDescription) (cfg : SFUConfig) (ssrcs : SSRCDescription) :
    (Stream.ofDescription media cfg ssrcs).Ensures
      (fun s => s.description = media ∧ ReachesBest (inside cfg.netLimit media.iceCandidates) s.config.addr)
      fun e => LacksCandidates e → inside cfg.netLimit media.iceCandidates = [] := by
  unfold Stream.ofDescription
  split
  · exact fun h => absurd h (by decide)
  · exact ofSendonly_chosen _
  · exact ofRecvonly_chosen _
  · exact fun h => absurd h (by decide)

/-- A section without candidates gets the first one that was announced. -/
theorem inside_singleton {c : ICECandidate} {addr : IPv4Port} {cs : List ICECandidate} (haddr : c.endpoint? = some addr)
    (hbest : ReachesBest (inside net cs) addr) : inside net [c] = [c] := by
  obtain ⟨best, hbest, hbestAddr⟩ := hbest
  have hin : c.inSubnet net = best.inSubnet net := by
    unfold ICECandidate.endpoint? at haddr hbestAddr
    unfold ICECandidate.inSubnet
    cases hc : IPv4.ofString c.address with
    | error e =>
        rw [hc] at haddr
        exact nomatch haddr
    | ok ip =>
        cases hb : IPv4.ofString best.address with
        | error e =>
            rw [hb] at hbestAddr
            exact nomatch hbestAddr
        | ok ip' =>
            rw [hc] at haddr
            rw [hb] at hbestAddr
            have hip := congrArg IPv4Port.ip (Option.some.inj (haddr.trans hbestAddr.symm))
            rw [show ip = ip' from hip]
  unfold inside
  rw [List.filter_cons_of_pos (hin.trans (mem_inside.mp hbest.mem).2), List.filter_nil]

/-- Where it is clear which candidate to use, a section comes to a stream that has its address, or fails for lack of
candidates only if there is none. -/
theorem sectionStream_chosen (hsame : SameFirst t.iceCandidates announced)
    (hclear : Choosable ownOnly cfg.netLimit announced media) : (sectionStream t media cfg ssrcs).Ensures
      (fun s => s.IsOf media ∧ ReachesBest (permitted ownOnly cfg.netLimit announced media) s.config.addr)
      fun e => LacksCandidates e → permitted ownOnly cfg.netLimit announced media = [] := by
  unfold sectionStream Session.withCandidate
  by_cases hown : media.iceCandidates = []
  · have hnone : inside cfg.netLimit media.iceCandidates = [] := by
      rw [hown]
      rfl
    have hpermitted : permitted ownOnly cfg.netLimit announced media = inside cfg.netLimit announced := by
      unfold permitted
      rw [if_pos (.inl hown)]
    rw [if_pos hown, hpermitted]
    cases hcs : t.iceCandidates with
    | nil =>
        intro _
        have hempty : announced = [] := by
          rw [← List.head?_eq_none_iff, ← hsame, hcs]
          rfl
        rw [hempty]
        rfl
    | cons c cs =>
        have hfirst : announced.head? = some c := by
          rw [← hsame, hcs]
          rfl
        dsimp only
        rw [Except.bind_ok]
        apply (ofDescription_chosen _ _ _).mono
        · rintro s ⟨hs, hreach⟩
          refine ⟨by rw [Stream.IsOf, hs], ?_⟩
          obtain ⟨c', hc', haddr⟩ := hreach
          obtain rfl : c' = c := List.mem_singleton.mp (mem_inside.mp hc'.mem).1
          cases hclear with
          | own h => exact absurd hnone h
          | outside _ h => exact absurd hown h
          | nothing h =>
              have hmem : c' ∈ inside cfg.netLimit announced :=
                mem_inside.mpr ⟨List.mem_of_head? hfirst, (mem_inside.mp hc'.mem).2⟩
              rw [h] at hmem
              exact absurd hmem List.not_mem_nil
          | first _ hfirst' haddr' hbest =>
              obtain rfl := Option.some.inj (hfirst.symm.trans hfirst')
              obtain rfl := Option.some.inj (haddr.symm.trans haddr')
              exact hbest
        · intro e he hlacks
          have hout : inside cfg.netLimit [c] = [] := he hlacks
          cases hclear with
          | own h => exact absurd hnone h
          | outside _ h => exact absurd hown h
          | nothing h => exact h
          | first _ hfirst' haddr' hbest =>
              obtain rfl := Option.some.inj (hfirst.symm.trans hfirst')
              rw [inside_singleton haddr' hbest] at hout
              exact absurd hout (List.cons_ne_nil _ _)
  · rw [if_neg hown, Except.bind_ok]
    apply (ofDescription_chosen _ _ _).mono
    · rintro s ⟨hs, hreach⟩
      refine ⟨by rw [Stream.IsOf, hs], ?_⟩
      obtain ⟨c, hc, haddr⟩ := hreach
      have hsome : inside cfg.netLimit media.iceCandidates ≠ [] := List.ne_nil_of_mem hc.mem
      unfold permitted
      rw [if_neg fun h => h.elim hown fun h => hsome h.2]
      exact ⟨c, hc, haddr⟩
    · intro e he hlacks
      have hnone := he hlacks
      unfold permitted
      split
      · rename_i hfalls
        cases hclear with
        | own h => exact absurd hnone h
        | outside honly _ =>
            rcases hfalls with h | h
            · exact absurd h hown
            · exact nomatch honly.symm.trans h.1
        | nothing h => exact h
        | first hown' _ _ _ => exact absurd hown' hown
      · exact hnone

end Sections

/-! ## Calls -/

namespace Session

section Calls
variable {τ ω : Type} {onNewStream : OnNewStream τ ω} {s₀ s s' : Session} {c : Connection}
variable {announced : List ICECandidate} {needed : List MediaDescription} {media : MediaDescription}
variable {stream : Stream} {fromId initKey offerId : Nat} {ssrcs : SSRCDescription} {ownOnly : Bool}

def CallbackFails (onNewStream : OnNewStream τ ω) (e : Fault) : Prop :=
  ∃ f, onNewStream = some f ∧ ∃ s id stream t, (f s id stream t).result = .error e

/-- A new stream of one of the sections, with the address of a best candidate. -/
def WellChosen (ownOnly : Bool) (net : IPv4Prefix) (announced : List ICECandidate) (needed : List MediaDescription)
    (stream : Stream) : Prop :=
  ∃ media ∈ needed, stream.IsOf media ∧ ReachesBest (permitted ownOnly net announced media) stream.config.addr

/-- A call on a connection, so far: new streams at its end, and the rest as it was. -/
structure Installs (ownOnly : Bool) (s₀ : Session) (c : Connection) (announced : List ICECandidate)
    (needed : List MediaDescription) (s : Session) : Prop where
  config : s.sfuConfig = s₀.sfuConfig
  others : ∀ c', c' ≠ c → s.transceiver c' = s₀.transceiver c'
  candidates : SameFirst (s.transceiver c).iceCandidates announced
  streams : ∃ new, (s.transceiver c).streams = (s₀.transceiver c).streams ++ new ∧
    ∀ stream ∈ new, WellChosen ownOnly s₀.sfuConfig.netLimit announced needed stream

/-- A call that fails for lack of candidates does so for a section that may use none. -/
def FailsRightly (ownOnly : Bool) (onNewStream : OnNewStream τ ω) (s₀ : Session) (announced : List ICECandidate)
    (needed : List MediaDescription) (e : Fault) : Prop :=
  LacksCandidates e → CallbackFails onNewStream e ∨
    ∃ media ∈ needed, permitted ownOnly s₀.sfuConfig.netLimit announced media = []

theorem Installs.congr (h : Installs ownOnly s₀ c announced needed s) (hconfig : s'.sfuConfig = s.sfuConfig)
    (htransceiver : s'.transceiver = s.transceiver) : Installs ownOnly s₀ c announced needed s' where
  config := hconfig.trans h.config
  others c' hc' := by rw [htransceiver, h.others c' hc']
  candidates := by rw [htransceiver]; exact h.candidates
  streams := by rw [htransceiver]; exact h.streams

theorem Installs.addStream (h : Installs ownOnly s₀ c announced needed s) (hconfig : s'.sfuConfig = s.sfuConfig)
    (htransceiver : s'.transceiver = Function.update s.transceiver c ((s.transceiver c).addStream stream))
    (hstream : WellChosen ownOnly s₀.sfuConfig.netLimit announced needed stream) :
    Installs ownOnly s₀ c announced needed s' where
  config := hconfig.trans h.config
  others c' hc' := by rw [htransceiver, Function.update_of_ne hc', h.others c' hc']
  candidates := by rw [htransceiver, Function.update_self]; exact h.candidates
  streams := by
    obtain ⟨new, hnew, hall⟩ := h.streams
    refine ⟨new ++ [stream], ?_, fun stream' hstream' => ?_⟩
    · rw [htransceiver, Function.update_self, ← List.append_assoc, ← hnew]
      rfl
    · rcases List.mem_append.mp hstream' with hmem | hmem
      · exact hall stream' hmem
      · rwa [List.mem_singleton.mp hmem]

abbrev Serves (ownOnly : Bool) (onNewStream : OnNewStream τ ω) (s₀ : Session) (c : Connection)
    (announced : List ICECandidate) (needed : List MediaDescription) {α : Type} (m : SessionEff τ ω α) : Prop :=
  Eff.Triple (fun s : Session × τ => Installs ownOnly s₀ c announced needed s.1) m
    (fun _ s => Installs ownOnly s₀ c announced needed s.1)
    fun e s => Installs ownOnly s₀ c announced needed s.1 ∧ FailsRightly ownOnly onNewStream s₀ announced needed e

theorem notify_serves (id : Nat) (stream : Stream) :
    Serves ownOnly onNewStream s₀ c announced needed (notify onNewStream id stream) := by
  have hkeeps : Eff.Keeps (fun s : Session × τ => Installs ownOnly s₀ c announced needed s.1)
      (notify onNewStream id stream) := notify_keeps
  intro s hs
  have hstate := hkeeps s hs
  cases hres : (notify onNewStream id stream s).result with
  | ok u => exact hstate
  | error e =>
      refine ⟨hstate, fun hlacks => .inl ?_⟩
      unfold notify at hres
      rw [Eff.get_bind_run] at hres
      cases hf : onNewStream with
      | none =>
          rw [hf] at hres
          obtain rfl := Except.error.inj hres
          rcases hlacks with h | h <;> exact absurd h (by decide)
      | some f =>
          rw [hf] at hres
          exact ⟨f, rfl, s.1, id, stream, s.2, hres⟩

/-! ### Offers -/

/-- A stream that was sent before is still sent. -/
theorem Installs.sends {mid : String} (h : Installs ownOnly s₀ (.sender fromId) announced needed s)
    (hsent : (s₀.participant fromId).sendsStreamWithMid mid = true) :
    (s.participant fromId).sendsStreamWithMid mid = true := by
  obtain ⟨new, hnew, -⟩ := h.streams
  show ((s.transceiver (.sender fromId)).streams.any fun s => s.HasMid mid) = true
  rw [hnew, List.any_append, Bool.or_eq_true]
  exact .inl hsent

/-- A section of an offer for which a stream is made. -/
def IsNew (s₀ : Session) (fromId : Nat) (media : MediaDescription) : Prop :=
  media.direction = some .sendonly ∧ ∀ mid ∈ media.mid, ¬ (s₀.participant fromId).sendsStreamWithMid mid = true

instance (s₀ : Session) (fromId : Nat) (media : MediaDescription) : Decidable (IsNew s₀ fromId media) :=
  inferInstanceAs (Decidable (_ ∧ _))

theorem sectionStream_serves {t : Transceiver} (h : Installs ownOnly s₀ c announced needed s)
    (hclear : ∀ media ∈ needed, Choosable ownOnly s₀.sfuConfig.netLimit announced media) (hmedia : media ∈ needed)
    (ht : t = s.transceiver c) : (sectionStream t media s.sfuConfig ssrcs).Ensures
      (WellChosen ownOnly s₀.sfuConfig.netLimit announced needed)
      (FailsRightly ownOnly onNewStream s₀ announced needed) := by
  rw [h.config]
  have hsame : SameFirst t.iceCandidates announced := by
    rw [ht]
    exact h.candidates
  apply (sectionStream_chosen hsame (hclear media hmedia)).mono
  · intro stream hstream
    exact ⟨media, hmedia, hstream⟩
  · intro e he hlacks
    exact .inr ⟨media, hmedia, he hlacks⟩

theorem addOfferMedia_serves (hneeded : IsNew s₀ fromId media → media ∈ needed)
    (hclear : ∀ media ∈ needed, Choosable ownOnly s₀.sfuConfig.netLimit announced media) :
    Serves ownOnly onNewStream s₀ (.sender fromId) announced needed (addOfferMedia onNewStream fromId media) := by
  intro s hs
  by_cases hdir : media.direction = some .sendonly
  · cases hmid : media.mid with
    | none =>
        rw [addOfferMedia_of_no_mid hdir hmid]
        exact ⟨hs, fun h => absurd h (not_lacksCandidates_undefined (.inl rfl))⟩
    | some mid =>
        by_cases hsent : (s.1.participant fromId).sendsStreamWithMid mid = true
        · rw [addOfferMedia_of_sent hdir hmid hsent]
          exact hs
        · have hmedia : media ∈ needed := by
            refine hneeded ⟨hdir, fun mid' hmid' hsent' => ?_⟩
            obtain rfl := Option.some.inj (hmid.symm.trans hmid')
            exact hsent (hs.sends hsent')
          have hchosen : (s.1.newSendStream fromId media).Ensures
              (WellChosen ownOnly s₀.sfuConfig.netLimit announced needed)
              (FailsRightly ownOnly onNewStream s₀ announced needed) :=
            sectionStream_serves hs hclear hmedia rfl
          cases hnew : s.1.newSendStream fromId media with
          | error e =>
              rw [addOfferMedia_of_error hdir hmid hsent hnew]
              exact ⟨hs, hchosen.of_error hnew⟩
          | ok stream =>
              rw [addOfferMedia_of_new hdir hmid hsent hnew]
              apply notify_serves fromId stream
              exact hs.addStream rfl (transceiver_update_sender (g := fun t => t.addStream stream))
                (hchosen.of_ok hnew)
  · rw [addOfferMedia_of_direction hdir]
    exact hs

theorem addOfferMedias_serves (hclear : ∀ media ∈ needed, Choosable ownOnly s₀.sfuConfig.netLimit announced media) :
    ∀ {medias : List MediaDescription}, (∀ media ∈ medias, IsNew s₀ fromId media → media ∈ needed) →
      Serves ownOnly onNewStream s₀ (.sender fromId) announced needed (addOfferMedias onNewStream fromId medias)
  | [], _ => Eff.triple_pure fun _ h => h
  | media :: _, hneeded =>
      (addOfferMedia_serves (hneeded media List.mem_cons_self) hclear).bind fun _ =>
        addOfferMedias_serves hclear fun media' hmem => hneeded media' (List.mem_cons_of_mem _ hmem)

/-! ### Answers -/

theorem transceiver_touchReceiver (s : Session) (offerId fromId : Nat) :
    (s.touchReceiver offerId fromId).transceiver = s.transceiver := by
  unfold touchReceiver
  rw [transceiver_updateReceiver, Function.update_eq_self]

theorem sendSSRCs_error {mid : String} {e : Fault} (h : s.sendSSRCs initKey mid = .error e) : ¬ LacksCandidates e := by
  unfold sendSSRCs Participant.sendStreamWithMid at h
  rcases Except.of_bind_error h with h | ⟨stream, -, h⟩
  · split at h
    · exact nomatch h
    · obtain rfl := Except.error.inj h
      exact fun h => absurd h (by decide)
  · unfold Stream.deref at h
    split at h
    · exact nomatch h
    · obtain rfl := Except.error.inj h
      exact not_lacksCandidates_undefined (.inl rfl)

theorem addAnswerMedia_serves (hmedia : media ∈ needed)
    (hclear : ∀ media ∈ needed, Choosable ownOnly s₀.sfuConfig.netLimit announced media) :
    Serves ownOnly onNewStream s₀ (.receiver fromId offerId) announced needed
      (addAnswerMedia onNewStream initKey offerId fromId media) := by
  intro s hs
  have htouched : Installs ownOnly s₀ (.receiver fromId offerId) announced needed (s.1.touchReceiver offerId fromId) :=
    hs.congr rfl (transceiver_touchReceiver s.1 offerId fromId)
  cases hmid : media.mid with
  | none =>
      rw [addAnswerMedia_of_no_mid hmid]
      refine ⟨hs, fun h => absurd h ?_⟩
      exact fun h => absurd h (by decide)
  | some mid =>
      cases hssrcs : s.1.sendSSRCs initKey mid with
      | error e =>
          rw [addAnswerMedia_of_unknown hmid hssrcs]
          exact ⟨hs, fun h => absurd h (sendSSRCs_error hssrcs)⟩
      | ok ssrcs =>
          have hchosen : (s.1.newReceiveStream offerId fromId media ssrcs).Ensures
              (WellChosen ownOnly s₀.sfuConfig.netLimit announced needed)
              (FailsRightly ownOnly onNewStream s₀ announced needed) :=
            sectionStream_serves hs hclear hmedia rfl
          cases hnew : s.1.newReceiveStream offerId fromId media ssrcs with
          | error e =>
              rw [addAnswerMedia_of_error hmid hssrcs hnew]
              exact ⟨htouched, hchosen.of_error hnew⟩
          | ok stream =>
              by_cases hreceived : ((s.1.participant fromId).receiver offerId).hasStreamWithMid mid = true
              · rw [addAnswerMedia_of_received hmid hssrcs hnew hreceived]
                exact htouched
              · rw [addAnswerMedia_of_new hmid hssrcs hnew hreceived]
                apply notify_serves fromId stream
                exact htouched.addStream rfl (transceiver_updateReceiver (g := fun r => r.addStream stream))
                  (hchosen.of_ok hnew)

theorem addAnswerMedias_serves (hclear : ∀ media ∈ needed, Choosable ownOnly s₀.sfuConfig.netLimit announced media) :
    ∀ {medias : List MediaDescription}, (∀ media ∈ medias, media ∈ needed) →
      Serves ownOnly onNewStream s₀ (.receiver fromId offerId) announced needed
        (addAnswerMedias onNewStream initKey offerId fromId medias)
  | [], _ => Eff.triple_pure fun _ h => h
  | media :: _, hneeded =>
      (addAnswerMedia_serves (hneeded media List.mem_cons_self) hclear).bind fun _ =>
        addAnswerMedias_serves hclear fun media' hmem => hneeded media' (List.mem_cons_of_mem _ hmem)

/-! ### Calls that are not refused -/

theorem addOffer_serves {s₀ : Session × τ} {offer : SessionDescription} {before : List ICECandidate}
    (hexists : s₀.1.participantExists fromId = true) (hactive : ¬ s₀.1.signalingActive = true)
    (hsame : SameFirst (s₀.1.transceiver (.sender fromId)).iceCandidates before)
    (hclear : ∀ media ∈ offer.mediaDescriptions, IsNew s₀.1 fromId media → Choosable ownOnly s₀.1.sfuConfig.netLimit
      (before ++ Transceiver.descriptionCandidates offer) media) :
    Eff.Triple (· = s₀) (addOffer onNewStream fromId offer)
      (fun _ s => Installs ownOnly s₀.1 (.sender fromId) (before ++ Transceiver.descriptionCandidates offer)
        (offer.mediaDescriptions.filter (IsNew s₀.1 fromId)) s.1)
      fun e s => Installs ownOnly s₀.1 (.sender fromId) (before ++ Transceiver.descriptionCandidates offer)
        (offer.mediaDescriptions.filter (IsNew s₀.1 fromId)) s.1 ∧
        FailsRightly ownOnly onNewStream s₀.1 (before ++ Transceiver.descriptionCandidates offer)
          (offer.mediaDescriptions.filter (IsNew s₀.1 fromId)) e := by
  let needed := offer.mediaDescriptions.filter (IsNew s₀.1 fromId)
  let announced := before ++ Transceiver.descriptionCandidates offer
  have hneeded : ∀ media ∈ needed, Choosable ownOnly s₀.1.sfuConfig.netLimit announced media := by
    intro media hmem
    obtain ⟨hmedia, hnew⟩ := List.mem_filter.mp hmem
    exact hclear media hmedia (of_decide_eq_true hnew)
  unfold addOffer
  apply Eff.triple_get_bind
  rintro s rfl
  rw [Eff.require_pos hexists, Eff.pure_bind, Eff.require_pos hactive, Eff.pure_bind]
  apply Eff.Triple.bind (R := fun _ s' => Installs ownOnly s.1 (.sender fromId) announced needed s'.1)
  · apply Eff.triple_modify
    rintro s' rfl
    have htransceiver := @transceiver_update_sender s'.1 fromId fun t => t.updateICECandidates offer
    refine ⟨rfl, fun c' hc' => ?_, ?_, [], ?_, fun _ h => absurd h List.not_mem_nil⟩
    · rw [htransceiver, Function.update_of_ne hc']
    · rw [htransceiver, Function.update_self]
      exact hsame.updateICECandidates offer
    · rw [htransceiver, Function.update_self, Transceiver.updateICECandidates_streams, List.append_nil]
  · intro _
    apply Eff.Triple.bind (addOfferMedias_serves hneeded fun media hmem hnew =>
      List.mem_filter.mpr ⟨hmem, decide_eq_true hnew⟩)
    intro _
    apply Eff.triple_modify
    intro s' hs'
    exact hs'.congr rfl (transceiver_update rfl)

theorem addAnswer_serves {s₀ : Session × τ} {answer : SessionDescription} {before : List ICECandidate}
    (hinit : s₀.1.participantInState .gotOffer = .ok initKey) (hoffer : (s₀.1.participant initKey).id = offerId)
    (hawait : (s₀.1.participant fromId).signalingState = .awaitAnswer)
    (hsame : SameFirst (s₀.1.transceiver (.receiver fromId offerId)).iceCandidates before)
    (hclear : ∀ media ∈ answer.mediaDescriptions, Choosable ownOnly s₀.1.sfuConfig.netLimit
      (before ++ Transceiver.descriptionCandidates answer) media) :
    Eff.Triple (· = s₀) (addAnswer onNewStream fromId answer)
      (fun _ s => Installs ownOnly s₀.1 (.receiver fromId offerId) (before ++ Transceiver.descriptionCandidates answer)
        answer.mediaDescriptions s.1)
      fun e s => Installs ownOnly s₀.1 (.receiver fromId offerId) (before ++ Transceiver.descriptionCandidates answer)
        answer.mediaDescriptions s.1 ∧
        FailsRightly ownOnly onNewStream s₀.1 (before ++ Transceiver.descriptionCandidates answer)
          answer.mediaDescriptions e := by
  let touched (s : Session) : Session := (s.update initKey fun p => p).update fromId fun p => p
  have htouched (s : Session) : (touched s).transceiver = s.transceiver :=
    (transceiver_update rfl).trans (transceiver_update rfl)
  have hparticipant (s : Session) (k : Nat) : (touched s).participant k = s.participant k :=
    (participant_touch _ fromId k).trans (participant_touch s initKey k)
  unfold addAnswer
  apply Eff.triple_get_bind
  rintro s rfl
  rw [hinit, Eff.ofExcept_ok_bind]
  apply Eff.Triple.bind (R := fun _ s' => s' = (touched s.1, s.2))
  · apply Eff.triple_modify
    rintro s' rfl
    rfl
  · intro _
    apply Eff.triple_get_bind
    rintro s' rfl
    rw [hparticipant, hparticipant, Eff.require_pos hawait, Eff.pure_bind, hoffer]
    apply Eff.Triple.bind (R := fun _ s' => Installs ownOnly s.1 (.receiver fromId offerId)
      (before ++ Transceiver.descriptionCandidates answer) answer.mediaDescriptions s'.1)
    · apply Eff.triple_modify
      rintro s' rfl
      have htransceiver := transceiver_addAnswerCandidates (touched s.1) fromId offerId answer
      rw [htouched] at htransceiver
      refine ⟨rfl, fun c' hc' => ?_, ?_, [], ?_, fun _ h => absurd h List.not_mem_nil⟩
      · rw [htransceiver, Function.update_of_ne hc']
      · rw [htransceiver, Function.update_self]
        exact hsame.append (Transceiver.descriptionCandidates answer)
      · rw [htransceiver, Function.update_self, List.append_nil]
    · intro _
      apply Eff.Triple.bind (addAnswerMedias_serves hclear fun _ hmem => hmem)
      intro _
      apply Eff.triple_modify
      intro s' hs'
      exact hs'.congr rfl (transceiver_update rfl)

/-! ### Calls that are refused -/

/-- A call that fails without having changed any connection, and not for lack of candidates. -/
def Refused (s : Session × τ) (m : SessionEff τ ω Unit) : Prop :=
  ∃ s' e, m s = ⟨s', [], .error e⟩ ∧ s'.1.transceiver = s.1.transceiver ∧ ¬ LacksCandidates e

theorem addOffer_refused {s : Session × τ} (offer : SessionDescription)
    (h : ¬ (s.1.participantExists fromId = true ∧ ¬ s.1.signalingActive = true)) :
    Refused s (addOffer onNewStream fromId offer) := by
  unfold Refused addOffer
  rw [Eff.get_bind_run]
  by_cases hexists : s.1.participantExists fromId = true
  · have hactive : ¬ ¬ s.1.signalingActive = true := fun hactive => h ⟨hexists, hactive⟩
    rw [Eff.require_pos hexists, Eff.pure_bind, Eff.require_neg hactive]
    refine ⟨_, _, rfl, rfl, ?_⟩
    exact fun h => absurd h (by decide)
  · rw [Eff.require_neg hexists]
    refine ⟨_, _, rfl, rfl, ?_⟩
    exact fun h => absurd h (by decide)

theorem participantInState_error {state : SignalingState} {e : Fault} (h : s.participantInState state = .error e) :
    ¬ LacksCandidates e := by
  unfold participantInState at h
  split at h
  · exact nomatch h
  · obtain rfl := Except.error.inj h
    exact fun h => absurd h (by decide)
  · obtain rfl := Except.error.inj h
    exact fun h => absurd h (by decide)

theorem addAnswer_without_offer {s : Session × τ} {e : Fault} (answer : SessionDescription)
    (hinit : s.1.participantInState .gotOffer = .error e) : Refused s (addAnswer onNewStream fromId answer) := by
  unfold Refused addAnswer
  rw [Eff.get_bind_run, hinit]
  exact ⟨_, _, rfl, rfl, participantInState_error hinit⟩

theorem addAnswer_unexpected {s : Session × τ} (answer : SessionDescription)
    (hinit : s.1.participantInState .gotOffer = .ok initKey)
    (hawait : ¬ (s.1.participant fromId).signalingState = .awaitAnswer) :
    Refused s (addAnswer onNewStream fromId answer) := by
  let touched (s : Session) : Session := (s.update initKey fun p => p).update fromId fun p => p
  have htouched : (touched s.1).transceiver = s.1.transceiver :=
    (transceiver_update rfl).trans (transceiver_update rfl)
  have hparticipant : (touched s.1).participant fromId = s.1.participant fromId :=
    (participant_touch _ fromId fromId).trans (participant_touch s.1 initKey fromId)
  have hawait' : ¬ ((touched s.1).participant fromId).signalingState = .awaitAnswer := by rwa [hparticipant]
  have hrun : addAnswer onNewStream fromId answer s =
      ⟨(touched s.1, s.2), [], .error (.logicError "Session: addAnswer: unexpected answer")⟩ := by
    unfold addAnswer modify
    rw [Eff.get_bind_run, hinit, Eff.ofExcept_ok_bind, Eff.modify_bind_run, Eff.get_bind_run]
    exact congrFun (congrArg (· >>= _) (Eff.require_neg hawait' _)) _
  refine ⟨_, _, hrun, htouched, ?_⟩
  exact fun h => absurd h (by decide)

end Calls

/-! ## Runs -/

/-- What was announced on each connection, in order. -/
abbrev Announcements := Connection → List ICECandidate

def recorded (s : Session) : Announcements := fun c => (s.transceiver c).iceCandidates

namespace Op

/-- The connection that a call is about, if it is not refused. -/
def connection (s : Session) : Op → Option Connection
  | .addOffer fromId _ =>
      if s.participantExists fromId = true ∧ ¬ s.signalingActive = true then some (.sender fromId) else none
  | .addAnswer fromId _ =>
      match s.participantInState .gotOffer with
      | .ok initKey =>
          if (s.participant fromId).signalingState = .awaitAnswer
          then some (.receiver fromId (s.participant initKey).id) else none
      | .error _ => none
  | _ => none

def candidates : Op → List ICECandidate
  | .addOffer _ sdp => Transceiver.descriptionCandidates sdp
  | .addAnswer _ sdp => Transceiver.descriptionCandidates sdp
  | _ => []

/-- The sections of a call of which a stream is made. -/
def needed (s : Session) : Op → List MediaDescription
  | .addOffer fromId offer => offer.mediaDescriptions.filter (IsNew s fromId)
  | .addAnswer _ answer => answer.mediaDescriptions
  | _ => []

/-- What is announced after an operation. A participant that leaves takes its connections along. -/
def announce (s : Session) (op : Op) (announced : Announcements) : Announcements :=
  match op.connection s, op with
  | some c, _ => Function.update announced c (announced c ++ op.candidates)
  | none, .removeParticipant id => fun c => if c.owner = id then [] else announced c
  | none, _ => announced

end Op

section Runs
variable {τ ω : Type} (ownOnly : Bool) (onNewStream : OnNewStream τ ω)

def watched (st : (Session × τ) × Announcements) (op : Op) :
    ((Session × τ) × Announcements) × (List ω × Except Fault Unit) :=
  (((step onNewStream st.1 op).1, op.announce st.1.1 st.2), (step onNewStream st.1 op).2)

/-- For every section of a call it is clear which candidate to use. -/
def Op.Clear (st : (Session × τ) × Announcements) (op : Op) : Prop :=
  ∀ c, op.connection st.1.1 = some c → ∀ media ∈ op.needed st.1.1,
    Choosable ownOnly st.1.1.sfuConfig.netLimit (op.announce st.1.1 st.2 c) media

/-- A call installs streams with the address of a best candidate, each of a section and on its connection; and it fails
for lack of candidates only for a section that may use none. -/
structure Op.ChoosesBest (st : (Session × τ) × Announcements) (op : Op) : Prop where
  installed : ∀ c, ∃ new, ((step onNewStream st.1 op).1.1.transceiver c).streams =
      (st.1.1.transceiver c).streams ++ new ∧
    ∀ stream ∈ new, op.connection st.1.1 = some c ∧
      WellChosen ownOnly st.1.1.sfuConfig.netLimit (op.announce st.1.1 st.2 c) (op.needed st.1.1) stream
  lacking : ∀ e, (step onNewStream st.1 op).2.2 = .error e → LacksCandidates e →
    CallbackFails onNewStream e ∨ ∃ c, op.connection st.1.1 = some c ∧
      ∃ media ∈ op.needed st.1.1, permitted ownOnly st.1.1.sfuConfig.netLimit (op.announce st.1.1 st.2 c) media = []

/-- `addOffer` or `addAnswer`. -/
def Op.IsCall : Op → Prop
  | .addOffer _ _ => True
  | .addAnswer _ _ => True
  | _ => False

/-- Every list of candidates begins as what was announced. -/
def SameFirsts (st : (Session × τ) × Announcements) : Prop := ∀ c, SameFirst (st.1.1.recorded c) (st.2 c)

section Steps
variable {ownOnly} {onNewStream} {st : (Session × τ) × Announcements} {op : Op}

theorem Op.announce_self {s : Session} {announced : Announcements} {c : Connection} (hc : op.connection s = some c) :
    op.announce s announced c = announced c ++ op.candidates := by
  unfold Op.announce
  rw [hc]
  exact Function.update_self ..

theorem Op.announce_of_ne {s : Session} {announced : Announcements} {c c' : Connection}
    (hc : op.connection s = some c) (hne : c' ≠ c) : op.announce s announced c' = announced c' := by
  unfold Op.announce
  rw [hc]
  exact Function.update_of_ne hne ..

theorem choosesBest_of_serves {c : Connection} (hsame : SameFirsts st) (hc : op.connection st.1.1 = some c)
    (h : Eff.Triple (· = st.1) (op.run onNewStream)
      (fun _ s => Installs ownOnly st.1.1 c (op.announce st.1.1 st.2 c) (op.needed st.1.1) s.1)
      fun e s => Installs ownOnly st.1.1 c (op.announce st.1.1 st.2 c) (op.needed st.1.1) s.1 ∧
        FailsRightly ownOnly onNewStream st.1.1 (op.announce st.1.1 st.2 c) (op.needed st.1.1) e) :
    op.ChoosesBest ownOnly onNewStream st ∧ SameFirsts (watched onNewStream st op).1 := by
  have hinstalls : Installs ownOnly st.1.1 c (op.announce st.1.1 st.2 c) (op.needed st.1.1)
      (step onNewStream st.1 op).1.1 := (h.mono (fun _ h => h) (fun _ _ h => h) fun _ _ h => h.1).ends rfl
  refine ⟨⟨fun c' => ?_, fun e he hlacks => ?_⟩, fun c' => ?_⟩
  · by_cases heq : c' = c
    · obtain ⟨new, hnew, hall⟩ := hinstalls.streams
      rw [heq]
      exact ⟨new, hnew, fun stream hstream => ⟨hc, hall stream hstream⟩⟩
    · refine ⟨[], ?_, fun _ h => absurd h List.not_mem_nil⟩
      rw [hinstalls.others c' heq, List.append_nil]
  · exact ((h.throws rfl he).2 hlacks).imp_right fun hmedia => ⟨c, hc, hmedia⟩
  · by_cases heq : c' = c
    · rw [heq]
      exact hinstalls.candidates
    · show SameFirst ((step onNewStream st.1 op).1.1.transceiver c').iceCandidates (op.announce st.1.1 st.2 c')
      rw [hinstalls.others c' heq, Op.announce_of_ne hc heq]
      exact hsame c'

theorem choosesBest_of_refused (hsame : SameFirsts st) (hcall : op.IsCall) (hc : op.connection st.1.1 = none)
    (h : Refused st.1 (op.run onNewStream)) :
    op.ChoosesBest ownOnly onNewStream st ∧ SameFirsts (watched onNewStream st op).1 := by
  obtain ⟨s', e, hrun, htransceiver, hlacks⟩ := h
  have hstep : step onNewStream st.1 op = (s', ([], .error e)) := by
    unfold step
    rw [hrun]
  have hannounce : op.announce st.1.1 st.2 = st.2 := by
    unfold Op.announce
    rw [hc]
    cases op with
    | addOffer fromId offer => rfl
    | addAnswer fromId answer => rfl
    | addParticipant ip port => exact hcall.elim
    | removeParticipant id => exact hcall.elim
    | getOffer forId => exact hcall.elim
    | getAnswer forId => exact hcall.elim
  refine ⟨⟨fun c => ⟨[], ?_, fun _ h => absurd h List.not_mem_nil⟩, fun e' he' hlacks' => ?_⟩, fun c => ?_⟩
  · rw [hstep, htransceiver, List.append_nil]
  · rw [hstep] at he'
    obtain rfl := Except.error.inj he'
    exact absurd hlacks' hlacks
  · show SameFirst ((step onNewStream st.1 op).1.1.transceiver c).iceCandidates (op.announce st.1.1 st.2 c)
    rw [hstep, htransceiver, hannounce]
    exact hsame c

theorem addOffer_choosesBest (fromId : Nat) (offer : SessionDescription) (hsame : SameFirsts st)
    (hclear : Op.Clear ownOnly st (.addOffer fromId offer)) :
    (Op.addOffer fromId offer).ChoosesBest ownOnly onNewStream st ∧
      SameFirsts (watched onNewStream st (.addOffer fromId offer)).1 := by
  by_cases h : st.1.1.participantExists fromId = true ∧ ¬ st.1.1.signalingActive = true
  · have hc : (Op.addOffer fromId offer).connection st.1.1 = some (.sender fromId) := if_pos h
    apply choosesBest_of_serves hsame hc
    have hmedia := hclear _ hc
    rw [Op.announce_self hc] at hmedia ⊢
    apply addOffer_serves h.1 h.2 (hsame _)
    intro media hmem hnew
    exact hmedia media (List.mem_filter.mpr ⟨hmem, decide_eq_true hnew⟩)
  · exact choosesBest_of_refused hsame trivial (if_neg h) (addOffer_refused offer h)

theorem addAnswer_choosesBest (fromId : Nat) (answer : SessionDescription) (hsame : SameFirsts st)
    (hclear : Op.Clear ownOnly st (.addAnswer fromId answer)) :
    (Op.addAnswer fromId answer).ChoosesBest ownOnly onNewStream st ∧
      SameFirsts (watched onNewStream st (.addAnswer fromId answer)).1 := by
  have hconnection : (Op.addAnswer fromId answer).connection st.1.1 =
      match st.1.1.participantInState .gotOffer with
      | .ok initKey =>
          if (st.1.1.participant fromId).signalingState = .awaitAnswer
          then some (.receiver fromId (st.1.1.participant initKey).id) else none
      | .error _ => none := rfl
  cases hinit : st.1.1.participantInState .gotOffer with
  | error e =>
      rw [hinit] at hconnection
      exact choosesBest_of_refused hsame trivial hconnection (addAnswer_without_offer answer hinit)
  | ok initKey =>
      rw [hinit] at hconnection
      by_cases hawait : (st.1.1.participant fromId).signalingState = .awaitAnswer
      · have hc := hconnection.trans (if_pos hawait)
        apply choosesBest_of_serves hsame hc
        have hmedia := hclear _ hc
        rw [Op.announce_self hc] at hmedia ⊢
        exact addAnswer_serves hinit rfl hawait (hsame _) hmedia
      · exact choosesBest_of_refused hsame trivial (hconnection.trans (if_neg hawait))
          (addAnswer_unexpected answer hinit hawait)

/-! ### Other operations -/

theorem addParticipant_transceiver (ip : String) (port : UInt16) (s : Session × τ) :
    (addParticipant ip port s : Outcome _ ω _ _).state.1.transceiver = s.1.transceiver := by
  let T := s.1.transceiver
  have htriple : Eff.Triple (· = s) (addParticipant ip port : SessionEff τ ω Nat)
      (fun _ s' => s'.1.transceiver = T) fun _ s' => s'.1.transceiver = T := by
    unfold addParticipant
    apply Eff.triple_get_bind
    rintro s₀ rfl
    refine Eff.triple_require_bind (fun _ => ?_) fun s' _ hs' => by rw [hs']
    let id := (s₀.1.nextParticipantId + 1) % 2 ^ 32
    apply Eff.Triple.bind (R := fun _ s' => s' = (({ s₀.1 with nextParticipantId := id } : Session), s₀.2))
    · apply Eff.triple_modify
      rintro s' rfl
      rfl
    · intro _
      refine Eff.triple_require_bind (fun hnew => ?_) fun s' _ hs' => by rw [hs']; rfl
      apply Eff.Triple.bind (R := fun _ s' => s'.1.transceiver = T)
      · apply Eff.triple_modify
        rintro s' rfl
        let s₁ : Session := { s₀.1 with nextParticipantId := id }
        let p : Participant := { id, controlIp := ip, controlPort := port }
        show (s₁.update id fun _ => p).transceiver = T
        rw [transceiver_update]
        · rfl
        · have hnone : s₁.participant id = {} := participant_of_not_exists hnew
          rw [hnone]
          rfl
      · exact fun _ => Eff.triple_pure fun _ h => h
  exact htriple.ends rfl

theorem getOffer_transceiver (forId : Nat) (s : Session × τ) :
    (getOffer forId s : Outcome _ ω _ _).state.1.transceiver = s.1.transceiver := by
  by_cases hexists : s.1.participantExists forId = true
  · rw [(getOffer_sets hexists).ends rfl]
    exact transceiver_update rfl
  · rw [getOffer_unknown hexists]

theorem getAnswer_transceiver (forId : Nat) (s : Session × τ) :
    (getAnswer forId s : Outcome _ ω _ _).state.1.transceiver = s.1.transceiver := by
  by_cases hstate : s.1.roles forId = some .gotOffer
  · have htriple : Eff.Triple (· = s) (getAnswer forId : SessionEff τ ω _)
        (fun _ s' => s'.1.transceiver = s.1.transceiver) fun _ s' => s'.1.transceiver = s.1.transceiver := by
      apply (getAnswer_sets hstate).mono (fun _ h => h)
      · rintro - s' rfl
        exact transceiver_update rfl
      · rintro e s' ⟨rfl, -⟩
        rfl
    exact htriple.ends rfl
  · rw [(getAnswer_refused hstate).1]

theorem sameFirsts_of_transceiver (hsame : SameFirsts st) (hannounce : op.announce st.1.1 st.2 = st.2)
    (h : (step onNewStream st.1 op).1.1.transceiver = st.1.1.transceiver) :
    SameFirsts (watched onNewStream st op).1 := by
  intro c
  show SameFirst ((step onNewStream st.1 op).1.1.transceiver c).iceCandidates (op.announce st.1.1 st.2 c)
  rw [h, hannounce]
  exact hsame c

theorem removeParticipant_sameFirsts (id : Nat) (hsame : SameFirsts st) :
    SameFirsts (watched onNewStream st (.removeParticipant id)).1 := by
  intro c
  show SameFirst ((removeParticipant id st.1 : Outcome _ ω _ _).state.1.transceiver c).iceCandidates
    (if c.owner = id then [] else st.2 c)
  by_cases hexists : st.1.1.participantExists id = true
  · rw [removeParticipant_run hexists]
    by_cases hc : c.owner = id
    · rw [if_pos hc, transceiver_erase_of_owner hc]
      rfl
    · rw [if_neg hc, transceiver_erase_of_ne hc]
      exact hsame c
  · have hstate : (removeParticipant id st.1 : Outcome _ ω _ _).state = st.1 := by
      unfold removeParticipant
      rw [Eff.get_bind_run, Eff.require_neg hexists]
      rfl
    rw [hstate]
    by_cases hc : c.owner = id
    · have hnone := participant_of_not_exists hexists
      rw [if_pos hc]
      unfold transceiver
      rw [hc, hnone]
      cases c with
      | sender k => rfl
      | receiver k j => rfl
    · rw [if_neg hc]
      exact hsame c

theorem watched_choosesBest (hsame : SameFirsts st) (hclear : op.Clear ownOnly st) :
    (op.IsCall → op.ChoosesBest ownOnly onNewStream st) ∧ SameFirsts (watched onNewStream st op).1 := by
  cases op with
  | addParticipant ip port =>
      refine ⟨fun h => h.elim, sameFirsts_of_transceiver hsame rfl ?_⟩
      show ((addParticipant ip port >>= fun _ => pure ()) st.1 : Outcome _ ω _ _).state.1.transceiver = _
      rw [Eff.state_bind_pure]
      exact addParticipant_transceiver ip port st.1
  | removeParticipant id => exact ⟨fun h => h.elim, removeParticipant_sameFirsts id hsame⟩
  | addOffer fromId offer =>
      exact (addOffer_choosesBest fromId offer hsame hclear).imp_left fun h _ => h
  | getOffer forId =>
      refine ⟨fun h => h.elim, sameFirsts_of_transceiver hsame rfl ?_⟩
      show ((getOffer forId >>= fun _ => pure ()) st.1 : Outcome _ ω _ _).state.1.transceiver = _
      rw [Eff.state_bind_pure]
      exact getOffer_transceiver forId st.1
  | addAnswer fromId answer =>
      exact (addAnswer_choosesBest fromId answer hsame hclear).imp_left fun h _ => h
  | getAnswer forId =>
      refine ⟨fun h => h.elim, sameFirsts_of_transceiver hsame rfl ?_⟩
      show ((getAnswer forId >>= fun _ => pure ()) st.1 : Outcome _ ω _ _).state.1.transceiver = _
      rw [Eff.state_bind_pure]
      exact getAnswer_transceiver forId st.1

end Steps

/-- In every run in which it is clear for every section which candidate to use, every call chooses a best one. -/
theorem run_choosesBest (s : Session × τ) (ops : List Op)
    (h : Along (fun st op => op.Clear ownOnly st) (watched onNewStream) (s, s.1.recorded) ops) :
    Along (fun st op => op.IsCall → op.ChoosesBest ownOnly onNewStream st) (watched onNewStream)
      (s, s.1.recorded) ops := by
  have hstart : SameFirsts (s, s.1.recorded) := fun _ => rfl
  have hstep (st : (Session × τ) × Announcements) (op : Op) (hsame : SameFirsts st) (hclear : op.Clear ownOnly st) :
      (op.IsCall → op.ChoosesBest ownOnly onNewStream st) ∧ SameFirsts (watched onNewStream st op).1 :=
    watched_choosesBest hsame hclear
  have hsame : Always SameFirsts (watched onNewStream) (s, s.1.recorded) ops :=
    Along.always (fun st op hsame hclear => (hstep st op hsame hclear).2) h hstart
  exact Along.imp (fun st op hsame hclear => (hstep st op hsame hclear).1) h hsame

end Runs

/-! ### A run in which another candidate is used -/

def lowCandidate : ICECandidate :=
  { foundation := "1", componentId := 1, protocol := "udp", priority := 1, address := "10.0.0.2", port := 50002
    type := "host" }

def highCandidate : ICECandidate := { lowCandidate with priority := 2, address := "10.0.0.3", port := 50003 }

def sendSection (mid : String) (candidates : List ICECandidate) : MediaDescription :=
  { videoSection mid with direction := some .sendonly, iceCandidates := candidates }

/-- A section with two candidates, the better one last, and one without. -/
def bundledOffer : SessionDescription :=
  { mediaDescriptions := [sendSection "0" [lowCandidate, highCandidate], sendSection "1" []] }

def silentCallback : OnNewStream Unit Unit := some fun _ _ _ => pure ()

def emptySession : Session × Unit :=
  ({ id := 0, sfuConfig := SFUConfig.of "10.0.0.1" 3202 "7Ad/" "UKZe" ⟨0, 0⟩ }, ())

def bundledOps (offer : SessionDescription) : List Op := [.addParticipant "10.0.0.9" 5000, .addOffer 1 offer]

def withParticipant : (Session × Unit) × Announcements :=
  (watched silentCallback (emptySession, emptySession.1.recorded) (.addParticipant "10.0.0.9" 5000)).1

/-- The second stream gets the candidate that came first. -/
theorem bundledOffer_streams : (withParticipant.1.1.transceiver (.sender 1)).streams = [] ∧
    (Op.addOffer 1 bundledOffer).connection withParticipant.1.1 = some (.sender 1) ∧
    withParticipant.2 (.sender 1) = [] ∧
    ((step silentCallback withParticipant.1 (.addOffer 1 bundledOffer)).1.1.transceiver (.sender 1)).streams.map
      (fun s => (s.description.mid, s.config.addr)) =
        [(some "0", ⟨0x0a000003, 50003⟩), (some "1", ⟨0x0a000002, 50002⟩)] := by
  decide +kernel

theorem highCandidate_ip : IPv4.ofString highCandidate.address = .ok 0x0a000003 := IPv4.ofString_str 0x0a000003

theorem highCandidate_inSubnet : highCandidate.inSubnet ⟨0, 0⟩ = true := by
  unfold ICECandidate.inSubnet
  rw [highCandidate_ip]
  rfl

theorem highCandidate_endpoint : highCandidate.endpoint? = some ⟨0x0a000003, 50003⟩ := by
  unfold ICECandidate.endpoint?
  rw [highCandidate_ip]
  rfl

theorem bundledOffer_not_choosesBest (ownOnly : Bool) :
    ¬ (Op.addOffer 1 bundledOffer).ChoosesBest ownOnly silentCallback withParticipant := by
  intro h
  obtain ⟨hbefore, hc, hannounced, hafter⟩ := bundledOffer_streams
  obtain ⟨new, hnew, hall⟩ := h.installed (.sender 1)
  rw [hbefore, List.nil_append] at hnew
  rw [hnew] at hafter
  obtain ⟨stream₀, rest, rfl, -, hrest⟩ := List.map_eq_cons_iff.mp hafter
  obtain ⟨stream, rest, rfl, hstream, -⟩ := List.map_eq_cons_iff.mp hrest
  obtain ⟨-, media, hmedia, hof, best, hbest, haddr⟩ := hall stream (by simp)
  obtain ⟨hmid, hstreamAddr⟩ := Prod.mk.inj hstream
  have hsection : media = sendSection "1" [] := by
    rcases List.mem_pair.mp (List.mem_filter.mp hmedia).1 with rfl | rfl
    · have hmid' : stream.description.mid = some "0" := congrArg MediaDescription.mid hof
      exact absurd (hmid.symm.trans hmid') (by decide)
    · rfl
  have hmem (c : ICECandidate) : c ∈ permitted ownOnly ⟨0, 0⟩
      ((Op.addOffer 1 bundledOffer).announce withParticipant.1.1 withParticipant.2 (.sender 1)) media ↔
        c ∈ [lowCandidate, highCandidate] ∧ c.inSubnet ⟨0, 0⟩ = true := by
    unfold permitted
    rw [hsection, if_pos (.inl rfl), Op.announce_self hc, hannounced, mem_inside]
    rfl
  have hhigh : highCandidate.priority ≤ best.priority :=
    hbest.maximal _ ((hmem _).mpr ⟨by simp, highCandidate_inSubnet⟩)
  rcases List.mem_pair.mp ((hmem best).mp hbest.mem).1 with rfl | rfl
  · exact absurd hhigh (by decide)
  · have hwrong := (Option.some.inj (haddr.symm.trans highCandidate_endpoint)).symm.trans hstreamAddr
    exact absurd hwrong (by decide)

/-- The second section of the offer gets the first candidate, which is not a best one. -/
theorem run_not_choosesBest :
    ¬ Along (fun st op => op.IsCall → op.ChoosesBest true silentCallback st) (watched silentCallback)
      (emptySession, emptySession.1.recorded) (bundledOps bundledOffer) ∧
    ¬ Along (fun st op => op.IsCall → op.ChoosesBest false silentCallback st) (watched silentCallback)
      (emptySession, emptySession.1.recorded) (bundledOps bundledOffer) :=
  ⟨fun h => bundledOffer_not_choosesBest true (h.2.1 trivial),
    fun h => bundledOffer_not_choosesBest false (h.2.1 trivial)⟩

/-- The better candidate comes first. -/
def sortedOffer : SessionDescription :=
  { mediaDescriptions := [sendSection "0" [highCandidate, lowCandidate], sendSection "1" []] }

/-- Then both sections get it. -/
theorem run_choosesBest_sorted : Along (fun st op => op.IsCall → op.ChoosesBest false silentCallback st)
    (watched silentCallback) (emptySession, emptySession.1.recorded) (bundledOps sortedOffer) := by
  apply run_choosesBest
  refine ⟨fun _ hc => (nomatch hc), fun c hc media hmedia => ?_, trivial⟩
  have hconnection : (Op.addOffer 1 sortedOffer).connection withParticipant.1.1 = some (.sender 1) :=
    bundledOffer_streams.2.1
  obtain rfl := Option.some.inj (hconnection.symm.trans hc)
  have hannounced : (Op.addOffer 1 sortedOffer).announce withParticipant.1.1 withParticipant.2 (.sender 1) =
      [highCandidate, lowCandidate] := by
    rw [Op.announce_self hconnection, bundledOffer_streams.2.2.1]
    rfl
  rcases List.mem_pair.mp (List.mem_filter.mp hmedia).1 with rfl | rfl
  · exact .own (List.ne_nil_of_mem (mem_inside.mpr ⟨List.mem_cons_self, highCandidate_inSubnet⟩))
  · show Choosable false ⟨0, 0⟩
      ((Op.addOffer 1 sortedOffer).announce withParticipant.1.1 withParticipant.2 (.sender 1)) _
    rw [hannounced]
    refine .first rfl rfl highCandidate_endpoint ⟨highCandidate, ⟨?_, fun c hc => ?_⟩, highCandidate_endpoint⟩
    · exact mem_inside.mpr ⟨List.mem_cons_self, highCandidate_inSubnet⟩
    · rcases List.mem_pair.mp (mem_inside.mp hc).1 with rfl | rfl
      · decide
      · decide

end Session

end Scallop
