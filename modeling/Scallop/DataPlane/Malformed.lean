import Scallop.DataPlane.Model
import Scallop.Lib.Triple

/-!
# Malformed descriptors

* `StructureFits bits i` : the template dependency structure at the bit `i` ends inside of `bits`;
* `MalformedDescriptor` : the bytes that the constructor of a descriptor rejects, `parse_ok_iff`;
* `Readable`, `WellFormedElement` : what the data plane needs of the element that it finds in a packet;
* `onPacket_error` : a packet whose descriptor cannot be parsed leaves the table as it was;
  `onPacket_survives_iff` : the handler throws just when an RTP packet that is not dropped at random has
  an element that is not well formed.
-/

namespace Scallop

open Av1

namespace Av1

/-- The number in the `len` bits from `i` on. -/
def bitsAt (bits : List Bool) (i len : Nat) : Nat := bitsToNat ((bits.drop i).take len)

theorem extractBits_of_le {bits : List Bool} {i len : Nat} (h : i + len ≤ bits.length)
    (hpos : 0 < len) (hlen : len ≤ 32) : extractBits bits i len = .ok (bitsAt bits i len) := by
  unfold extractBits
  rw [if_neg (by omega), if_neg (by omega)]
  rfl

theorem extractBits_ok {bits : List Bool} {i len n : Nat} (h : extractBits bits i len = .ok n) :
    i + len ≤ bits.length ∧ n = bitsAt bits i len := by
  unfold extractBits at h
  split at h
  · exact nomatch h
  · split at h
    · exact nomatch h
    · exact ⟨by omega, (Except.ok.inj h).symm⟩

/-- The first layer code from the bit `i` on that ends the list of templates is the one after `k`
others. -/
def LayersEnd (bits : List Bool) (i k : Nat) : Prop :=
  (∀ j < k, bitsAt bits (i + 2 * j) 2 ≠ 3) ∧ bitsAt bits (i + 2 * k) 2 = 3

/-- A template dependency structure at the bit `i`: an offset of six bits, five bits with the number
of decode targets less one, a layer code for each template, and an indication of two bits for each
template and decode target. -/
def StructureFits (bits : List Bool) (i : Nat) : Prop :=
  ∃ k, LayersEnd bits (i + 11) k ∧
    i + 11 + 2 * (k + 1) + 2 * ((k + 1) * (bitsAt bits (i + 6) 5 + 1)) ≤ bits.length

/-- The bytes that are not a descriptor: fewer than three, or with a template dependency structure
whose bits end inside a field. -/
def MalformedDescriptor (bytes : Buf) : Prop :=
  bytes.length < 3 ∨
    3 < bytes.length ∧ (bitVectorFromBytes bytes).getD 24 false = true ∧
      ¬ StructureFits (bitVectorFromBytes bytes) 29

namespace DependencyDescriptor

section Parse
variable {bits : List Bool}

theorem bitsAt_two (i : Nat) : bitsAt bits i 2 < 4 := by
  unfold bitsAt
  rcases bits.drop i with _ | ⟨a, _ | ⟨b, l⟩⟩
  · decide
  · cases a <;> decide
  · cases a <;> cases b <;> simp [bitsToNat]

/-- One round of `_parse_template_layers`: the last one, or one that goes on two bits later. -/
theorem parseTemplateLayers_succ (fuel s t : Nat) (dd : DependencyDescriptor) {i : Nat}
    (h : i + 2 ≤ bits.length) :
    (bitsAt bits i 2 = 3 ∧
      parseTemplateLayers bits (fuel + 1) dd i s t = .ok (dd.pushTemplate s t, i + 2)) ∨
    (bitsAt bits i 2 ≠ 3 ∧ ∃ s' t', parseTemplateLayers bits (fuel + 1) dd i s t =
      parseTemplateLayers bits fuel (dd.pushTemplate s t) (i + 2) s' t') := by
  have hlt := @bitsAt_two bits i
  have hread := extractBits_of_le h (by decide) (by decide)
  rw [parseTemplateLayers, hread, Except.bind_ok]
  generalize bitsAt bits i 2 = code at hlt ⊢
  rcases code with _ | _ | _ | _ | code
  · exact .inr ⟨by decide, s, t, rfl⟩
  · exact .inr ⟨by decide, s, t + 1, rfl⟩
  · exact .inr ⟨by decide, s + 1, 0, rfl⟩
  · exact .inl ⟨rfl, rfl⟩
  · omega

theorem LayersEnd.succ {i k : Nat} (hi : bitsAt bits i 2 ≠ 3) (h : LayersEnd bits (i + 2) k) :
    LayersEnd bits i (k + 1) := by
  refine ⟨fun j hj => ?_, ?_⟩
  · cases j with
    | zero => exact hi
    | succ j =>
        have hne := h.1 j (by omega)
        rwa [show i + 2 + 2 * j = i + 2 * (j + 1) by omega] at hne
  · have hend := h.2
    rwa [show i + 2 + 2 * k = i + 2 * (k + 1) by omega] at hend

theorem LayersEnd.pred {i k : Nat} (h : LayersEnd bits i (k + 1)) :
    bitsAt bits i 2 ≠ 3 ∧ LayersEnd bits (i + 2) k := by
  refine ⟨h.1 0 (by omega), fun j hj => ?_, ?_⟩
  · have hne := h.1 (j + 1) (by omega)
    rwa [show i + 2 * (j + 1) = i + 2 + 2 * j by omega] at hne
  · have hend := h.2
    rwa [show i + 2 * (k + 1) = i + 2 + 2 * k by omega] at hend

/-- The templates whose layers were read: one for each code up to the last one. -/
theorem parseTemplateLayers_ok :
    ∀ {fuel i j s t : Nat} {dd dd' : DependencyDescriptor},
      parseTemplateLayers bits fuel dd i s t = .ok (dd', j) →
      ∃ k, LayersEnd bits i k ∧ j = i + 2 * (k + 1) ∧ j ≤ bits.length ∧
        dd'.templateCnt = dd.templateCnt + (k + 1) ∧ dd'.dtCnt = dd.dtCnt
  | 0, i, j, s, t, dd, dd', h => nomatch h
  | fuel + 1, i, j, s, t, dd, dd', h => by
      have hle : i + 2 ≤ bits.length := by
        rw [parseTemplateLayers] at h
        obtain ⟨code, hcode, -⟩ := Except.of_bind_ok h
        exact (extractBits_ok hcode).1
      rcases parseTemplateLayers_succ fuel s t dd hle with
        ⟨hcode, heq⟩ | ⟨hcode, s', t', heq⟩
      · rw [heq] at h
        obtain ⟨rfl, rfl⟩ := Prod.mk.inj (Except.ok.inj h)
        exact ⟨0, ⟨fun j hj => absurd hj (Nat.not_lt_zero j), hcode⟩, rfl, hle, rfl, rfl⟩
      · rw [heq] at h
        obtain ⟨k, hend, hj, hjle, hcnt, hdt⟩ := parseTemplateLayers_ok h
        refine ⟨k + 1, LayersEnd.succ hcode hend, by omega, hjle, ?_, hdt⟩
        rw [hcnt]
        show dd.templateCnt + 1 + (k + 1) = dd.templateCnt + (k + 1 + 1)
        omega

/-- The layers are read when the codes end inside of the bits. -/
theorem parseTemplateLayers_of_end :
    ∀ {k fuel i : Nat} (s t : Nat) (dd : DependencyDescriptor), LayersEnd bits i k → k < fuel →
      i + 2 * (k + 1) ≤ bits.length →
      ∃ dd', parseTemplateLayers bits fuel dd i s t = .ok (dd', i + 2 * (k + 1))
  | k, 0, i, s, t, dd, _, hfuel, _ => absurd hfuel (Nat.not_lt_zero k)
  | 0, fuel + 1, i, s, t, dd, hend, _, hle => by
      rcases parseTemplateLayers_succ fuel s t dd
        (show i + 2 ≤ bits.length by omega) with ⟨-, heq⟩ | ⟨hcode, -⟩
      · exact ⟨_, heq⟩
      · exact absurd hend.2 hcode
  | k + 1, fuel + 1, i, s, t, dd, hend, hfuel, hle => by
      obtain ⟨hcode, hend⟩ := LayersEnd.pred hend
      rcases parseTemplateLayers_succ fuel s t dd
        (show i + 2 ≤ bits.length by omega) with ⟨hcode', -⟩ | ⟨-, s', t', heq⟩
      · exact absurd hcode' hcode
      · obtain ⟨dd', hdd'⟩ := parseTemplateLayers_of_end s' t' (dd.pushTemplate s t) hend
          (show k < fuel by omega) (by omega)
        refine ⟨dd', ?_⟩
        rw [heq, hdd', show i + 2 + 2 * (k + 1) = i + 2 * (k + 1 + 1) by omega]

theorem parseDtis_ok {id : Nat} :
    ∀ {n i j : Nat} {ts ts' : Templates}, parseDtis bits id n ts i = .ok (ts', j) →
      j = i + 2 * n ∧ (i ≤ bits.length → j ≤ bits.length)
  | 0, i, j, ts, ts', h => by
      obtain ⟨-, rfl⟩ := Prod.mk.inj (Except.ok.inj h)
      exact ⟨rfl, fun h => h⟩
  | n + 1, i, j, ts, ts', h => by
      rw [parseDtis] at h
      obtain ⟨dti, hdti, h⟩ := Except.of_bind_ok h
      obtain ⟨hj, hle⟩ := parseDtis_ok h
      exact ⟨by omega, fun _ => hle (extractBits_ok hdti).1⟩

theorem parseDtis_of_le {id : Nat} :
    ∀ {n i : Nat} (ts : Templates), i + 2 * n ≤ bits.length →
      ∃ ts', parseDtis bits id n ts i = .ok (ts', i + 2 * n)
  | 0, i, ts, _ => ⟨ts, rfl⟩
  | n + 1, i, ts, h => by
      have hread : extractBits bits i 2 = .ok (bitsAt bits i 2) :=
        extractBits_of_le (by omega) (by decide) (by decide)
      obtain ⟨ts', hts'⟩ : ∃ ts', parseDtis bits id n (pushDti ts id (Dti.ofBits (bitsAt bits i 2)))
          (i + 2) = .ok (ts', i + 2 + 2 * n) := parseDtis_of_le _ (by omega)
      refine ⟨ts', ?_⟩
      rw [parseDtis, hread]
      show parseDtis bits id n _ (i + 2) = _
      rw [hts', show i + 2 + 2 * n = i + 2 * (n + 1) by omega]

theorem parseTemplateDtis_ok {dtCnt offset : Nat} :
    ∀ {n index i j : Nat} {ts ts' : Templates},
      parseTemplateDtis bits dtCnt offset n index ts i = .ok (ts', j) →
      j = i + 2 * (n * dtCnt) ∧ (i ≤ bits.length → j ≤ bits.length)
  | 0, index, i, j, ts, ts', h => by
      obtain ⟨-, rfl⟩ := Prod.mk.inj (Except.ok.inj h)
      exact ⟨by omega, fun h => h⟩
  | n + 1, index, i, j, ts, ts', h => by
      rw [parseTemplateDtis] at h
      obtain ⟨⟨ts₁, i₁⟩, h₁, h⟩ := Except.of_bind_ok h
      obtain ⟨hi₁, hle₁⟩ := parseDtis_ok h₁
      obtain ⟨hj, hle⟩ := parseTemplateDtis_ok h
      refine ⟨?_, fun hi => hle (hle₁ hi)⟩
      rw [hj, hi₁, Nat.add_one_mul n dtCnt]
      omega

theorem parseTemplateDtis_of_le {dtCnt offset : Nat} :
    ∀ {n index i : Nat} (ts : Templates), i + 2 * (n * dtCnt) ≤ bits.length →
      ∃ ts', parseTemplateDtis bits dtCnt offset n index ts i = .ok (ts', i + 2 * (n * dtCnt))
  | 0, index, i, ts, _ => ⟨ts, by rw [parseTemplateDtis, Nat.zero_mul, Nat.mul_zero, Nat.add_zero]⟩
  | n + 1, index, i, ts, h => by
      rw [Nat.add_one_mul n dtCnt] at h
      obtain ⟨ts₁, h₁⟩ : ∃ ts₁, parseDtis bits (index + offset) dtCnt ts i = .ok (ts₁, i + 2 * dtCnt) :=
        parseDtis_of_le ts (by omega)
      obtain ⟨ts', hts'⟩ : ∃ ts', parseTemplateDtis bits dtCnt offset n (index + 1) ts₁ (i + 2 * dtCnt) =
          .ok (ts', i + 2 * dtCnt + 2 * (n * dtCnt)) := parseTemplateDtis_of_le ts₁ (by omega)
      refine ⟨ts', ?_⟩
      rw [parseTemplateDtis, h₁]
      show parseTemplateDtis bits dtCnt offset n (index + 1) ts₁ (i + 2 * dtCnt) = _
      rw [hts', Nat.add_one_mul n dtCnt, show i + 2 * dtCnt + 2 * (n * dtCnt)
        = i + 2 * (n * dtCnt + dtCnt) by omega]

/-- The structure of a descriptor without templates is parsed just when it ends inside of the bits. -/
theorem parseTemplateDependencyStructure_ok_iff {dd : DependencyDescriptor} {i : Nat}
    (hcnt : dd.templateCnt = 0) :
    (∃ r, parseTemplateDependencyStructure bits dd i = .ok r) ↔ StructureFits bits i := by
  constructor
  · rintro ⟨r, h⟩
    rw [parseTemplateDependencyStructure] at h
    obtain ⟨offset, hoffset, h⟩ := Except.of_bind_ok h
    obtain ⟨dtCntMinusOne, hdt, h⟩ := Except.of_bind_ok h
    obtain ⟨⟨dd₁, i₁⟩, h₁, h⟩ := Except.of_bind_ok h
    obtain ⟨⟨ts, i₂⟩, h₂, -⟩ := Except.of_bind_ok h
    obtain ⟨-, rfl⟩ := extractBits_ok hdt
    obtain ⟨k, hend, hi₁, hle₁, hcnt₁, hdt₁⟩ := parseTemplateLayers_ok h₁
    obtain ⟨hi₂, hle₂⟩ := parseTemplateDtis_ok h₂
    have hcnt₁ : dd₁.templateCnt = k + 1 := by
      rw [hcnt₁]
      show dd.templateCnt + (k + 1) = k + 1
      omega
    have hdt₁ : dd₁.dtCnt = bitsAt bits (i + 6) 5 + 1 := hdt₁
    have hlast := hle₂ hle₁
    rw [hi₂, hi₁, hcnt₁, hdt₁] at hlast
    exact ⟨k, hend, hlast⟩
  · rintro ⟨k, hend, hle⟩
    have hoffset : extractBits bits i 6 = .ok (bitsAt bits i 6) :=
      extractBits_of_le (by omega) (by decide) (by decide)
    have hdt : extractBits bits (i + 6) 5 = .ok (bitsAt bits (i + 6) 5) :=
      extractBits_of_le (by omega) (by decide) (by decide)
    obtain ⟨dd₁, h₁⟩ := parseTemplateLayers_of_end 0 0
      { dd with templateIdOffset := bitsAt bits i 6, dtCnt := bitsAt bits (i + 6) 5 + 1 } hend
      (show k < bits.length by omega) (by omega)
    obtain ⟨k', -, hk', -, hcnt₁, hdt₁⟩ := parseTemplateLayers_ok h₁
    obtain rfl : k' = k := by omega
    have hcnt₁ : dd₁.templateCnt = k' + 1 := by
      rw [hcnt₁]
      show dd.templateCnt + (k' + 1) = k' + 1
      omega
    have hdt₁ : dd₁.dtCnt = bitsAt bits (i + 6) 5 + 1 := hdt₁
    obtain ⟨ts, h₂⟩ : ∃ ts, parseTemplateDtis bits dd₁.dtCnt dd₁.templateIdOffset dd₁.templateCnt 0
        dd₁.templates (i + 11 + 2 * (k' + 1)) =
          .ok (ts, i + 11 + 2 * (k' + 1) + 2 * (dd₁.templateCnt * dd₁.dtCnt)) :=
      parseTemplateDtis_of_le dd₁.templates (by rw [hcnt₁, hdt₁]; exact hle)
    refine ⟨({ dd₁ with templates := ts },
      i + 11 + 2 * (k' + 1) + 2 * (dd₁.templateCnt * dd₁.dtCnt)), ?_⟩
    rw [parseTemplateDependencyStructure, hoffset]
    show (extractBits bits (i + 6) 5 >>= _) = _
    rw [hdt]
    show (parseTemplateLayers bits bits.length _ (i + 11) 0 0 >>= _) = _
    rw [h₁]
    show (parseTemplateDtis bits dd₁.dtCnt dd₁.templateIdOffset dd₁.templateCnt 0 dd₁.templates
      (i + 11 + 2 * (k' + 1)) >>= _) = _
    rw [h₂]
    rfl

/-- **What the constructor accepts.** -/
theorem parse_ok_iff (bytes : Buf) :
    (∃ dd, parse bytes = .ok dd) ↔ ¬ MalformedDescriptor bytes := by
  unfold MalformedDescriptor
  match bytes with
  | [] => exact ⟨fun ⟨_, h⟩ => (nomatch h), fun h => absurd (Or.inl (by decide)) h⟩
  | [b0] => exact ⟨fun ⟨_, h⟩ => (nomatch h), fun h => absurd (Or.inl (by simp)) h⟩
  | [b0, b1] => exact ⟨fun ⟨_, h⟩ => (nomatch h), fun h => absurd (Or.inl (by simp)) h⟩
  | [b0, b1, b2] =>
      refine ⟨fun _ h => ?_, fun _ => ⟨_, rfl⟩⟩
      rcases h with h | h
      · exact absurd h (by simp)
      · exact absurd h.1 (by simp)
  | b0 :: b1 :: b2 :: b3 :: rest =>
      have hlen : 3 < (b0 :: b1 :: b2 :: b3 :: rest).length := by
        simp only [List.length_cons]
        omega
      show (∃ dd, parseExtendedDescriptorFields _ _ 24 = .ok dd) ↔ _
      generalize b0 :: b1 :: b2 :: b3 :: rest = bytes at hlen ⊢
      unfold parseExtendedDescriptorFields
      dsimp only
      split
      · rename_i hflag
        have hfits := @parseTemplateDependencyStructure_ok_iff (bitVectorFromBytes bytes)
          { mandatoryFields := ⟨b0, b1, b2⟩
            templateDependencyStructurePresentFlag := (bitVectorFromBytes bytes).getD 24 false
            activeDecodeTargetsPresentFlag := (bitVectorFromBytes bytes).getD (24 + 1) false
            customDtisFlag := (bitVectorFromBytes bytes).getD (24 + 2) false
            customFdiffsFlag := (bitVectorFromBytes bytes).getD (24 + 3) false
            customChainsFlag := (bitVectorFromBytes bytes).getD (24 + 4) false } 29 rfl
        constructor
        · rintro ⟨dd, h⟩ (hshort | ⟨-, -, hnot⟩)
          · omega
          · obtain ⟨r, hr, -⟩ := Except.of_bind_ok h
            exact hnot (hfits.mp ⟨r, hr⟩)
        · intro h
          have hfit : StructureFits (bitVectorFromBytes bytes) 29 := by
            by_contra hnot
            exact h (.inr ⟨hlen, hflag, hnot⟩)
          obtain ⟨r, hr⟩ := hfits.mpr hfit
          exact ⟨r.1, by rw [hr]; rfl⟩
      · rename_i hflag
        refine ⟨fun _ h => ?_, fun _ => ⟨_, rfl⟩⟩
        rcases h with h | h
        · omega
        · exact hflag h.2.1

end Parse

end DependencyDescriptor

end Av1

namespace DataPlaneModel

/-- The bytes that the data plane takes for the descriptor in the element at `p`. -/
def descriptorBytes (buf : Buf) (p : Nat) : Buf :=
  (buf.drop (p + 1)).take ((buf.u8 p &&& 0x0f).toNat + 1)

def Readable (buf : Buf) (p : Nat) : Prop := p + 1 + ((buf.u8 p &&& 0x0f).toNat + 1) ≤ buf.length

instance (buf : Buf) (p : Nat) : Decidable (Readable buf p) :=
  inferInstanceAs (Decidable (p + 1 + ((buf.u8 p &&& 0x0f).toNat + 1) ≤ buf.length))

/-- The element at `p` has a descriptor. -/
structure WellFormedElement (buf : Buf) (p : Nat) : Prop where
  readable : Readable buf p
  descriptor : ¬ MalformedDescriptor (descriptorBytes buf p)

/-- The datagram gets to `_handleRTP`, and past the random drop. -/
structure HandledAsRTP (lost : Bool) (buf : Buf) : Prop where
  notStun : bufferContainsSTUN buf = false
  rtpOrRtcp : Rtp.containsRtpOrRtcp buf = true
  notRtcp : Rtp.isRtcp buf = false
  kept : lost = false

section Survives
variable {dp : DataPlaneModel} {sender : IPv4Port} {buf : Buf} {lost : Bool} {q : Option Nat}

theorem extLen_oneByte {p : Nat} (h : p < buf.length) :
    Rtp.extLen buf p .oneByte = .ok ((buf.u8 p &&& 0x0f).toNat + 1) := by
  unfold Rtp.extLen
  dsimp only
  rw [Buf.readByte_of_lt h]
  rfl

theorem descriptor_ok_iff {av1RtpExt : Nat} (hwalk : Rtp.extensionPtr buf av1RtpExt = .ok q) :
    (∃ d, descriptor av1RtpExt buf = .ok d) ↔ ∀ p ∈ q, WellFormedElement buf p := by
  unfold descriptor
  rw [hwalk]
  cases q with
  | none => exact ⟨fun _ p hp => absurd hp (Option.not_mem_none p), fun _ => ⟨none, rfl⟩⟩
  | some p =>
      show (∃ d, (Rtp.extLen buf p .oneByte >>= _) = Except.ok d) ↔ _
      constructor
      · rintro ⟨d, h⟩ p' hp'
        obtain rfl : p = p' := Option.some.inj hp'
        obtain ⟨len, hlen, h⟩ := Except.of_bind_ok h
        obtain ⟨bytes, hbytes, h⟩ := Except.of_bind_ok h
        obtain ⟨dd, hdd, -⟩ := Except.of_bind_ok h
        obtain ⟨b, hb, hlen⟩ := Except.of_bind_ok hlen
        obtain rfl := Buf.readByte_ok hb
        obtain rfl := Except.ok.inj hlen
        obtain ⟨hle, rfl⟩ := Buf.readBytes_ok hbytes
        exact ⟨hle, (DependencyDescriptor.parse_ok_iff _).mp ⟨dd, hdd⟩⟩
      · intro h
        obtain ⟨hread, hwell⟩ := h p rfl
        obtain ⟨dd, hdd⟩ := (DependencyDescriptor.parse_ok_iff _).mpr hwell
        have hlt : p < buf.length := by
          unfold Readable at hread
          omega
        have hbytes : buf.readBytes (p + 1) ((buf.u8 p &&& 0x0f).toNat + 1)
            = .ok (descriptorBytes buf p) := if_pos hread
        refine ⟨some ((buf.u8 p &&& 0x0f).toNat + 1, dd), ?_⟩
        rw [extLen_oneByte hlt]
        show (buf.readBytes (p + 1) ((buf.u8 p &&& 0x0f).toNat + 1) >>= _) = _
        rw [hbytes]
        show (DependencyDescriptor.parse (descriptorBytes buf p) >>= _) = _
        rw [hdd]
        rfl

/-- A handler is set, and the table is `t`. -/
def Ready (t : SFUTable) (dp : DataPlaneModel) : Prop := dp.hasController = true ∧ dp.sfu = t

/-- With a handler set, the program returns, and it leaves the table as it was. -/
abbrev Returns {α : Type} (m : DataPlaneEff α) : Prop :=
  ∀ t, Eff.Triple (Ready t) m (fun _ => Ready t) fun _ _ => False

theorem pure_returns {α : Type} (a : α) : Returns (pure a) :=
  fun _ => Eff.triple_pure fun _ h => h

theorem Returns.bind {α β : Type} {m : DataPlaneEff α} {f : α → DataPlaneEff β} (hm : Returns m)
    (hf : ∀ a, Returns (f a)) : Returns (m >>= f) := fun t => (hm t).bind fun a => hf a t

theorem count_returns (f : TotalPacketStatistics → TotalPacketStatistics) : Returns (count f) :=
  fun _ => Eff.triple_modify fun _ h => h

theorem toController_returns (reason : Reason) : Returns (toController reason sender buf) := by
  intro t
  unfold toController
  refine Eff.triple_get_bind fun dp h => ?_
  rw [if_pos h.1]
  apply Eff.triple_emit
  rintro s rfl
  exact h

theorem sendToActions_returns : Returns (sendToActions sender buf) := by
  intro t
  unfold sendToActions
  refine Eff.triple_get_bind fun dp h => ?_
  cases dp.sfu.entry ⟨sender, Rtcp.senderSsrc buf⟩ with
  | none =>
      apply Eff.triple_pure
      rintro s rfl
      exact h
  | some e =>
      apply Eff.triple_emits
      rintro s rfl
      exact h

theorem handleFeedback_returns : Returns (handleFeedback sender buf) := by
  unfold handleFeedback
  split
  · exact sendToActions_returns.bind fun _ => toController_returns .rtcp
  · exact pure_returns ()

theorem handleRTCP_returns : Returns (handleRTCP sender buf) := by
  unfold handleRTCP
  apply (count_returns _).bind
  rintro ⟨⟩
  split
  · exact sendToActions_returns
  · exact toController_returns .rtcp
  · exact handleFeedback_returns
  · exact handleFeedback_returns
  · exact pure_returns ()
  · exact pure_returns ()

/-- A datagram that does not get to the descriptor. -/
theorem onPacket_returns (h : ¬ HandledAsRTP lost buf) : Returns (onPacket lost sender buf) := by
  unfold onPacket
  dsimp only
  split
  · unfold handleSTUN
    exact (count_returns _).bind fun _ => (count_returns _).bind fun _ => toController_returns .stun
  · rename_i hstun
    split
    · rename_i hrtp
      apply (count_returns _).bind
      rintro ⟨⟩
      split
      · exact handleRTCP_returns
      · rename_i hrtcp
        have hlost : lost = true := by
          by_contra hlost
          exact h ⟨Bool.eq_false_of_not_eq_true hstun, hrtp, Bool.eq_false_of_not_eq_true hrtcp,
            Bool.eq_false_of_not_eq_true hlost⟩
        unfold handleRTP
        rw [if_pos hlost]
        exact pure_returns ()
    · exact pure_returns ()

/-- The first part of `_handleRTP` returns when there is no descriptor, or it is parsed. -/
theorem describe_returns {t : SFUTable} {av1RtpExt : Nat}
    {d : Option (Nat × DependencyDescriptor)} (hd : descriptor av1RtpExt buf = .ok d) :
    Eff.Triple (fun dp => Ready t dp ∧ dp.av1RtpExt = av1RtpExt) (describe sender buf)
      (fun _ => Ready t) fun _ _ => False := by
  unfold describe
  apply Eff.triple_get_bind
  rintro dp ⟨hready, rfl⟩
  rw [hd, Eff.ofExcept_ok_bind]
  apply Eff.Triple.pre (P := Ready t)
  · cases d with
    | none => exact pure_returns none t
    | some d =>
        dsimp only
        split
        · exact ((toController_returns .av1).bind fun _ => (count_returns _).bind fun _ =>
            pure_returns _) t
        · exact ((count_returns _).bind fun _ => pure_returns _) t
  · rintro s rfl
    exact hready

theorem forwardRTP_returns {t : SFUTable} (av1 : Option MandatoryFields) :
    Eff.Triple (Ready t) (forwardRTP sender buf av1) (fun _ _ => True) fun _ _ => False := by
  unfold forwardRTP
  refine Eff.triple_get_bind fun dp _ => ?_
  cases dp.sfu.entry ⟨sender, Rtp.ssrc buf⟩ with
  | none => exact Eff.triple_pure fun _ _ => trivial
  | some e => exact fun _ _ => trivial

theorem handleRTP_ok (hc : dp.hasController = true) {d : Option (Nat × DependencyDescriptor)}
    (hd : descriptor dp.av1RtpExt buf = .ok d) :
    ((handleRTP false sender buf) dp).result = .ok () := by
  have hreturns : Eff.Triple (fun dp' => Ready dp.sfu dp' ∧ dp'.av1RtpExt = dp.av1RtpExt)
      (handleRTP false sender buf) (fun _ _ => True) fun _ _ => False := by
    unfold handleRTP
    rw [if_neg Bool.false_ne_true]
    have hcount : Eff.Triple (fun dp' => Ready dp.sfu dp' ∧ dp'.av1RtpExt = dp.av1RtpExt)
        (count fun st => { st with rtpPkts := st.rtpPkts + 1 })
        (fun _ dp' => Ready dp.sfu dp' ∧ dp'.av1RtpExt = dp.av1RtpExt) fun _ _ => False :=
      Eff.triple_modify fun _ h => h
    exact hcount.bind fun _ => (describe_returns hd).bind fun av1 => forwardRTP_returns av1
  obtain ⟨⟨⟩, hok, -⟩ := hreturns.returns (s := dp) ⟨⟨hc, rfl⟩, rfl⟩
  exact hok

/-- An exception of the constructor is one of `_handleRTP`; only the packet was counted before. -/
theorem handleRTP_error {e : Fault} (hd : descriptor dp.av1RtpExt buf = .error e) :
    ∃ st, handleRTP false sender buf dp = ⟨{ dp with totalStatistics := st }, [], .error e⟩ := by
  refine ⟨{ dp.totalStatistics with rtpPkts := dp.totalStatistics.rtpPkts + 1 }, ?_⟩
  unfold handleRTP describe count
  rw [if_neg Bool.false_ne_true, Eff.modify_bind_run]
  apply Eff.bind_of_error
  rw [Eff.get_bind_run]
  dsimp only
  rw [hd, Eff.ofExcept_error_bind_run]

theorem onPacket_of_handled (h : HandledAsRTP lost buf) :
    onPacket lost sender buf = (do
      count fun st => { st with pkts := st.pkts + 1, bytes := st.bytes + buf.length }
      handleRTP false sender buf) := by
  unfold onPacket
  rw [if_neg (by rw [h.notStun]; decide), if_pos h.rtpOrRtcp, if_neg (by rw [h.notRtcp]; decide),
    h.kept]

/-- An exception of the constructor is one of `_onPacket`; the table is left as it was. -/
theorem onPacket_error {e : Fault} (h : HandledAsRTP lost buf) (hd : descriptor dp.av1RtpExt buf = .error e) :
    (onPacket lost sender buf dp).result = .error e ∧ (onPacket lost sender buf dp).state.sfu = dp.sfu := by
  rw [onPacket_of_handled h]
  unfold count
  rw [Eff.modify_bind_run]
  let dp₁ : DataPlaneModel := { dp with totalStatistics := { dp.totalStatistics with
    pkts := dp.totalStatistics.pkts + 1, bytes := dp.totalStatistics.bytes + buf.length } }
  obtain ⟨st, hrun⟩ : ∃ st, handleRTP false sender buf dp₁ =
      ⟨{ dp₁ with totalStatistics := st }, [], .error e⟩ := handleRTP_error hd
  rw [hrun]
  exact ⟨rfl, rfl⟩

theorem onPacket_unhandled (hc : dp.hasController = true) (h : ¬ HandledAsRTP lost buf) :
    (onPacket lost sender buf dp).result = .ok () ∧ (onPacket lost sender buf dp).state.sfu = dp.sfu := by
  obtain ⟨⟨⟩, hok, hready⟩ := (onPacket_returns h dp.sfu).returns (s := dp) ⟨hc, rfl⟩
  exact ⟨hok, hready.2⟩

/-- **What the forwarding path survives.** The walk over the extensions being inside of the datagram, when it gets
there: the handler returns, and leaves the table as it was when the descriptor is malformed, just when a
packet that gets to the descriptor has a well-formed one. -/
theorem onPacket_survives_iff (dp : DataPlaneModel) (lost : Bool) (sender : IPv4Port) (buf : Buf)
    (hc : dp.hasController = true)
    (hwalk : HandledAsRTP lost buf → Rtp.extensionPtr buf dp.av1RtpExt = .ok q) :
    ((onPacket lost sender buf dp).result = .ok () ∧
        ((∃ p ∈ q, Readable buf p ∧ MalformedDescriptor (descriptorBytes buf p)) →
          (onPacket lost sender buf dp).state.sfu = dp.sfu)) ↔
      (HandledAsRTP lost buf → ∀ p ∈ q, WellFormedElement buf p) := by
  by_cases h : HandledAsRTP lost buf
  · have hdescriptor := descriptor_ok_iff (hwalk h)
    cases hd : descriptor dp.av1RtpExt buf with
    | ok d =>
        have hwell : ∀ p ∈ q, WellFormedElement buf p := hdescriptor.mp ⟨d, hd⟩
        refine ⟨fun _ _ => hwell, fun _ => ⟨?_, ?_⟩⟩
        · rw [onPacket_of_handled h]
          unfold count
          rw [Eff.modify_bind_run]
          exact handleRTP_ok hc hd
        · rintro ⟨p, hp, -, hmalformed⟩
          exact absurd hmalformed (hwell p hp).descriptor
    | error e =>
        obtain ⟨herror, -⟩ := @onPacket_error dp sender buf lost _ h hd
        constructor
        · rintro ⟨hok, -⟩
          rw [herror] at hok
          cases hok
        · intro hwell
          obtain ⟨d, hd'⟩ := hdescriptor.mpr (hwell h)
          rw [hd] at hd'
          cases hd'
  · obtain ⟨hok, hsfu⟩ := @onPacket_unhandled dp sender buf lost hc h
    exact ⟨fun _ h' => absurd h' h, fun _ => ⟨hok, fun _ => hsfu⟩⟩

end Survives

/-! ## Packets -/

section Example

/-- An RTP packet with an extension header of one word: an element with the identifier `1` and the
bytes `b0, b1, b2`. -/
def packetWith (hdr b0 b1 b2 : UInt8) : Buf :=
  [0x90, 45, 0, 1, 0, 0, 0, 0, 0, 0, 0, 5, 0xbe, 0xde, 0, 1, hdr, b0, b1, b2]

theorem onPacket_survives_simple :
    (onPacket false ⟨1, 1⟩ (packetWith 0x12 0xc0 0 1) { av1RtpExt := 1 }).result = .ok () :=
  ((onPacket_survives_iff (q := some 16) { av1RtpExt := 1 } false ⟨1, 1⟩ (packetWith 0x12 0xc0 0 1)
    rfl (fun _ => by decide)).mpr (by
      rintro - p hp
      obtain rfl : 16 = p := Option.some.inj hp
      refine ⟨by decide, ?_⟩
      rintro (h | h)
      · exact absurd h (by decide)
      · exact absurd h.1 (by decide))).1

/-- A packet whose descriptor has two bytes ends in an exception, which nothing catches. -/
theorem onPacket_throws :
    ¬ ∀ (dp : DataPlaneModel) (lost : Bool) (sender : IPv4Port) (buf : Buf) (q : Option Nat),
      dp.hasController = true → Rtp.extensionPtr buf dp.av1RtpExt = .ok q →
      (∀ p ∈ q, Readable buf p) →
      (onPacket lost sender buf dp).result = .ok () ∧
        ((∃ p ∈ q, MalformedDescriptor (descriptorBytes buf p)) →
          (onPacket lost sender buf dp).state.sfu = dp.sfu) := by
  intro h
  have hok := (h { av1RtpExt := 1 } false ⟨1, 1⟩ (packetWith 0x11 0xc0 0 0) (some 16) rfl (by decide)
    (by
      intro p hp
      obtain rfl : 16 = p := Option.some.inj hp
      decide)).1
  exact nomatch hok

end Example

end DataPlaneModel

end Scallop
