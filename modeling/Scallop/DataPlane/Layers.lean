import Scallop.DataPlane.Model

/-!
# Dropped packets and announced layers

* `announced` : the dependency structure a sender announced last, over a run of its packets;
* `IsL1T3` : one spatial layer, and the five templates of the mode with three temporal layers;
* `Agrees` : the drop decision of every action for a packet is that of the temporal layer that the
  announced structure reports for its template;
* `drop_agrees_iff` : it agrees for all templates iff the offset is a multiple of five and the ids
  do not wrap.
-/

namespace Scallop

open Av1

namespace Av1

/-- The greatest temporal layer that a target keeps. -/
def DecodeTarget.maxLayer : DecodeTarget → Option Nat
  | .lo => some 0
  | .mid => some 1
  | .hi => none

def DecodeTarget.Above (target : DecodeTarget) (temporalLayerId : Nat) : Prop :=
  ∃ l ∈ target.maxLayer, l < temporalLayerId

theorem DecodeTarget.above_iff (target : DecodeTarget) (l : Nat) :
    target.Above l ↔ (target = .mid ∧ 1 < l) ∨ (target = .lo ∧ 0 < l) := by
  unfold DecodeTarget.Above
  cases target <;> simp [DecodeTarget.maxLayer]

/-- One spatial layer, and temporal layers `0, 0, 1, 2, 2`. -/
structure DependencyDescriptor.IsL1T3 (dd : DependencyDescriptor) : Prop where
  spatial : dd.templateSpatialId = [0, 0, 0, 0, 0]
  temporal : dd.templateTemporalId = [0, 0, 1, 2, 2]

end Av1

namespace DataPlaneModel

/-- The structure that is announced after one more packet. -/
def announce (av1RtpExt : Nat) (current : Option DependencyDescriptor) (buf : Buf) :
    Option DependencyDescriptor :=
  match descriptor av1RtpExt buf with
  | .ok (some (_, dd)) => if dd.templateDependencyStructurePresentFlag then some dd else current
  | _ => current

def announced (av1RtpExt : Nat) (bufs : List Buf) : Option DependencyDescriptor :=
  bufs.foldl (announce av1RtpExt) none

/-- For every receiver: a packet is not sent iff the temporal layer that is reported for its template
is above the decode target. -/
def Agrees (dd : DependencyDescriptor) (av1 : MandatoryFields) : Prop :=
  ∃ t, dd.templates[av1.templateId]? = some t ∧
    ∀ (a : Action) (buf : Buf),
      (forward (some av1) [a] buf).2 = [] ↔ a.target.Above t.temporalLayerId

/-- A template id of the structure; the ids wrap at 64. -/
def OfStructure (dd : DependencyDescriptor) (av1 : MandatoryFields) : Prop :=
  ∃ k < 5, av1.templateId = (dd.templateIdOffset + k) % 64

section Layers
variable {dd : DependencyDescriptor} {av1 : MandatoryFields}

/-! ## What is announced -/

theorem descriptor_indexed {av1RtpExt len : Nat} {buf : Buf}
    (h : descriptor av1RtpExt buf = .ok (some (len, dd))) : dd.Indexed := by
  unfold descriptor at h
  obtain ⟨ptr, -, h⟩ := Except.of_bind_ok h
  cases ptr with
  | none => exact absurd (Except.ok.inj h) (by simp)
  | some p =>
      obtain ⟨len', -, h⟩ := Except.of_bind_ok h
      obtain ⟨bytes, -, h⟩ := Except.of_bind_ok h
      obtain ⟨dd', hparse, h⟩ := Except.of_bind_ok h
      have he := Option.some.inj (Except.ok.inj h)
      rw [← (Prod.mk.inj he).2]
      exact DependencyDescriptor.parse_indexed hparse

theorem announce_indexed {av1RtpExt : Nat} {buf : Buf} {current : Option DependencyDescriptor}
    (hcur : ∀ d ∈ current, d.Indexed) : ∀ d ∈ announce av1RtpExt current buf, d.Indexed := by
  intro d hd
  unfold announce at hd
  split at hd
  · rename_i hdesc
    split at hd
    · rw [← Option.some.inj hd]
      exact descriptor_indexed hdesc
    · exact hcur d hd
  · exact hcur d hd

theorem announced_indexed {av1RtpExt : Nat} {bufs : List Buf}
    (h : announced av1RtpExt bufs = some dd) : dd.Indexed := by
  have hall : ∀ (bufs : List Buf) (current : Option DependencyDescriptor),
      (∀ d ∈ current, d.Indexed) → ∀ d ∈ bufs.foldl (announce av1RtpExt) current, d.Indexed := by
    intro bufs
    induction bufs with
    | nil => exact fun _ h => h
    | cons buf bufs ih => exact fun current hcur => ih _ (announce_indexed hcur)
  exact hall bufs none (fun d hd => absurd hd (by simp)) dd h

/-- The temporal layers of the announced templates, in order. -/
theorem temporal_of_index (hi : dd.Indexed) (hl : dd.IsL1T3) (k : Nat) :
    (dd.templates[dd.templateIdOffset + k]?).map (·.temporalLayerId) = [0, 0, 1, 2, 2][k]? := by
  have hlayers : dd.layers = [(0, 0), (0, 0), (0, 1), (0, 2), (0, 2)] := by
    rw [DependencyDescriptor.layers, hl.spatial, hl.temporal]
    rfl
  have hf := congrArg (Option.map Prod.snd) (hi.found k)
  rw [hlayers, Option.map_map] at hf
  have he : (dd.templates[dd.templateIdOffset + k]?).map (·.temporalLayerId)
      = Option.map Prod.snd ([(0, 0), (0, 0), (0, 1), (0, 2), (0, 2)] : List (Nat × Nat))[k]? := hf
  rw [he, ← List.getElem?_map]
  rfl

/-! ## What is dropped -/

theorem exists_templateId (id : Nat) : ∃ av1 : MandatoryFields, av1.templateId = id % 64 := by
  refine ⟨{ b0 := .ofNat id }, ?_⟩
  change (UInt8.ofNat id &&& 0x3f).toNat = id % 64
  rw [UInt8.toNat_and, UInt8.toNat_ofNat']
  change id % 2 ^ 8 &&& 2 ^ 6 - 1 = id % 64
  rw [Nat.and_two_pow_sub_one_eq_mod]
  omega

theorem forward_singleton_eq_nil (a : Action) (buf : Buf) :
    (forward (some av1) [a] buf).2 = [] ↔ a.drop av1 = true := by
  dsimp only [forward]
  by_cases h : a.drop av1 = true
  · rw [if_pos h]
    exact iff_of_true rfl h
  · rw [if_neg h]
    exact iff_of_false (List.cons_ne_nil _ _) h

theorem drop_iff (a : Action) : a.drop av1 = true ↔
    (a.target = .mid ∧ 3 ≤ av1.templateId % 5) ∨ (a.target = .lo ∧ 2 ≤ av1.templateId % 5) := by
  unfold Action.drop Action.target L1T3.drop
  rcases a.svcConfig with _ | ⟨_ | _ | _⟩
  · simp
  · simp only [decide_eq_true_eq, Option.getD_some, reduceCtorEq, false_and, true_and, false_or]
    omega
  · simp only [decide_eq_true_eq, Option.getD_some, reduceCtorEq, false_and, true_and, or_false]
    omega
  · simp

theorem exists_target (t : DecodeTarget) : ∃ a : Action, a.target = t :=
  ⟨{ toAddr := {}, svcConfig := some ⟨t⟩ }, rfl⟩

/-! ## Agreement -/

/-- The template that is found for a packet of an aligned structure is above the same targets. -/
theorem agrees_of_aligned (hi : dd.Indexed) (hl : dd.IsL1T3) (h5 : dd.templateIdOffset % 5 = 0)
    {k : Nat} (hk : k < 5) (hid : av1.templateId = dd.templateIdOffset + k) : Agrees dd av1 := by
  have ht := temporal_of_index hi hl k
  have hmod : av1.templateId % 5 = k := by omega
  obtain ⟨t, hfound, hlayer⟩ : ∃ t, dd.templates[dd.templateIdOffset + k]? = some t ∧
      [0, 0, 1, 2, 2][k]? = some t.temporalLayerId := by
    rw [List.getElem?_eq_getElem (show k < [0, 0, 1, 2, 2].length from hk)] at ht ⊢
    obtain ⟨t, h1, h2⟩ := Option.map_eq_some_iff.mp ht
    exact ⟨t, h1, by rw [h2]⟩
  refine ⟨t, hid ▸ hfound, fun a buf => ?_⟩
  rw [forward_singleton_eq_nil, drop_iff, DecodeTarget.above_iff, hmod]
  have hlt : (3 ≤ k ↔ 1 < t.temporalLayerId) ∧ (2 ≤ k ↔ 0 < t.temporalLayerId) := by
    rcases k with _ | _ | _ | _ | _ | k
    all_goals
      first
      | omega
      | simp only [List.getElem?_cons_succ, List.getElem?_cons_zero, Option.some.injEq] at hlayer
        omega
  rw [hlt.1, hlt.2]

/-- A packet with an id that has wrapped has no reported template. -/
theorem not_agrees_of_wrapped (hi : dd.Indexed) (hid : av1.templateId < dd.templateIdOffset) :
    ¬ Agrees dd av1 := by
  rintro ⟨t, ht, -⟩
  rw [hi.below _ hid] at ht
  exact absurd ht (by simp)

/-- The first two templates are of the lowest layer. -/
theorem mod_lt_two_of_agrees (hi : dd.Indexed) (hl : dd.IsL1T3) {k : Nat} (hk : k < 2)
    (hid : av1.templateId = dd.templateIdOffset + k) (h : Agrees dd av1) :
    av1.templateId % 5 < 2 := by
  obtain ⟨t, ht, hdrop⟩ := h
  obtain ⟨a, ha⟩ := exists_target .lo
  have hlayer := temporal_of_index hi hl k
  rw [← hid, ht] at hlayer
  have hzero : t.temporalLayerId = 0 := by
    rcases k with _ | _ | k
    · exact Option.some.inj hlayer
    · exact Option.some.inj hlayer
    · omega
  have hkeep := hdrop a []
  rw [forward_singleton_eq_nil, drop_iff, DecodeTarget.above_iff, ha, hzero] at hkeep
  simp only [reduceCtorEq, false_and, true_and, false_or, Nat.lt_irrefl, iff_false] at hkeep
  omega

/-- After every run that ends with an announced `L1T3` structure: the drop decisions agree with the
reported layers for all of its template ids iff the offset is a multiple of five and no id wraps. -/
theorem drop_agrees_iff {av1RtpExt : Nat} {bufs : List Buf}
    (h : announced av1RtpExt bufs = some dd) (hl : dd.IsL1T3) :
    (∀ av1, OfStructure dd av1 → Agrees dd av1) ↔
      dd.templateIdOffset % 5 = 0 ∧ dd.templateIdOffset + 4 ≤ 63 := by
  have hi := announced_indexed h
  constructor
  · intro hall
    have hwrap : dd.templateIdOffset + 4 ≤ 63 := by
      by_contra hlt
      obtain ⟨av1, hid⟩ := exists_templateId (dd.templateIdOffset + 4)
      exact not_agrees_of_wrapped hi (by omega) (hall av1 ⟨4, by omega, hid⟩)
    have hmod : ∀ k < 2, (dd.templateIdOffset + k) % 5 < 2 := by
      intro k hk
      obtain ⟨av1, hid⟩ := exists_templateId (dd.templateIdOffset + k)
      have hid' : av1.templateId = dd.templateIdOffset + k := by omega
      rw [← hid']
      exact mod_lt_two_of_agrees hi hl hk hid' (hall av1 ⟨k, by omega, hid⟩)
    have h0 := hmod 0 (by omega)
    have h1 := hmod 1 (by omega)
    exact ⟨by omega, hwrap⟩
  · rintro ⟨h5, hwrap⟩ av1 ⟨k, hk, hid⟩
    exact agrees_of_aligned hi hl h5 hk (by omega)

end Layers

/-! ## Two offsets -/

section Example

/-- A packet that announces the `L1T3` structure; the offset is in the byte `b`. -/
def announcePacket (b : UInt8) : Buf :=
  [0x90, 0x60, 0, 1, 0, 0, 0, 0, 0, 0, 0, 5, 0xbe, 0xde, 0, 3, 0x17, 0xc0, 0, 1, 0x80, b, 0x14, 0xc0,
    0, 0, 0, 0]

def announcedBy (b : UInt8) : DependencyDescriptor :=
  (announced 1 [announcePacket b]).getD { mandatoryFields := {} }

/-- The offset is `5`. -/
theorem drop_agrees_at_five :
    (∀ av1, OfStructure (announcedBy 0xa0) av1 → Agrees (announcedBy 0xa0) av1) ↔
      (announcedBy 0xa0).templateIdOffset % 5 = 0 ∧ (announcedBy 0xa0).templateIdOffset + 4 ≤ 63 :=
  @drop_agrees_iff (announcedBy 0xa0) 1 [announcePacket 0xa0] (by decide) ⟨by decide, by decide⟩

/-- The offset is `1`: the second template is of the lowest layer and is dropped at the lowest
target. -/
theorem base_layer_dropped :
    ¬ ∀ (av1RtpExt : Nat) (bufs : List Buf) (dd : DependencyDescriptor) (av1 : MandatoryFields),
      announced av1RtpExt bufs = some dd → dd.IsL1T3 → OfStructure dd av1 → Agrees dd av1 := by
  intro h
  have hann : announced 1 [announcePacket 0x20] = some (announcedBy 0x20) := by decide
  have hl : (announcedBy 0x20).IsL1T3 := ⟨by decide, by decide⟩
  have hagrees := h 1 _ _ { b0 := 2 } hann hl ⟨1, by omega, by decide⟩
  have hmod := mod_lt_two_of_agrees (announced_indexed hann) hl (show 1 < 2 by omega) (by decide)
    hagrees
  exact absurd hmod (by decide)

end Example

end DataPlaneModel

end Scallop
