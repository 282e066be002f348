import Scallop.DataPlane.Rtp
import Scallop.Lib.Except

/-!
# AV1: scalability modes and dependency descriptors

* `L1T3` of `lib/av1.h`: the decode targets, and which packets they drop by their template id;
* `MandatoryFields` : the first three bytes of a dependency descriptor;
* `DependencyDescriptor.parse` : the constructor of `lib/av1.cc`, which parses a longer descriptor
  bit by bit, with `util::extractBits`;
* `DependencyDescriptor.Indexed` : the templates stand under consecutive ids from the announced
  offset on; `parse_indexed`.
-/

namespace Scallop

namespace Av1

inductive DecodeTarget where
  | lo
  | mid
  | hi
deriving DecidableEq, Repr

structure L1T3 where
  decodeTarget : DecodeTarget := .hi
deriving DecidableEq, Repr

def maxIdent : Nat := 2

def DecodeTarget.ident : DecodeTarget → Nat
  | .lo => 0
  | .mid => 1
  | .hi => 2

def decodeTargetFromNumIdentifier (target : Nat) : Except Fault DecodeTarget :=
  match target with
  | 0 => .ok .lo
  | 1 => .ok .mid
  | 2 => .ok .hi
  | n => .error (.logicError
      ("svc::L1T3::decodeTargetFromNumIdentifier: invalid target: " ++ toString n))

theorem decodeTargetFromNumIdentifier_of_le {n : Nat} (h : ¬ n > maxIdent) :
    ∃ target, decodeTargetFromNumIdentifier n = .ok target := by
  unfold maxIdent at h
  rcases n with _ | _ | _ | n
  · exact ⟨_, rfl⟩
  · exact ⟨_, rfl⟩
  · exact ⟨_, rfl⟩
  · omega

theorem not_gt_of_decodeTarget {n : Nat} {target : DecodeTarget}
    (h : decodeTargetFromNumIdentifier n = .ok target) : ¬ n > maxIdent := by
  intro hlt
  unfold maxIdent at hlt
  rcases n with _ | _ | _ | n
  · omega
  · omega
  · omega
  · exact nomatch h

theorem decodeTargetFromNumIdentifier_ident (target : DecodeTarget) :
    decodeTargetFromNumIdentifier target.ident = .ok target := by
  cases target <;> rfl

/-- Whether packets of a template are dropped. -/
def L1T3.drop (svc : L1T3) (templateId : Nat) : Bool :=
  match svc.decodeTarget with
  | .hi => false
  | .mid => templateId % 5 = 3 ∨ templateId % 5 = 4
  | .lo => templateId % 5 = 2 ∨ templateId % 5 = 3 ∨ templateId % 5 = 4

/-- `DependencyDescriptor::MandatoryFields`: the three bytes it points to. -/
structure MandatoryFields where
  b0 : UInt8 := 0
  b1 : UInt8 := 0
  b2 : UInt8 := 0
deriving DecidableEq, Repr

namespace MandatoryFields
variable (m : MandatoryFields)

def startOfFrame : Bool := (m.b0 >>> 7) &&& 1 = 1

def endOfFrame : Bool := (m.b0 >>> 6) &&& 1 = 1

def templateId : Nat := (m.b0 &&& 0x3f).toNat

/-- The frame number; the sum of the source fits in 16 bits. -/
def frameNumber : UInt16 := m.b1.toUInt16 <<< 8 + m.b2.toUInt16

end MandatoryFields

inductive Dti where
  | notPresentIndication
  | discardableIndication
  | switchIndication
  | requiredIndication
deriving DecidableEq, Repr

def Dti.ofBits : Nat → Dti
  | 0 => .notPresentIndication
  | 1 => .discardableIndication
  | 2 => .switchIndication
  | _ => .requiredIndication

structure FrameDependencyTemplate where
  spatialLayerId : Nat := 0
  temporalLayerId : Nat := 0
  dtis : List Dti := []
deriving DecidableEq, Repr

def FrameDependencyTemplate.layer (t : FrameDependencyTemplate) : Nat × Nat :=
  (t.spatialLayerId, t.temporalLayerId)

/-- `std::map<unsigned, frame_dependency_template>`. -/
abbrev Templates := Std.ExtTreeMap Nat FrameDependencyTemplate

structure DependencyDescriptor where
  mandatoryFields : MandatoryFields
  templateDependencyStructurePresentFlag : Bool := false
  activeDecodeTargetsPresentFlag : Bool := false
  customDtisFlag : Bool := false
  customFdiffsFlag : Bool := false
  customChainsFlag : Bool := false
  dtCnt : Nat := 0
  templateCnt : Nat := 0
  templateIdOffset : Nat := 0
  templateSpatialId : List Nat := []
  templateTemporalId : List Nat := []
  templates : Templates := {}
deriving DecidableEq

def bitVectorFromBytes (bytes : Buf) : List Bool :=
  bytes.flatMap fun b => [7, 6, 5, 4, 3, 2, 1, 0].map fun j => (b >>> j) &&& 1 = 1

/-- The number that bits spell, the first one being the most significant. -/
def bitsToNat (bits : List Bool) : Nat := bits.foldl (fun a b => 2 * a + b.toNat) 0

def extractBits (bits : List Bool) (start len : Nat) : Except Fault Nat :=
  if start + len > bits.length then
    .error (.invalidArgument "util:extractBits: requested range outside of bit vector")
  else if len > 32 ∨ len < 1 then
    .error (.invalidArgument "util:extractBits: len must be > 0 and <= 32")
  else .ok (bitsToNat ((bits.drop start).take len))

namespace DependencyDescriptor

/-- The body of the loop of `_parse_template_layers`: one more template. -/
def pushTemplate (dd : DependencyDescriptor) (spatialId temporalId : Nat) : DependencyDescriptor :=
  { dd with
    templateSpatialId := dd.templateSpatialId ++ [spatialId]
    templateTemporalId := dd.templateTemporalId ++ [temporalId]
    templates := dd.templates.insert (dd.templateIdOffset + dd.templateCnt)
      { spatialLayerId := spatialId, temporalLayerId := temporalId }
    templateCnt := dd.templateCnt + 1 }

/-- `_parse_template_layers`, and where it ends. Every round reads two bits, so a round for every
bit is enough; without bits left it fails as `extractBits` does. -/
def parseTemplateLayers (bits : List Bool) :
    Nat → DependencyDescriptor → Nat → Nat → Nat → Except Fault (DependencyDescriptor × Nat)
  | 0, _, _, _, _ =>
      .error (.invalidArgument "util:extractBits: requested range outside of bit vector")
  | fuel + 1, dd, i, spatialId, temporalId => do
      let dd := dd.pushTemplate spatialId temporalId
      let nextLayerIdc ← extractBits bits i 2
      match nextLayerIdc with
      | 0 => parseTemplateLayers bits fuel dd (i + 2) spatialId temporalId
      | 1 => parseTemplateLayers bits fuel dd (i + 2) spatialId (temporalId + 1)
      | 2 => parseTemplateLayers bits fuel dd (i + 2) (spatialId + 1) 0
      | _ => .ok (dd, i + 2)

/-- `_templates[id].dtis.push_back(dti)`. -/
def pushDti (templates : Templates) (id : Nat) (dti : Dti) : Templates :=
  templates.alter id fun t =>
    let t := t.getD {}
    some { t with dtis := t.dtis ++ [dti] }

/-- The inner loop of `_parse_template_dtis`, for the template `id`. -/
def parseDtis (bits : List Bool) (id : Nat) : Nat → Templates → Nat → Except Fault (Templates × Nat)
  | 0, templates, i => .ok (templates, i)
  | n + 1, templates, i => do
      let dti ← extractBits bits i 2
      parseDtis bits id n (pushDti templates id (Dti.ofBits dti)) (i + 2)

/-- The outer loop of `_parse_template_dtis`, from the template `index` on. -/
def parseTemplateDtis (bits : List Bool) (dtCnt offset : Nat) :
    Nat → Nat → Templates → Nat → Except Fault (Templates × Nat)
  | 0, _, templates, i => .ok (templates, i)
  | n + 1, index, templates, i => do
      let (templates, i) ← parseDtis bits (index + offset) dtCnt templates i
      parseTemplateDtis bits dtCnt offset n (index + 1) templates i

def parseTemplateDependencyStructure (bits : List Bool) (dd : DependencyDescriptor) (i : Nat) :
    Except Fault (DependencyDescriptor × Nat) := do
  let offset ← extractBits bits i 6
  let dtCntMinusOne ← extractBits bits (i + 6) 5
  let dd := { dd with templateIdOffset := offset, dtCnt := dtCntMinusOne + 1 }
  let (dd, i) ← parseTemplateLayers bits bits.length dd (i + 11) 0 0
  let (templates, i) ←
    parseTemplateDtis bits dd.dtCnt dd.templateIdOffset dd.templateCnt 0 dd.templates i
  return ({ dd with templates }, i)

/-- `_parse_extended_descriptor_fields`; a descriptor of four bytes has the five flags. -/
def parseExtendedDescriptorFields (bits : List Bool) (dd : DependencyDescriptor) (i : Nat) :
    Except Fault DependencyDescriptor := do
  let dd := { dd with
    templateDependencyStructurePresentFlag := bits.getD i false
    activeDecodeTargetsPresentFlag := bits.getD (i + 1) false
    customDtisFlag := bits.getD (i + 2) false
    customFdiffsFlag := bits.getD (i + 3) false
    customChainsFlag := bits.getD (i + 4) false }
  if dd.templateDependencyStructurePresentFlag then
    let (dd, _) ← parseTemplateDependencyStructure bits dd (i + 5)
    return dd
  else return dd

def parse : Buf → Except Fault DependencyDescriptor
  | b0 :: b1 :: b2 :: rest =>
      let dd : DependencyDescriptor := { mandatoryFields := ⟨b0, b1, b2⟩ }
      match rest with
      | [] => .ok dd
      | _ => parseExtendedDescriptorFields (bitVectorFromBytes (b0 :: b1 :: b2 :: rest)) dd 24
  | _ => .error (.logicError "av1::DependencyDescriptor: len must be at least 3")

/-! ## The announced templates -/

section Indexed

/-- The layers of the announced templates, in order. -/
def layers (dd : DependencyDescriptor) : List (Nat × Nat) :=
  dd.templateSpatialId.zip dd.templateTemporalId

/-- The templates stand under consecutive ids from the offset on, with their layers. -/
structure Indexed (dd : DependencyDescriptor) : Prop where
  spatial : dd.templateSpatialId.length = dd.templateCnt
  temporal : dd.templateTemporalId.length = dd.templateCnt
  found : ∀ k, (dd.templates[dd.templateIdOffset + k]?).map FrameDependencyTemplate.layer
    = dd.layers[k]?
  below : ∀ id, id < dd.templateIdOffset → dd.templates[id]? = none

theorem layers_pushTemplate {dd : DependencyDescriptor} (h : dd.Indexed) (s t : Nat) :
    (dd.pushTemplate s t).layers = dd.layers ++ [(s, t)] := by
  rw [layers, pushTemplate, List.zip_append (by rw [h.spatial, h.temporal])]
  rfl

theorem Indexed.pushTemplate {dd : DependencyDescriptor} (h : dd.Indexed) (s t : Nat) :
    (dd.pushTemplate s t).Indexed := by
  have hlen : dd.layers.length = dd.templateCnt := by
    simp [layers, h.spatial, h.temporal]
  refine ⟨?_, ?_, fun k => ?_, fun id hid => ?_⟩
  · simp [DependencyDescriptor.pushTemplate, h.spatial]
  · simp [DependencyDescriptor.pushTemplate, h.temporal]
  · rw [layers_pushTemplate h]
    change ((dd.templates.insert (dd.templateIdOffset + dd.templateCnt) _)[
      dd.templateIdOffset + k]?).map _ = _
    rw [Std.ExtTreeMap.getElem?_insert]
    by_cases hk : k = dd.layers.length
    · rw [if_pos (Nat.compare_eq_eq.mpr (by omega)), hk, List.getElem?_concat_length]
      rfl
    · rw [if_neg (by rw [Nat.compare_eq_eq]; omega), h.found k, List.getElem?_append]
      split
      · rfl
      · rw [List.getElem?_eq_none (by omega), List.getElem?_eq_none]
        rw [List.length_singleton]
        omega
  · change (dd.templates.insert (dd.templateIdOffset + dd.templateCnt) _)[id]? = none
    change id < dd.templateIdOffset at hid
    rw [Std.ExtTreeMap.getElem?_insert, if_neg (by rw [Nat.compare_eq_eq]; omega), h.below id hid]

theorem parseTemplateLayers_indexed {bits : List Bool} :
    ∀ {fuel : Nat} {dd dd' : DependencyDescriptor} {i j s t : Nat}, dd.Indexed →
      parseTemplateLayers bits fuel dd i s t = .ok (dd', j) →
      dd'.Indexed ∧ dd'.mandatoryFields = dd.mandatoryFields ∧
        dd'.templateDependencyStructurePresentFlag = dd.templateDependencyStructurePresentFlag
  | 0, dd, dd', i, j, s, t, _, h => nomatch h
  | fuel + 1, dd, dd', i, j, s, t, hi, h => by
      rw [parseTemplateLayers] at h
      obtain ⟨idc, -, h⟩ := Except.of_bind_ok h
      have hp := hi.pushTemplate s t
      split at h
      · obtain ⟨h1, h2, h3⟩ := parseTemplateLayers_indexed hp h
        exact ⟨h1, h2, h3⟩
      · obtain ⟨h1, h2, h3⟩ := parseTemplateLayers_indexed hp h
        exact ⟨h1, h2, h3⟩
      · obtain ⟨h1, h2, h3⟩ := parseTemplateLayers_indexed hp h
        exact ⟨h1, h2, h3⟩
      · rw [Except.ok.injEq, Prod.mk.injEq] at h
        rw [← h.1]
        exact ⟨hp, rfl, rfl⟩

def SameLayers (ts ts' : Templates) : Prop :=
  ∀ id : Nat, (ts'[id]?).map FrameDependencyTemplate.layer
    = (ts[id]?).map FrameDependencyTemplate.layer

theorem SameLayers.trans {ts ts' ts'' : Templates} (h : SameLayers ts ts')
    (h' : SameLayers ts' ts'') : SameLayers ts ts'' := fun id => (h' id).trans (h id)

theorem SameLayers.isSome {ts ts' : Templates} (h : SameLayers ts ts') {id : Nat}
    (hid : ts[id]?.isSome) : ts'[id]?.isSome := by
  have := congrArg Option.isSome (h id)
  rw [Option.isSome_map, Option.isSome_map] at this
  rw [this]
  exact hid

theorem sameLayers_pushDti {ts : Templates} {id : Nat} (hid : ts[id]?.isSome) (dti : Dti) :
    SameLayers ts (pushDti ts id dti) := by
  intro id'
  rw [pushDti, Std.ExtTreeMap.getElem?_alter]
  split
  · rename_i he
    rw [Nat.compare_eq_eq] at he
    obtain ⟨t, ht⟩ := Option.isSome_iff_exists.mp hid
    rw [← he, ht]
    rfl
  · rfl

theorem parseDtis_sameLayers {bits : List Bool} {id : Nat} :
    ∀ {n : Nat} {ts ts' : Templates} {i j : Nat}, ts[id]?.isSome →
      parseDtis bits id n ts i = .ok (ts', j) → SameLayers ts ts'
  | 0, ts, ts', i, j, _, h => by
      rw [parseDtis, Except.ok.injEq, Prod.mk.injEq] at h
      rw [← h.1]
      exact fun _ => rfl
  | n + 1, ts, ts', i, j, hid, h => by
      rw [parseDtis] at h
      obtain ⟨dti, -, h⟩ := Except.of_bind_ok h
      have hp := sameLayers_pushDti hid (Dti.ofBits dti)
      exact hp.trans (parseDtis_sameLayers (hp.isSome hid) h)

theorem parseTemplateDtis_sameLayers {bits : List Bool} {dtCnt offset : Nat} :
    ∀ {n index : Nat} {ts ts' : Templates} {i j : Nat},
      (∀ k, k < index + n → ts[k + offset]?.isSome) →
      parseTemplateDtis bits dtCnt offset n index ts i = .ok (ts', j) → SameLayers ts ts'
  | 0, index, ts, ts', i, j, _, h => by
      rw [parseTemplateDtis, Except.ok.injEq, Prod.mk.injEq] at h
      rw [← h.1]
      exact fun _ => rfl
  | n + 1, index, ts, ts', i, j, hid, h => by
      rw [parseTemplateDtis] at h
      obtain ⟨⟨ts₁, i₁⟩, h₁, h⟩ := Except.of_bind_ok h
      have hp := parseDtis_sameLayers (hid index (by omega)) h₁
      exact hp.trans
        (parseTemplateDtis_sameLayers (fun k hk => hp.isSome (hid k (by omega))) h)

theorem Indexed.isSome {dd : DependencyDescriptor} (h : dd.Indexed) {k : Nat}
    (hk : k < dd.templateCnt) : dd.templates[k + dd.templateIdOffset]?.isSome := by
  have hl : k < dd.layers.length := by
    simpa [layers, h.spatial, h.temporal] using hk
  have hf := h.found k
  rw [Nat.add_comm, ← Option.isSome_map (f := FrameDependencyTemplate.layer), hf,
    List.getElem?_eq_getElem hl]
  rfl

theorem Indexed.templates {dd : DependencyDescriptor} (h : dd.Indexed) {ts : Templates}
    (hs : SameLayers dd.templates ts) : ({ dd with templates := ts } : DependencyDescriptor).Indexed
    where
  spatial := h.spatial
  temporal := h.temporal
  found k := (hs _).trans (h.found k)
  below id hid := by
    have := hs id
    rw [h.below id hid] at this
    simpa using this

theorem parseTemplateDependencyStructure_indexed {bits : List Bool}
    {dd dd' : DependencyDescriptor} {i j : Nat} (hcnt : dd.templateCnt = 0)
    (hs : dd.templateSpatialId = []) (ht : dd.templateTemporalId = []) (hts : dd.templates = {})
    (h : parseTemplateDependencyStructure bits dd i = .ok (dd', j)) :
    dd'.Indexed ∧ dd'.mandatoryFields = dd.mandatoryFields ∧
      dd'.templateDependencyStructurePresentFlag = dd.templateDependencyStructurePresentFlag := by
  rw [parseTemplateDependencyStructure] at h
  obtain ⟨offset, -, h⟩ := Except.of_bind_ok h
  obtain ⟨dtCntMinusOne, -, h⟩ := Except.of_bind_ok h
  obtain ⟨⟨dd₁, i₁⟩, h₁, h⟩ := Except.of_bind_ok h
  obtain ⟨⟨ts, i₂⟩, h₂, h⟩ := Except.of_bind_ok h
  have hstart : ({ dd with templateIdOffset := offset, dtCnt := dtCntMinusOne + 1 } :
      DependencyDescriptor).Indexed := by
    refine ⟨by simp [hs, hcnt], by simp [ht, hcnt], fun k => ?_, fun id _ => ?_⟩
    · simp [hts, layers, hs]
    · simp [hts]
  obtain ⟨hi, hm, hf⟩ := parseTemplateLayers_indexed hstart h₁
  have hsame := parseTemplateDtis_sameLayers (fun k hk => hi.isSome (by omega)) h₂
  have he : { dd₁ with templates := ts } = dd' := (Prod.mk.inj (Except.ok.inj h)).1
  rw [← he]
  exact ⟨hi.templates hsame, hm, hf⟩

theorem indexed_of_empty (m : MandatoryFields) :
    ({ mandatoryFields := m } : DependencyDescriptor).Indexed :=
  ⟨rfl, rfl, fun _ => by simp [layers], fun _ _ => by simp⟩

/-- Whatever is parsed, the templates stand under consecutive ids. -/
theorem parse_indexed {bytes : Buf} {dd : DependencyDescriptor} (h : parse bytes = .ok dd) :
    dd.Indexed := by
  unfold parse at h
  split at h
  · split at h
    · rw [Except.ok.injEq] at h
      rw [← h]
      exact indexed_of_empty _
    · rw [parseExtendedDescriptorFields] at h
      split at h
      · obtain ⟨⟨dd₁, i⟩, h₁, h⟩ := Except.of_bind_ok h
        rw [← Except.ok.inj h]
        exact (parseTemplateDependencyStructure_indexed rfl rfl rfl rfl h₁).1
      · rw [← Except.ok.inj h]
        exact ⟨rfl, rfl, fun _ => by simp [layers], fun _ _ => by simp⟩
  · exact absurd h (by simp)

end Indexed

end DependencyDescriptor

end Av1

end Scallop
