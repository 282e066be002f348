import Mathlib.Tactic.Ring
import Scallop.DataPlane.Malformed

/-!
# Template dependency structures

What `DependencyDescriptor` makes of the structure that a sender announces.

* `TemplateStructure` : an offset, the layers of the templates as steps from one to the next, and a row
  of indications for each template; `TemplateStructure.encode` : its bits;
* `Lists` : the templates stand under consecutive ids; `parse_encoded` : what is parsed lists them;
* `Parses` : the constructor with reads that fault outside of the vector, and with the loop over the
  layers as it is; `parses_iff` : it comes to what `parse` says;
* `parse_structure` : structures are decoded, truncated ones are rejected, and nothing else is read;
  `exists_encodes` : every structure has an encoding;
* `found_iff` : the templates are found under the ids of packets iff the ids do not wrap.
-/

namespace Scallop

namespace Av1

/-! ## Bits -/

/-- The `w` low bits of a number, the most significant one first. -/
def natBits : Nat → Nat → List Bool
  | 0, _ => []
  | w + 1, n => n.testBit w :: natBits w n

@[simp] theorem natBits_length (w n : Nat) : (natBits w n).length = w := by
  induction w with
  | zero => rfl
  | succ w ih => simp [natBits, ih]

theorem bitsToNat_natBits {w n : Nat} (h : n < 2 ^ w) : bitsToNat (natBits w n) = n := by
  have hfold (acc : Nat) :
      (natBits w n).foldl (fun a b => 2 * a + b.toNat) acc = acc * 2 ^ w + n % 2 ^ w := by
    clear h
    induction w generalizing acc with
    | zero => simp [natBits, Nat.mod_one]
    | succ w ih =>
        rw [natBits, List.foldl_cons, ih, Nat.mod_pow_succ, Nat.toNat_testBit, Nat.pow_succ]
        ring
  have h0 := hfold 0
  rw [Nat.zero_mul, Nat.zero_add, Nat.mod_eq_of_lt h] at h0
  exact h0

/-- The bits `xs` stand at the bit `i`. -/
def StandsAt (bits : List Bool) (i : Nat) (xs : List Bool) : Prop :=
  ∃ pre post, bits = pre ++ xs ++ post ∧ pre.length = i

section Stands
variable {bits xs ys : List Bool} {i w n : Nat}

theorem StandsAt.left (h : StandsAt bits i (xs ++ ys)) : StandsAt bits i xs := by
  obtain ⟨pre, post, hb, hi⟩ := h
  exact ⟨pre, ys ++ post, by simp [hb], hi⟩

theorem StandsAt.right (h : StandsAt bits i (xs ++ ys)) : StandsAt bits (i + xs.length) ys := by
  obtain ⟨pre, post, hb, hi⟩ := h
  exact ⟨pre ++ xs, post, by simp [hb], by simp [hi]⟩

theorem StandsAt.le (h : StandsAt bits i xs) : i + xs.length ≤ bits.length := by
  obtain ⟨pre, post, hb, hi⟩ := h
  simp only [hb, List.length_append]
  omega

theorem StandsAt.bitsAt (h : StandsAt bits i (natBits w n)) (hn : n < 2 ^ w) : bitsAt bits i w = n := by
  obtain ⟨pre, post, hb, hi⟩ := h
  unfold Av1.bitsAt
  rw [hb, List.append_assoc, List.drop_left' hi, List.take_left' (natBits_length w n)]
  exact bitsToNat_natBits hn

theorem StandsAt.extractBits (h : StandsAt bits i (natBits w n)) (hn : n < 2 ^ w) (hpos : 0 < w)
    (hw : w ≤ 32) : extractBits bits i w = .ok n := by
  have hle := h.le
  rw [natBits_length] at hle
  rw [extractBits_of_le hle hpos hw, h.bitsAt hn]

end Stands

theorem bitVectorFromBytes_length (bytes : Buf) :
    (bitVectorFromBytes bytes).length = 8 * bytes.length := by
  induction bytes with
  | nil => rfl
  | cons b bytes ih =>
      have hb : bitVectorFromBytes (b :: bytes)
          = [7, 6, 5, 4, 3, 2, 1, 0].map (fun j => decide ((b >>> j) &&& 1 = 1))
            ++ bitVectorFromBytes bytes := rfl
      rw [hb, List.length_append, ih, List.length_cons]
      simp only [List.length_map, List.length_cons, List.length_nil]
      omega

/-! ## Structures -/

/-- From the layer of a template to that of the next one. -/
inductive LayerStep where
  | same
  | nextTemporal
  | nextSpatial
deriving DecidableEq, Repr

namespace LayerStep

/-- `next_layer_idc`. -/
def idc : LayerStep → Nat
  | same => 0
  | nextTemporal => 1
  | nextSpatial => 2

def move : LayerStep → Nat × Nat → Nat × Nat
  | same, l => l
  | nextTemporal, (s, t) => (s, t + 1)
  | nextSpatial, (s, _) => (s + 1, 0)

theorem idc_lt (step : LayerStep) : step.idc < 2 ^ 2 := by
  cases step <;> decide

end LayerStep

/-- The layers of templates, from that of the first one. -/
def layersFrom : Nat × Nat → List LayerStep → List (Nat × Nat)
  | l, [] => [l]
  | l, step :: steps => l :: layersFrom (step.move l) steps

@[simp] theorem layersFrom_length (l : Nat × Nat) (steps : List LayerStep) :
    (layersFrom l steps).length = steps.length + 1 := by
  induction steps generalizing l with
  | nil => rfl
  | cons step steps ih => simp [layersFrom, ih]

def Dti.bits : Dti → Nat
  | .notPresentIndication => 0
  | .discardableIndication => 1
  | .switchIndication => 2
  | .requiredIndication => 3

theorem Dti.bits_lt (dti : Dti) : dti.bits < 2 ^ 2 := by
  cases dti <;> decide

@[simp] theorem Dti.ofBits_bits (dti : Dti) : Dti.ofBits dti.bits = dti := by
  cases dti <;> rfl

structure TemplateStructure where
  offset : Nat
  dtCnt : Nat
  steps : List LayerStep
  rows : List (List Dti)
  offset_lt : offset < 64
  dtCnt_pos : 0 < dtCnt
  dtCnt_le : dtCnt ≤ 32
  rows_length : rows.length = steps.length + 1
  row_length : ∀ row ∈ rows, row.length = dtCnt

namespace TemplateStructure

def count (st : TemplateStructure) : Nat := st.steps.length + 1

def templates (st : TemplateStructure) : List FrameDependencyTemplate :=
  List.zipWith (fun l row => { spatialLayerId := l.1, temporalLayerId := l.2, dtis := row })
    (layersFrom (0, 0) st.steps) st.rows

@[simp] theorem templates_length (st : TemplateStructure) : st.templates.length = st.count := by
  simp [templates, st.rows_length, count]

end TemplateStructure

/-! ## Their bits -/

/-- The codes of the layers, and the one that ends them. -/
def encodeLayers (steps : List LayerStep) : List Bool :=
  (steps.flatMap fun step => natBits 2 step.idc) ++ natBits 2 3

def encodeRow (row : List Dti) : List Bool := row.flatMap fun dti => natBits 2 dti.bits

def encodeRows (rows : List (List Dti)) : List Bool := rows.flatMap encodeRow

/-- The structure after the flags of a descriptor. -/
def TemplateStructure.encode (st : TemplateStructure) : List Bool :=
  natBits 6 st.offset ++ (natBits 5 (st.dtCnt - 1) ++ (encodeLayers st.steps ++ encodeRows st.rows))

theorem encodeLayers_length (steps : List LayerStep) :
    (encodeLayers steps).length = 2 * (steps.length + 1) := by
  induction steps with
  | nil => rfl
  | cons step steps ih =>
      have hc : encodeLayers (step :: steps) = natBits 2 step.idc ++ encodeLayers steps := by
        simp [encodeLayers]
      rw [hc, List.length_append, ih, natBits_length, List.length_cons]
      omega

theorem encodeRow_length (row : List Dti) : (encodeRow row).length = 2 * row.length := by
  induction row with
  | nil => rfl
  | cons dti row ih =>
      have hc : encodeRow (dti :: row) = natBits 2 dti.bits ++ encodeRow row := rfl
      rw [hc, List.length_append, ih, natBits_length, List.length_cons]
      omega

theorem encodeRows_length {dtCnt : Nat} {rows : List (List Dti)} (h : ∀ row ∈ rows, row.length = dtCnt) :
    (encodeRows rows).length = 2 * (rows.length * dtCnt) := by
  induction rows with
  | nil => simp [encodeRows]
  | cons row rows ih =>
      have hc : encodeRows (row :: rows) = encodeRow row ++ encodeRows rows := rfl
      rw [hc, List.length_append, ih fun r hr => h r (List.mem_cons_of_mem _ hr), encodeRow_length,
        h row List.mem_cons_self, List.length_cons, Nat.add_one_mul rows.length]
      omega

/-! ## What is parsed -/

/-- The templates `l` stand under consecutive ids from `offset` on, and no others. -/
def Lists (ts : Templates) (offset : Nat) (l : List FrameDependencyTemplate) : Prop :=
  ∀ id : Nat, ts[id]? = if offset ≤ id then l[id - offset]? else none

def FrameDependencyTemplate.pushDtis (t : FrameDependencyTemplate) (row : List Dti) :
    FrameDependencyTemplate := { t with dtis := t.dtis ++ row }

/-- A template of a layer, before its indications are read. -/
def bareTemplate (l : Nat × Nat) : FrameDependencyTemplate :=
  { spatialLayerId := l.1, temporalLayerId := l.2 }

section Lists
variable {ts : Templates} {offset : Nat} {l done rest : List FrameDependencyTemplate}
  {t : FrameDependencyTemplate}

theorem lists_empty (offset : Nat) : Lists {} offset [] := by
  intro id
  simp

theorem Lists.push (h : Lists ts offset l) (t : FrameDependencyTemplate) :
    Lists (ts.insert (offset + l.length) t) offset (l ++ [t]) := by
  intro id
  rw [Std.ExtTreeMap.getElem?_insert]
  by_cases hid : id = offset + l.length
  · rw [if_pos (Nat.compare_eq_eq.mpr hid.symm), if_pos (by omega), hid, Nat.add_sub_cancel_left,
      List.getElem?_concat_length]
  · rw [if_neg (by rw [Nat.compare_eq_eq]; omega), h id]
    by_cases ho : offset ≤ id
    · rw [if_pos ho, if_pos ho, List.getElem?_append]
      by_cases hl : id - offset < l.length
      · rw [if_pos hl]
      · rw [if_neg hl, List.getElem?_eq_none (by omega), List.getElem?_eq_none]
        rw [List.length_singleton]
        omega
    · rw [if_neg ho, if_neg ho]

theorem Lists.pushDti (h : Lists ts offset (done ++ t :: rest)) (dti : Dti) :
    Lists (DependencyDescriptor.pushDti ts (done.length + offset) dti) offset
      (done ++ t.pushDtis [dti] :: rest) := by
  intro id
  rw [DependencyDescriptor.pushDti, Std.ExtTreeMap.getElem?_alter]
  by_cases hid : done.length + offset = id
  · have hk : id - offset = done.length := by omega
    rw [if_pos (Nat.compare_eq_eq.mpr hid), h (done.length + offset), if_pos (by omega),
      if_pos (by omega), Nat.add_sub_cancel, hk]
    simp [FrameDependencyTemplate.pushDtis]
  · rw [if_neg (by rw [Nat.compare_eq_eq]; exact hid), h id]
    by_cases ho : offset ≤ id
    · rw [if_pos ho, if_pos ho, List.getElem?_append, List.getElem?_append]
      by_cases hl : id - offset < done.length
      · rw [if_pos hl, if_pos hl]
      · obtain ⟨k, hk⟩ : ∃ k, id - offset - done.length = k + 1 := ⟨_, (Nat.succ_pred (by omega)).symm⟩
        rw [if_neg hl, if_neg hl, hk, List.getElem?_cons_succ, List.getElem?_cons_succ]
    · rw [if_neg ho, if_neg ho]

end Lists

namespace DependencyDescriptor

section Parsed
variable {bits : List Bool}

/-- Templates for layers, one after the other. -/
def pushTemplates (dd : DependencyDescriptor) (ls : List (Nat × Nat)) : DependencyDescriptor :=
  ls.foldl (fun dd l => dd.pushTemplate l.1 l.2) dd

theorem parseTemplateLayers_encoded :
    ∀ {steps : List LayerStep} {fuel i s t : Nat} {dd : DependencyDescriptor},
      StandsAt bits i (encodeLayers steps) → steps.length < fuel →
      parseTemplateLayers bits fuel dd i s t =
        .ok (dd.pushTemplates (layersFrom (s, t) steps), i + 2 * (steps.length + 1))
  | steps, 0, i, s, t, dd, _, hfuel => absurd hfuel (Nat.not_lt_zero _)
  | [], fuel + 1, i, s, t, dd, h, _ => by
      have hread : extractBits bits i 2 = .ok 3 := h.extractBits (by decide) (by decide) (by decide)
      rw [parseTemplateLayers, hread]
      rfl
  | step :: steps, fuel + 1, i, s, t, dd, h, hfuel => by
      have hc : encodeLayers (step :: steps) = natBits 2 step.idc ++ encodeLayers steps := by
        simp [encodeLayers]
      rw [hc] at h
      have hread : extractBits bits i 2 = .ok step.idc :=
        h.left.extractBits step.idc_lt (by decide) (by decide)
      have hrest : StandsAt bits (i + 2) (encodeLayers steps) := by
        have := h.right
        rwa [natBits_length] at this
      have hlen : i + 2 * ((step :: steps).length + 1) = i + 2 + 2 * (steps.length + 1) := by
        rw [List.length_cons]
        omega
      have ih (s' t' : Nat) : parseTemplateLayers bits fuel (dd.pushTemplate s t) (i + 2) s' t' =
          .ok ((dd.pushTemplate s t).pushTemplates (layersFrom (s', t') steps),
            i + 2 + 2 * (steps.length + 1)) :=
        parseTemplateLayers_encoded hrest (Nat.lt_of_succ_lt_succ hfuel)
      rw [hlen]
      rw [parseTemplateLayers, hread]
      cases step with
      | same => exact ih s t
      | nextTemporal => exact ih s (t + 1)
      | nextSpatial => exact ih (s + 1) 0

/-- The templates that were there, and one for each layer. -/
theorem lists_pushTemplates {dd : DependencyDescriptor} {ls : List (Nat × Nat)}
    {l : List FrameDependencyTemplate} (h : Lists dd.templates dd.templateIdOffset l)
    (hcnt : dd.templateCnt = l.length) :
    Lists (dd.pushTemplates ls).templates dd.templateIdOffset (l ++ ls.map bareTemplate) ∧
      (dd.pushTemplates ls).templateCnt = l.length + ls.length ∧
      (dd.pushTemplates ls).templateIdOffset = dd.templateIdOffset ∧
      (dd.pushTemplates ls).dtCnt = dd.dtCnt := by
  induction ls generalizing dd l with
  | nil => exact ⟨by simpa [pushTemplates] using h, by simp [pushTemplates, hcnt], rfl, rfl⟩
  | cons p ls ih =>
      have hp : Lists (dd.pushTemplate p.1 p.2).templates dd.templateIdOffset
          (l ++ [bareTemplate p]) := by
        have := h.push (bareTemplate p)
        rwa [← hcnt] at this
      have hc : (dd.pushTemplate p.1 p.2).templateCnt = (l ++ [bareTemplate p]).length := by
        simp [pushTemplate, hcnt]
      obtain ⟨hl, hn, ho, hd⟩ := @ih (dd.pushTemplate p.1 p.2) _ hp hc
      rw [show dd.pushTemplates (p :: ls) = (dd.pushTemplate p.1 p.2).pushTemplates ls from rfl]
      refine ⟨?_, ?_, ho, hd⟩
      · rw [List.append_assoc] at hl
        exact hl
      · rw [hn]
        simp only [List.length_append, List.length_cons, List.length_nil]
        omega

/-- The indications of one template are read. -/
theorem parseDtis_encoded {offset : Nat} {done rest : List FrameDependencyTemplate} :
    ∀ {row : List Dti} {t : FrameDependencyTemplate} {ts : Templates} {i : Nat},
      Lists ts offset (done ++ t :: rest) → StandsAt bits i (encodeRow row) →
      ∃ ts', parseDtis bits (done.length + offset) row.length ts i = .ok (ts', i + 2 * row.length) ∧
        Lists ts' offset (done ++ t.pushDtis row :: rest)
  | [], t, ts, i, h, _ => ⟨ts, rfl, by simpa [FrameDependencyTemplate.pushDtis] using h⟩
  | dti :: row, t, ts, i, h, hs => by
      have hc : encodeRow (dti :: row) = natBits 2 dti.bits ++ encodeRow row := rfl
      rw [hc] at hs
      have hread : extractBits bits i 2 = .ok dti.bits :=
        hs.left.extractBits dti.bits_lt (by decide) (by decide)
      have hrest : StandsAt bits (i + 2) (encodeRow row) := by
        have := hs.right
        rwa [natBits_length] at this
      obtain ⟨ts', hts', hl⟩ := parseDtis_encoded (h.pushDti dti) hrest
      refine ⟨ts', ?_, ?_⟩
      · rw [List.length_cons, parseDtis, hread, Except.bind_ok, Dti.ofBits_bits, hts',
          show i + 2 + 2 * row.length = i + 2 * (row.length + 1) by omega]
      · simpa [FrameDependencyTemplate.pushDtis] using hl

/-- The indications of all templates from one on are read. -/
theorem parseTemplateDtis_encoded {dtCnt offset : Nat} :
    ∀ {rows : List (List Dti)} {done rest : List FrameDependencyTemplate} {ts : Templates} {i : Nat},
      Lists ts offset (done ++ rest) → rest.length = rows.length →
      (∀ row ∈ rows, row.length = dtCnt) → StandsAt bits i (encodeRows rows) →
      ∃ ts', parseTemplateDtis bits dtCnt offset rows.length done.length ts i
          = .ok (ts', i + 2 * (rows.length * dtCnt)) ∧
        Lists ts' offset (done ++ List.zipWith FrameDependencyTemplate.pushDtis rest rows)
  | [], done, rest, ts, i, h, hl, _, _ => by
      obtain rfl := List.length_eq_zero_iff.mp hl
      exact ⟨ts, by simp [parseTemplateDtis], h⟩
  | row :: rows, done, [], ts, i, _, hl, _, _ => nomatch hl
  | row :: rows, done, t :: rest, ts, i, h, hl, hrow, hs => by
      have hc : encodeRows (row :: rows) = encodeRow row ++ encodeRows rows := rfl
      rw [hc] at hs
      have hn := hrow row List.mem_cons_self
      obtain ⟨ts₁, h₁, hl₁⟩ := parseDtis_encoded h hs.left
      have hrest : StandsAt bits (i + 2 * dtCnt) (encodeRows rows) := by
        have := hs.right
        rwa [encodeRow_length, hn] at this
      have happ : done ++ t.pushDtis row :: rest = done ++ [t.pushDtis row] ++ rest := by simp
      rw [happ] at hl₁
      have hrows : ∀ r ∈ rows, r.length = dtCnt := fun r hr => hrow r (List.mem_cons_of_mem _ hr)
      obtain ⟨ts₂, h₂, hl₂⟩ :=
        parseTemplateDtis_encoded hl₁ (Nat.succ_inj.mp hl) hrows hrest
      rw [List.length_append, List.length_singleton] at h₂
      rw [hn] at h₁
      refine ⟨ts₂, ?_, ?_⟩
      · rw [List.length_cons, parseTemplateDtis, h₁]
        show parseTemplateDtis bits dtCnt offset rows.length (done.length + 1) ts₁ (i + 2 * dtCnt) = _
        rw [h₂, Nat.add_one_mul rows.length dtCnt,
          show i + 2 * dtCnt + 2 * (rows.length * dtCnt) = i + 2 * (rows.length * dtCnt + dtCnt) by omega]
      · simpa using hl₂

theorem parseTemplateDependencyStructure_encoded {dd : DependencyDescriptor} {i : Nat}
    (st : TemplateStructure) (hcnt : dd.templateCnt = 0) (hts : dd.templates = {})
    (h : StandsAt bits i st.encode) :
    ∃ dd', parseTemplateDependencyStructure bits dd i = .ok (dd', i + st.encode.length) ∧
      dd'.dtCnt = st.dtCnt ∧ Lists dd'.templates st.offset st.templates := by
  have hle := h.le
  have hlayers := encodeLayers_length st.steps
  have hrows := encodeRows_length st.row_length
  have hlen : st.encode.length = 11 + 2 * (st.steps.length + 1) + 2 * (st.rows.length * st.dtCnt) := by
    simp only [TemplateStructure.encode, List.length_append, natBits_length, hlayers, hrows]
    omega
  have hoffset : extractBits bits i 6 = .ok st.offset :=
    h.left.extractBits st.offset_lt (by decide) (by decide)
  have h₁ : StandsAt bits (i + 6) (natBits 5 (st.dtCnt - 1) ++
      (encodeLayers st.steps ++ encodeRows st.rows)) := by
    have := h.right
    rwa [natBits_length] at this
  have hdt : extractBits bits (i + 6) 5 = .ok (st.dtCnt - 1) :=
    h₁.left.extractBits (by have := st.dtCnt_le; omega) (by decide) (by decide)
  have h₂ : StandsAt bits (i + 11) (encodeLayers st.steps ++ encodeRows st.rows) := by
    have := h₁.right
    rwa [natBits_length] at this
  have h₃ : StandsAt bits (i + 11 + 2 * (st.steps.length + 1)) (encodeRows st.rows) := by
    have := h₂.right
    rwa [hlayers] at this
  have hpos := st.dtCnt_pos
  have hdt' : st.dtCnt - 1 + 1 = st.dtCnt := Nat.sub_add_cancel hpos
  obtain ⟨dd₀, hdd₀⟩ : ∃ dd₀ : DependencyDescriptor,
    dd₀ = { dd with templateIdOffset := st.offset, dtCnt := st.dtCnt } := ⟨_, rfl⟩
  have hread := @parseTemplateLayers_encoded bits st.steps bits.length (i + 11) 0 0 dd₀ h₂.left
    (by omega)
  have hempty : Lists dd₀.templates dd₀.templateIdOffset [] := by
    rw [hdd₀]
    show Lists dd.templates st.offset []
    rw [hts]
    exact lists_empty _
  have hcnt₀ : dd₀.templateCnt = ([] : List FrameDependencyTemplate).length := by
    rw [hdd₀]
    exact hcnt
  obtain ⟨hl, hn, ho, hd⟩ := @lists_pushTemplates dd₀ (layersFrom (0, 0) st.steps) [] hempty hcnt₀
  have hoff₀ : dd₀.templateIdOffset = st.offset := by rw [hdd₀]
  have hdt₀ : dd₀.dtCnt = st.dtCnt := by rw [hdd₀]
  rw [hoff₀] at hl ho
  rw [hdt₀] at hd
  rw [List.length_nil, Nat.zero_add, layersFrom_length, ← st.rows_length] at hn
  obtain ⟨ts, hdtis, hts'⟩ := parseTemplateDtis_encoded hl
    (by rw [List.length_map, layersFrom_length, st.rows_length]) st.row_length h₃
  refine ⟨{ dd₀.pushTemplates (layersFrom (0, 0) st.steps) with templates := ts }, ?_, hd, ?_⟩
  · rw [List.length_nil] at hdtis
    rw [parseTemplateDependencyStructure, hoffset, Except.bind_ok, hdt, Except.bind_ok, hdt', ← hdd₀]
    show (parseTemplateLayers bits bits.length dd₀ (i + 11) 0 0 >>= _) = _
    rw [hread, Except.bind_ok]
    dsimp only
    rw [hd, ho, hn, hdtis, Except.bind_ok, hlen]
    exact congrArg _ (congrArg _ (by omega))
  · have hz : st.templates = [] ++ List.zipWith FrameDependencyTemplate.pushDtis
        ((layersFrom (0, 0) st.steps).map bareTemplate) st.rows := by
      rw [TemplateStructure.templates, List.nil_append, List.zipWith_map_left]
      rfl
    rw [hz]
    exact hts'

/-- A longer descriptor with the flag for a structure. -/
theorem parse_of_flag {bytes : Buf} (hlen : 3 < bytes.length)
    (hflag : (bitVectorFromBytes bytes).getD 24 false = true) :
    ∃ dd₀ : DependencyDescriptor, dd₀.templateCnt = 0 ∧ dd₀.templates = {} ∧
      parse bytes = (parseTemplateDependencyStructure (bitVectorFromBytes bytes) dd₀ 29).map Prod.fst := by
  match bytes, hlen with
  | b0 :: b1 :: b2 :: b3 :: rest, _ =>
      show ∃ dd₀ : DependencyDescriptor, dd₀.templateCnt = 0 ∧ dd₀.templates = {} ∧
        parseExtendedDescriptorFields (bitVectorFromBytes (b0 :: b1 :: b2 :: b3 :: rest)) _ 24 = _
      generalize bitVectorFromBytes (b0 :: b1 :: b2 :: b3 :: rest) = bits at hflag ⊢
      refine ⟨{
        mandatoryFields := ⟨b0, b1, b2⟩
        templateDependencyStructurePresentFlag := bits.getD 24 false
        activeDecodeTargetsPresentFlag := bits.getD (24 + 1) false
        customDtisFlag := bits.getD (24 + 2) false
        customFdiffsFlag := bits.getD (24 + 3) false
        customChainsFlag := bits.getD (24 + 4) false }, rfl, rfl, ?_⟩
      unfold parseExtendedDescriptorFields
      dsimp only
      rw [if_pos hflag]
      generalize parseTemplateDependencyStructure bits _ (24 + 5) = r
      cases r <;> rfl

/-- The bytes hold 24 mandatory bits, the five flags and a structure. -/
structure Encodes (bytes : Buf) (st : TemplateStructure) (mandatory flags trailing : List Bool) :
    Prop where
  mandatory_length : mandatory.length = 24
  flags_length : flags.length = 4
  bits : bitVectorFromBytes bytes = mandatory ++ true :: flags ++ st.encode ++ trailing

theorem Encodes.long {bytes : Buf} {st : TemplateStructure} {mandatory flags trailing : List Bool}
    (h : Encodes bytes st mandatory flags trailing) : 3 < bytes.length := by
  have hlen := bitVectorFromBytes_length bytes
  have hm := h.mandatory_length
  have hf := h.flags_length
  rw [h.bits] at hlen
  simp only [List.length_append, List.length_cons] at hlen
  omega

/-- A descriptor with a structure lists its templates. -/
theorem parse_encoded {bytes : Buf} {st : TemplateStructure} {mandatory flags trailing : List Bool}
    (h : Encodes bytes st mandatory flags trailing) :
    ∃ dd, parse bytes = .ok dd ∧ dd.dtCnt = st.dtCnt ∧
      Lists dd.templates st.offset st.templates := by
  have hst : StandsAt (bitVectorFromBytes bytes) 29 st.encode :=
    ⟨mandatory ++ true :: flags, trailing, h.bits, by simp [h.mandatory_length, h.flags_length]⟩
  have hflag : (bitVectorFromBytes bytes).getD 24 false = true := by
    have hm := h.mandatory_length
    simp [h.bits, List.getD_eq_getElem?_getD, ← hm]
  obtain ⟨dd₀, hcnt, hts, hparse⟩ := parse_of_flag h.long hflag
  obtain ⟨dd, hdd, hdt, hl⟩ := parseTemplateDependencyStructure_encoded st hcnt hts hst
  exact ⟨dd, by rw [hparse, hdd]; rfl, hdt, hl⟩

/-! ## Truncated structures -/

theorem layersEnd_encoded {steps : List LayerStep} {i : Nat} (h : StandsAt bits i (encodeLayers steps)) :
    LayersEnd bits i steps.length := by
  induction steps generalizing i with
  | nil => exact ⟨fun j hj => absurd hj (Nat.not_lt_zero j), h.bitsAt (by decide)⟩
  | cons step steps ih =>
      have hc : encodeLayers (step :: steps) = natBits 2 step.idc ++ encodeLayers steps := by
        simp [encodeLayers]
      rw [hc] at h
      have hrest := h.right
      rw [natBits_length] at hrest
      have hne : bitsAt bits i 2 ≠ 3 := by
        rw [h.left.bitsAt step.idc_lt]
        cases step <;> decide
      exact LayersEnd.succ hne (ih hrest)

theorem LayersEnd.unique {i k k' : Nat} (h : LayersEnd bits i k) (h' : LayersEnd bits i k') :
    k = k' := by
  rcases Nat.lt_trichotomy k k' with hlt | he | hlt
  · exact absurd h.2 (h'.1 k hlt)
  · exact he
  · exact absurd h'.2 (h.1 k' hlt)

theorem bitsAt_take {n i w : Nat} (h : i + w ≤ n) : bitsAt (bits.take n) i w = bitsAt bits i w := by
  unfold bitsAt
  rw [List.drop_take, List.take_take, Nat.min_eq_left (by omega)]

/-- A structure that fits ends where its encoding does. -/
theorem StructureFits.le_of_encoded {st : TemplateStructure} {n i : Nat}
    (h : StandsAt bits i st.encode) (hn : n ≤ bits.length) (hfits : StructureFits (bits.take n) i) :
    i + st.encode.length ≤ n := by
  obtain ⟨k, hend, hle⟩ := hfits
  rw [List.length_take, Nat.min_eq_left hn] at hle
  have hlayers := encodeLayers_length st.steps
  have hrows := encodeRows_length st.row_length
  have h₁ := h.right
  rw [natBits_length] at h₁
  have h₂ := h₁.right
  rw [natBits_length] at h₂
  have hdt : bitsAt bits (i + 6) 5 = st.dtCnt - 1 :=
    h₁.left.bitsAt (by have := st.dtCnt_le; omega)
  have hend' : LayersEnd bits (i + 11) k := by
    constructor
    · intro j hj
      rw [← bitsAt_take (show i + 11 + 2 * j + 2 ≤ n by omega)]
      exact hend.1 j hj
    · rw [← bitsAt_take (show i + 11 + 2 * k + 2 ≤ n by omega)]
      exact hend.2
  have hk := LayersEnd.unique hend' (layersEnd_encoded h₂.left)
  have hpos := st.dtCnt_pos
  rw [bitsAt_take (by omega), hdt, hk, Nat.sub_add_cancel hpos] at hle
  simp only [TemplateStructure.encode, List.length_append, natBits_length, hlayers, hrows,
    st.rows_length]
  omega

theorem bitVectorFromBytes_take (bytes : Buf) (n : Nat) :
    bitVectorFromBytes (bytes.take n) = (bitVectorFromBytes bytes).take (8 * n) := by
  have hsplit : bitVectorFromBytes bytes
      = bitVectorFromBytes (bytes.take n) ++ bitVectorFromBytes (bytes.drop n) := by
    unfold bitVectorFromBytes
    rw [← List.flatMap_append, List.take_append_drop]
  have hlen := bitVectorFromBytes_length (bytes.take n)
  by_cases hn : n ≤ bytes.length
  · rw [List.length_take, Nat.min_eq_left hn] at hlen
    rw [hsplit, List.take_left' hlen]
  · rw [List.take_of_length_le (by omega), List.take_of_length_le]
    rw [bitVectorFromBytes_length]
    omega

/-- Bytes that end before the structure does, but after the mandatory fields. -/
theorem parse_truncated {bytes : Buf} {st : TemplateStructure} {mandatory flags trailing : List Bool}
    (h : Encodes bytes st mandatory flags trailing) {n : Nat} (hn : 8 * n < 29 + st.encode.length)
    (h3 : n ≠ 3) : ∃ e, parse (bytes.take n) = .error e := by
  have hst : StandsAt (bitVectorFromBytes bytes) 29 st.encode :=
    ⟨mandatory ++ true :: flags, trailing, h.bits, by simp [h.mandatory_length, h.flags_length]⟩
  have hle := hst.le
  have hlen := bitVectorFromBytes_length bytes
  cases hp : parse (bytes.take n) with
  | error e => exact ⟨e, rfl⟩
  | ok dd =>
      have hnot := (parse_ok_iff (bytes.take n)).mp ⟨dd, hp⟩
      have htake : (bytes.take n).length = n := by
        rw [List.length_take]
        omega
      unfold MalformedDescriptor at hnot
      rw [htake, bitVectorFromBytes_take] at hnot
      have h4 : 4 ≤ n := by
        by_contra hlt
        exact hnot (.inl (by omega))
      have hflag : ((bitVectorFromBytes bytes).take (8 * n)).getD 24 false = true := by
        have hm := h.mandatory_length
        have hbit : (bitVectorFromBytes bytes)[24]? = some true := by simp [h.bits, ← hm]
        rw [List.getD_eq_getElem?_getD, List.getElem?_take_of_lt (by omega), hbit]
        rfl
      have hfits : StructureFits ((bitVectorFromBytes bytes).take (8 * n)) 29 := by
        by_contra hno
        exact hnot (.inr ⟨h4, hflag, hno⟩)
      have := StructureFits.le_of_encoded hst (by omega) hfits
      omega

end Parsed

end DependencyDescriptor

/-! ## What is read -/

/-- `bits[i]`; outside of the vector it is a fault. -/
def readBit (bits : List Bool) (i : Nat) : Except Fault Bool :=
  match bits[i]? with
  | some b => .ok b
  | none => .error .outOfBounds

/-- `util::extractBits`, with the reads of its loop. -/
def extractBitsReading (bits : List Bool) (start len : Nat) : Except Fault Nat :=
  if start + len > bits.length then
    .error (.invalidArgument "util:extractBits: requested range outside of bit vector")
  else if len > 32 ∨ len < 1 then
    .error (.invalidArgument "util:extractBits: len must be > 0 and <= 32")
  else (List.range' start len).foldlM (fun a i => do
    let b ← readBit bits i
    return 2 * a + b.toNat) 0

section Reading
variable {bits : List Bool}

theorem readBit_of_lt {i : Nat} (h : i < bits.length) : readBit bits i = .ok (bits.getD i false) := by
  unfold readBit
  rw [List.getD_eq_getElem?_getD, List.getElem?_eq_getElem h]
  rfl

theorem extractBitsReading_eq (start len : Nat) :
    extractBitsReading bits start len = extractBits bits start len := by
  have hfold (n start acc : Nat) (h : start + n ≤ bits.length) :
      (List.range' start n).foldlM (fun a i => do
        let b ← readBit bits i
        return 2 * a + b.toNat) acc
        = .ok (((bits.drop start).take n).foldl (fun a b => 2 * a + b.toNat) acc) := by
    induction n generalizing start acc with
    | zero => rfl
    | succ n ih =>
        have hlt : start < bits.length := by omega
        have hget : bits.getD start false = bits[start] := by
          rw [List.getD_eq_getElem?_getD, List.getElem?_eq_getElem hlt]
          rfl
        rw [List.range'_succ, List.foldlM_cons, readBit_of_lt hlt, Except.bind_ok, hget,
          List.drop_eq_getElem_cons hlt, List.take_succ_cons, List.foldl_cons]
        exact ih (start + 1) _ (by omega)
  unfold extractBitsReading extractBits
  by_cases hle : start + len > bits.length
  · rw [if_pos hle, if_pos hle]
  · rw [if_neg hle, if_neg hle]
    split
    · rfl
    · exact hfold len start 0 (by omega)

end Reading

namespace DependencyDescriptor

/-- The loop of `_parse_template_layers` as it is, and what it comes to. -/
inductive LayersLoop (bits : List Bool) :
    DependencyDescriptor → Nat → Nat → Nat → Except Fault (DependencyDescriptor × Nat) → Prop
  | throws {dd : DependencyDescriptor} {i s t : Nat} {e : Fault}
      (h : extractBitsReading bits i 2 = .error e) : LayersLoop bits dd i s t (.error e)
  | stop {dd : DependencyDescriptor} {i s t : Nat} (h : extractBitsReading bits i 2 = .ok 3) :
      LayersLoop bits dd i s t (.ok (dd.pushTemplate s t, i + 2))
  | again {dd : DependencyDescriptor} {i s t : Nat} {r : Except Fault (DependencyDescriptor × Nat)}
      (step : LayerStep) (h : extractBitsReading bits i 2 = .ok step.idc)
      (hr : LayersLoop bits (dd.pushTemplate s t) (i + 2) (step.move (s, t)).1 (step.move (s, t)).2 r) :
      LayersLoop bits dd i s t r

section Reading
variable {bits : List Bool}

/-- The loop ends: every round reads two bits. -/
theorem layersLoop_parse {fuel : Nat} {dd : DependencyDescriptor} {i s t : Nat}
    (h : bits.length < i + 2 * fuel + 2) :
    LayersLoop bits dd i s t (parseTemplateLayers bits fuel dd i s t) := by
  induction fuel generalizing dd i s t with
  | zero =>
      apply LayersLoop.throws
      rw [extractBitsReading_eq, extractBits, if_pos (by omega)]
  | succ fuel ih =>
      have ih (s' t' : Nat) : LayersLoop bits (dd.pushTemplate s t) (i + 2) s' t'
          (parseTemplateLayers bits fuel (dd.pushTemplate s t) (i + 2) s' t') := ih (by omega)
      rw [parseTemplateLayers]
      cases hread : extractBits bits i 2 with
      | error e => exact LayersLoop.throws ((extractBitsReading_eq i 2).trans hread)
      | ok idc =>
          have hr := (extractBitsReading_eq i 2).trans hread
          have hlt : idc < 4 := by
            rw [(extractBits_ok hread).2]
            exact bitsAt_two i
          rcases idc with _ | _ | _ | _ | idc
          · exact LayersLoop.again .same hr (ih s t)
          · exact LayersLoop.again .nextTemporal hr (ih s (t + 1))
          · exact LayersLoop.again .nextSpatial hr (ih (s + 1) 0)
          · exact LayersLoop.stop hr
          · omega

theorem LayersLoop.unique {dd : DependencyDescriptor} {i s t : Nat}
    {r r' : Except Fault (DependencyDescriptor × Nat)} (h : LayersLoop bits dd i s t r)
    (h' : LayersLoop bits dd i s t r') : r = r' := by
  induction h with
  | throws h =>
      cases h' with
      | throws h' => exact congrArg Except.error (Except.error.inj (h.symm.trans h'))
      | stop h' => exact nomatch h.symm.trans h'
      | again _ h' _ => exact nomatch h.symm.trans h'
  | stop h =>
      cases h' with
      | throws h' => exact nomatch h.symm.trans h'
      | stop h' => rfl
      | again step h' _ =>
          have he := Except.ok.inj (h.symm.trans h')
          cases step <;> exact nomatch he
  | again step h _ ih =>
      cases h' with
      | throws h' => exact nomatch h.symm.trans h'
      | stop h' =>
          have he := Except.ok.inj (h.symm.trans h')
          cases step <;> exact nomatch he
      | again step' h' hr' =>
          have he := Except.ok.inj (h.symm.trans h')
          have hstep : step = step' := by
            cases step <;> cases step' <;> first | rfl | exact nomatch he
          subst hstep
          exact ih hr'

end Reading

/-- The inner loop of `_parse_template_dtis`, over what it reads with. -/
def dtisLoop (extract : Nat → Nat → Except Fault Nat) (id : Nat) :
    Nat → Templates → Nat → Except Fault (Templates × Nat)
  | 0, templates, i => .ok (templates, i)
  | n + 1, templates, i => do
      let dti ← extract i 2
      dtisLoop extract id n (pushDti templates id (Dti.ofBits dti)) (i + 2)

def templateDtisLoop (extract : Nat → Nat → Except Fault Nat) (dtCnt offset : Nat) :
    Nat → Nat → Templates → Nat → Except Fault (Templates × Nat)
  | 0, _, templates, i => .ok (templates, i)
  | n + 1, index, templates, i => do
      let (templates, i) ← dtisLoop extract (index + offset) dtCnt templates i
      templateDtisLoop extract dtCnt offset n (index + 1) templates i

/-- The constructor with the reads that it makes, and with what the loop over the layers comes to. -/
def parseReading (loop : DependencyDescriptor → Nat → Except Fault (DependencyDescriptor × Nat)) :
    Buf → Except Fault DependencyDescriptor
  | [b0, b1, b2] => .ok { mandatoryFields := ⟨b0, b1, b2⟩ }
  | b0 :: b1 :: b2 :: rest => do
      let bits := bitVectorFromBytes (b0 :: b1 :: b2 :: rest)
      let templateDependencyStructurePresentFlag ← readBit bits 24
      let activeDecodeTargetsPresentFlag ← readBit bits 25
      let customDtisFlag ← readBit bits 26
      let customFdiffsFlag ← readBit bits 27
      let customChainsFlag ← readBit bits 28
      let dd : DependencyDescriptor :=
        { mandatoryFields := ⟨b0, b1, b2⟩, templateDependencyStructurePresentFlag
          activeDecodeTargetsPresentFlag, customDtisFlag, customFdiffsFlag, customChainsFlag }
      if templateDependencyStructurePresentFlag then
        let offset ← extractBitsReading bits 29 6
        let dtCntMinusOne ← extractBitsReading bits 35 5
        let (dd, i) ← loop { dd with templateIdOffset := offset, dtCnt := dtCntMinusOne + 1 } 40
        let (templates, _) ← templateDtisLoop (extractBitsReading bits) dd.dtCnt dd.templateIdOffset
          dd.templateCnt 0 dd.templates i
        return { dd with templates }
      else return dd
  | _ => .error (.logicError "av1::DependencyDescriptor: len must be at least 3")

def Parses (bytes : Buf) (r : Except Fault DependencyDescriptor) : Prop :=
  ∃ loop, (∀ dd i, LayersLoop (bitVectorFromBytes bytes) dd i 0 0 (loop dd i)) ∧
    r = parseReading loop bytes

theorem templateDtisLoop_eq {bits : List Bool} {dtCnt offset n index i : Nat} {ts : Templates} :
    templateDtisLoop (extractBitsReading bits) dtCnt offset n index ts i
      = parseTemplateDtis bits dtCnt offset n index ts i := by
  have hinner (id n : Nat) (ts : Templates) (i : Nat) :
      dtisLoop (extractBitsReading bits) id n ts i = parseDtis bits id n ts i := by
    induction n generalizing ts i with
    | zero => rfl
    | succ n ih =>
        rw [dtisLoop, parseDtis, extractBitsReading_eq]
        cases extractBits bits i 2 with
        | error e => rfl
        | ok dti => exact ih _ _
  induction n generalizing index ts i with
  | zero => rfl
  | succ n ih =>
      rw [templateDtisLoop, parseTemplateDtis, hinner]
      cases parseDtis bits (index + offset) dtCnt ts i with
      | error e => rfl
      | ok r => exact ih

/-- With the loop that ends, the reads stay inside. -/
theorem parseReading_eq (bytes : Buf) :
    parseReading (fun dd i => parseTemplateLayers (bitVectorFromBytes bytes)
      (bitVectorFromBytes bytes).length dd i 0 0) bytes = parse bytes := by
  match bytes with
  | [] => rfl
  | [_] => rfl
  | [_, _] => rfl
  | [_, _, _] => rfl
  | b0 :: b1 :: b2 :: b3 :: rest =>
      have hlen := bitVectorFromBytes_length (b0 :: b1 :: b2 :: b3 :: rest)
      simp only [List.length_cons] at hlen
      show _ = parseExtendedDescriptorFields (bitVectorFromBytes (b0 :: b1 :: b2 :: b3 :: rest)) _ 24
      rw [parseReading]
      case x_1 => exact fun h => nomatch h
      dsimp only
      generalize bitVectorFromBytes (b0 :: b1 :: b2 :: b3 :: rest) = bits at hlen ⊢
      rw [readBit_of_lt (by omega), Except.bind_ok, readBit_of_lt (by omega), Except.bind_ok,
        readBit_of_lt (by omega), Except.bind_ok, readBit_of_lt (by omega), Except.bind_ok,
        readBit_of_lt (by omega), Except.bind_ok]
      unfold parseExtendedDescriptorFields
      dsimp only
      by_cases hflag : bits.getD 24 false = true
      · rw [if_pos hflag, if_pos hflag]
        unfold parseTemplateDependencyStructure
        simp only [extractBitsReading_eq, templateDtisLoop_eq, bind_assoc, pure_bind, Nat.reduceAdd]
      · rw [if_neg hflag, if_neg hflag]

/-- The loop is a do-while loop over what `parseTemplateLayers` reads: the constructor comes to what
`parse` says, and to nothing else. -/
theorem parses_iff (bytes : Buf) (r : Except Fault DependencyDescriptor) :
    Parses bytes r ↔ r = parse bytes := by
  have hloop (dd : DependencyDescriptor) (i : Nat) :=
    @layersLoop_parse (bitVectorFromBytes bytes) (bitVectorFromBytes bytes).length dd i 0 0 (by omega)
  constructor
  · rintro ⟨loop, h, rfl⟩
    rw [← parseReading_eq]
    congr 1
    funext dd i
    exact (h dd i).unique (hloop dd i)
  · intro h
    exact ⟨_, hloop, h.trans (parseReading_eq bytes).symm⟩

theorem parse_defined (bytes : Buf) :
    (parse bytes).Ensures (fun _ => True) fun e => ¬ e.IsUndefined := by
  have hread (bits : List Bool) (i len : Nat) :
      (extractBits bits i len).Ensures (fun _ => True) fun e => ¬ e.IsUndefined := by
    unfold extractBits
    split
    · simp [Except.Ensures, Fault.IsUndefined]
    · split <;> simp [Except.Ensures, Fault.IsUndefined]
  have hlayers (bits : List Bool) (fuel : Nat) (dd : DependencyDescriptor) (i s t : Nat) :
      (parseTemplateLayers bits fuel dd i s t).Ensures (fun _ => True) fun e => ¬ e.IsUndefined := by
    induction fuel generalizing dd i s t with
    | zero => simp [parseTemplateLayers, Except.Ensures, Fault.IsUndefined]
    | succ fuel ih =>
        apply (hread bits i 2).bind
        intro idc _
        split <;> first | exact ih _ _ _ _ | trivial
  have hdtis (bits : List Bool) (id n : Nat) (ts : Templates) (i : Nat) :
      (parseDtis bits id n ts i).Ensures (fun _ => True) fun e => ¬ e.IsUndefined := by
    induction n generalizing ts i with
    | zero => trivial
    | succ n ih => exact (hread bits i 2).bind fun _ _ => ih _ _
  have hrows (bits : List Bool) (dtCnt offset n index : Nat) (ts : Templates) (i : Nat) :
      (parseTemplateDtis bits dtCnt offset n index ts i).Ensures (fun _ => True)
        fun e => ¬ e.IsUndefined := by
    induction n generalizing index ts i with
    | zero => trivial
    | succ n ih => exact (hdtis bits _ _ ts i).bind fun _ _ => ih _ _ _
  have hstructure (bits : List Bool) (dd : DependencyDescriptor) (i : Nat) :
      (parseTemplateDependencyStructure bits dd i).Ensures (fun _ => True)
        fun e => ¬ e.IsUndefined := by
    apply (hread bits i 6).bind
    intro offset _
    apply (hread bits (i + 6) 5).bind
    intro dtCnt _
    apply (hlayers bits _ _ _ _ _).bind
    intro r _
    exact (hrows bits _ _ _ _ _ _).bind fun _ _ => trivial
  rcases bytes with _ | ⟨b0, _ | ⟨b1, _ | ⟨b2, _ | ⟨b3, rest⟩⟩⟩⟩
  · simp [parse, Except.Ensures, Fault.IsUndefined]
  · simp [parse, Except.Ensures, Fault.IsUndefined]
  · simp [parse, Except.Ensures, Fault.IsUndefined]
  · trivial
  · show (parseExtendedDescriptorFields (bitVectorFromBytes (b0 :: b1 :: b2 :: b3 :: rest)) _ 24).Ensures
      _ _
    unfold parseExtendedDescriptorFields
    dsimp only
    split
    · exact (hstructure _ _ _).bind fun _ _ => trivial
    · trivial

/-- Structures are decoded, and nothing else: a structure that is cut off is rejected, no bit is read
outside of the vector, and the loops end. -/
theorem parse_structure :
    (∀ bytes, (∀ r, Parses bytes r ↔ r = parse bytes) ∧
      ∀ e, parse bytes = .error e → ¬ e.IsUndefined) ∧
    ∀ bytes st mandatory flags trailing, Encodes bytes st mandatory flags trailing →
      (∃ dd, parse bytes = .ok dd ∧ dd.dtCnt = st.dtCnt ∧
        Lists dd.templates st.offset st.templates) ∧
      ∀ n, 8 * n < 29 + st.encode.length → n ≠ 3 → ∃ e, parse (bytes.take n) = .error e := by
  refine ⟨fun bytes => ⟨parses_iff bytes, fun e he => (parse_defined bytes).of_error he⟩, ?_⟩
  intro bytes st mandatory flags trailing h
  exact ⟨parse_encoded h, fun n hn h3 => parse_truncated h hn h3⟩

def twoTemplates : TemplateStructure where
  offset := 5
  dtCnt := 2
  steps := [.nextTemporal]
  rows := [[.switchIndication, .requiredIndication], [.notPresentIndication, .discardableIndication]]
  offset_lt := by decide
  dtCnt_pos := by decide
  dtCnt_le := by decide
  rows_length := rfl
  row_length := by decide

theorem encodes_twoTemplates : Encodes [0x81, 0, 7, 0x80, 0xA1, 0x7B, 0x1F] twoTemplates
    (bitVectorFromBytes [0x81, 0, 7]) [false, false, false, false] [true, true, true, true] where
  mandatory_length := rfl
  flags_length := rfl
  bits := by decide

theorem parse_structure_twoTemplates :
    (∃ dd, parse [0x81, 0, 7, 0x80, 0xA1, 0x7B, 0x1F] = .ok dd ∧ dd.dtCnt = 2 ∧
      Lists dd.templates 5 twoTemplates.templates) ∧
    ∀ n, 8 * n < 52 → n ≠ 3 →
      ∃ e, parse ((([0x81, 0, 7, 0x80, 0xA1, 0x7B, 0x1F] : Buf)).take n) = .error e :=
  parse_structure.2 _ _ _ _ _ encodes_twoTemplates

/-- Every structure has an encoding, with any bits around it that fill up the bytes. -/
theorem exists_encodes (st : TemplateStructure) {mandatory flags trailing : List Bool}
    (hm : mandatory.length = 24) (hf : flags.length = 4)
    (h8 : (29 + st.encode.length + trailing.length) % 8 = 0) :
    ∃ bytes, Encodes bytes st mandatory flags trailing := by
  have hbyte (b7 b6 b5 b4 b3 b2 b1 b0 : Bool) :
      ∃ b : UInt8, [7, 6, 5, 4, 3, 2, 1, 0].map (fun j => decide ((b >>> j) &&& 1 = 1))
        = [b7, b6, b5, b4, b3, b2, b1, b0] :=
    ⟨UInt8.ofNat (bitsToNat [b7, b6, b5, b4, b3, b2, b1, b0]), by decide +revert⟩
  have hbytes (n : Nat) : ∀ bits : List Bool, bits.length = 8 * n →
      ∃ bytes, bitVectorFromBytes bytes = bits := by
    induction n with
    | zero => exact fun bits hl => ⟨[], (List.length_eq_zero_iff.mp hl).symm⟩
    | succ n ih =>
        intro bits hl
        match bits, hl with
        | b7 :: b6 :: b5 :: b4 :: b3 :: b2 :: b1 :: b0 :: rest, hl =>
            obtain ⟨b, hb⟩ := hbyte b7 b6 b5 b4 b3 b2 b1 b0
            obtain ⟨bytes, hbytes⟩ := ih rest (by simp only [List.length_cons] at hl; omega)
            refine ⟨b :: bytes, ?_⟩
            have hc : bitVectorFromBytes (b :: bytes)
                = [7, 6, 5, 4, 3, 2, 1, 0].map (fun j => decide ((b >>> j) &&& 1 = 1))
                  ++ bitVectorFromBytes bytes := rfl
            rw [hc, hb, hbytes]
            rfl
        | [], hl | [_], hl | [_, _], hl | [_, _, _], hl | [_, _, _, _], hl | [_, _, _, _, _], hl
        | [_, _, _, _, _, _], hl | [_, _, _, _, _, _, _], hl =>
            simp only [List.length_cons, List.length_nil] at hl
            omega
  obtain ⟨bytes, hbits⟩ := hbytes ((29 + st.encode.length + trailing.length) / 8)
    (mandatory ++ true :: flags ++ st.encode ++ trailing) (by
      simp only [List.length_append, List.length_cons]
      omega)
  exact ⟨bytes, hm, hf, hbits⟩

/-! ## Under the ids of packets -/

/-- Templates are found under the ids that packets use iff these do not wrap. -/
theorem found_iff {bytes : Buf} {st : TemplateStructure} {mandatory flags trailing : List Bool}
    (h : Encodes bytes st mandatory flags trailing) (hn : st.count ≤ 64) {dd : DependencyDescriptor}
    (hdd : parse bytes = .ok dd) :
    ((∀ (m : MandatoryFields), ∀ k < st.count, m.templateId = (st.offset + k) % 64 →
        dd.templates[m.templateId]? = st.templates[k]?) ∧
      ∀ id ∈ dd.templates, id < 64) ↔ st.offset + st.count ≤ 64 := by
  obtain ⟨dd', hdd', -, hl⟩ := parse_encoded h
  obtain rfl := Except.ok.inj (hdd.symm.trans hdd')
  have hlen := st.templates_length
  constructor
  · rintro ⟨-, hkeys⟩
    have hpos : 0 < st.count := Nat.succ_pos _
    have hmem : st.offset + (st.count - 1) ∈ dd.templates := by
      rw [Std.ExtTreeMap.mem_iff_isSome_getElem?, hl, if_pos (Nat.le_add_right _ _),
        Nat.add_sub_cancel_left, List.getElem?_eq_getElem (by omega)]
      rfl
    have := hkeys _ hmem
    omega
  · intro hle
    refine ⟨fun m k hk hm => ?_, fun id hid => ?_⟩
    · rw [hm, Nat.mod_eq_of_lt (by omega), hl, if_pos (Nat.le_add_right _ _), Nat.add_sub_cancel_left]
    · rw [Std.ExtTreeMap.mem_iff_isSome_getElem?, hl] at hid
      by_contra hlt
      rw [if_pos (by have := st.offset_lt; omega), List.getElem?_eq_none (by omega)] at hid
      exact nomatch hid

theorem found_iff_twoTemplates :
    ∃ dd, parse [0x81, 0, 7, 0x80, 0xA1, 0x7B, 0x1F] = .ok dd ∧
      dd.templates[6]? = some {
        spatialLayerId := 0
        temporalLayerId := 1
        dtis := [.notPresentIndication, .discardableIndication] } := by
  obtain ⟨dd, hdd, -⟩ := parse_encoded encodes_twoTemplates
  exact ⟨dd, hdd, ((found_iff encodes_twoTemplates (by decide) hdd).mpr (by decide)).1 ⟨6, 0, 8⟩ 1
    (by decide) (by decide)⟩

def wrappingTemplates : TemplateStructure where
  offset := 62
  dtCnt := 1
  steps := [.same, .same, .same]
  rows := [[.switchIndication], [.switchIndication], [.switchIndication], [.switchIndication]]
  offset_lt := by decide
  dtCnt_pos := by decide
  dtCnt_le := by decide
  rows_length := rfl
  row_length := by decide

/-- The third of them has the id 0 in a packet, and is found under 64. -/
theorem wrapped_not_found :
    Encodes [0xBE, 0, 7, 0x87, 0xC0, 0x03, 0xAA] wrappingTemplates (bitVectorFromBytes [0xBE, 0, 7])
      [false, false, false, false] [] ∧
    ∃ dd, parse [0xBE, 0, 7, 0x87, 0xC0, 0x03, 0xAA] = .ok dd ∧
      (⟨0x80, 0, 9⟩ : MandatoryFields).templateId = (wrappingTemplates.offset + 2) % 64 ∧
      dd.templates[(⟨0x80, 0, 9⟩ : MandatoryFields).templateId]? = none ∧
      dd.templates[64]? = wrappingTemplates.templates[2]? := by
  have h : Encodes [0xBE, 0, 7, 0x87, 0xC0, 0x03, 0xAA] wrappingTemplates
      (bitVectorFromBytes [0xBE, 0, 7]) [false, false, false, false] [] :=
    ⟨rfl, rfl, by decide⟩
  obtain ⟨dd, hdd, -, hl⟩ := parse_encoded h
  exact ⟨h, dd, hdd, rfl, hl 0, hl 64⟩

end DependencyDescriptor

end Av1

end Scallop
