import Scallop.DataPlane.Extensions

/-!
# What the walk over header extensions reads

The walk of `hdr::extension_ptrs` does not know the length of the datagram.

* `WalkLoop` : the loop as it is, and what it comes to; `walkLoop_walk` : it ends;
* `ReadsInBounds` : all reads are inside of the datagram, all copies fit their array, and the loop ends;
* `Elements` : padding and whole elements up to the announced end; `ExtensionsFit` : a header with them;
* `readsInBounds_iff` : reads are in bounds iff the extensions fit.
-/

namespace Scallop

namespace Rtp

section Loop
variable (buf : Buf) (profile : ExtProfile) (stop : Nat)

/-- The loop of `extension_ptrs` as it is, and what it comes to. -/
inductive WalkLoop : Nat → Except Fault (List Nat) → Prop
  | done {i : Nat} (h : stop ≤ i) : WalkLoop i (.ok [])
  | unread {i : Nat} {e : Fault} (h : i < stop) (hb : buf.readByte (12 + i) = .error e) :
      WalkLoop i (.error e)
  | padding {i : Nat} {r : Except Fault (List Nat)} (h : i < stop) (hb : buf.readByte (12 + i) = .ok 0)
      (hr : WalkLoop (i + 1) r) : WalkLoop i r
  | unreadLen {i : Nat} {b : UInt8} {e : Fault} (h : i < stop) (hb : buf.readByte (12 + i) = .ok b)
      (hne : b ≠ 0) (hlen : extLen buf (12 + i) profile = .error e) : WalkLoop i (.error e)
  | element {i : Nat} {b : UInt8} {len : Nat} {r : Except Fault (List Nat)} (h : i < stop)
      (hb : buf.readByte (12 + i) = .ok b) (hne : b ≠ 0) (hlen : extLen buf (12 + i) profile = .ok len)
      (hr : WalkLoop (i + (len + extHdrLen profile)) r) :
      WalkLoop i (r.map fun ps => (12 + i) :: ps)

end Loop

section Walk
variable {buf : Buf} {profile : ExtProfile} {stop : Nat}

theorem walkLoop_walk (hprofile : 0 < extHdrLen profile) {fuel i : Nat} (h : stop ≤ i + fuel) :
    WalkLoop buf profile stop i (walkExtensions buf profile (extHdrLen profile) stop fuel i) := by
  induction fuel generalizing i with
  | zero => exact .done h
  | succ fuel ih =>
      rw [walkExtensions]
      by_cases hi : i < stop
      · rw [if_pos hi]
        cases hb : buf.readByte (12 + i) with
        | error e => exact .unread hi hb
        | ok b =>
            rw [Except.bind_ok]
            by_cases hne : b ≠ 0
            · rw [if_pos hne]
              cases hlen : extLen buf (12 + i) profile with
              | error e => exact .unreadLen hi hb hne hlen
              | ok len =>
                  have hr := @ih (i + (len + extHdrLen profile)) (by omega)
                  rw [Except.bind_ok]
                  have hw := WalkLoop.element hi hb hne hlen hr
                  generalize walkExtensions buf profile (extHdrLen profile) stop fuel
                    (i + (len + extHdrLen profile)) = r at hw ⊢
                  cases r <;> exact hw
            · rw [if_neg hne]
              obtain rfl := not_not.mp hne
              exact .padding hi hb (ih (by omega))
      · rw [if_neg hi]
        exact .done (by omega)

end Walk

/-- `hdr::extension_profile`; without extensions the header of the profile is a null pointer. -/
def headerExtensionProfile (buf : Buf) : Except Fault ExtProfile :=
  if extension buf then extensionProfile buf else .error .outOfBounds

/-- Reads are inside of the datagram, copies fit, and the walk ends. -/
structure ReadsInBounds (buf : Buf) : Prop where
  profile : ∃ profile, headerExtensionProfile buf = .ok profile
  ptrs : ∃ ps, extensionPtrs buf = .ok ps
  ptr : ∀ type, ∃ p, extensionPtr buf type = .ok p
  copies : ∃ es, extensions buf = .ok es
  ends : ∀ profile, profile ≠ .other → ∀ stop, ∃ r, WalkLoop buf profile stop 4 r

/-! ## Elements that fit -/

/-- The length of the data of the extension at `p`. -/
def dataLen (buf : Buf) (p : Nat) : ExtProfile → Nat
  | .oneByte => (buf.u8 p &&& 0x0f).toNat + 1
  | .twoByte => (buf.u8 (p + 1)).toNat
  | .other => 0

/-- The extension at `p` is inside of the datagram, and its data fit an array of 128 bytes. -/
def FitsAt (buf : Buf) (profile : ExtProfile) (p : Nat) : Prop :=
  p + extHdrLen profile + dataLen buf p profile ≤ buf.length ∧ dataLen buf p profile ≤ 128

/-- From the offset `i` on there are padding and whole extensions, up to the announced end. -/
inductive Elements (buf : Buf) (profile : ExtProfile) (stop : Nat) : Nat → Prop
  | done {i : Nat} (h : stop ≤ i) : Elements buf profile stop i
  | padding {i : Nat} (h : i < stop) (hin : 12 + i < buf.length) (hb : buf.u8 (12 + i) = 0)
      (hr : Elements buf profile stop (i + 1)) : Elements buf profile stop i
  | element {i : Nat} (h : i < stop) (hb : buf.u8 (12 + i) ≠ 0) (hfits : FitsAt buf profile (12 + i))
      (hr : Elements buf profile stop (i + (dataLen buf (12 + i) profile + extHdrLen profile))) :
      Elements buf profile stop i

def profileAt (buf : Buf) : ExtProfile :=
  if buf.u8 12 = 0xbe ∧ buf.u8 13 = 0xde then .oneByte
  else if buf.u8 12 = 0x10 ∧ buf.u8 13 = 0x00 then .twoByte
  else .other

def announced (buf : Buf) : Nat :=
  (((buf.u8 14).toUInt16 <<< 8 + (buf.u8 15).toUInt16) * 4).toNat

/-- A datagram whose header has extensions, all of them there. -/
structure ExtensionsFit (buf : Buf) : Prop where
  extension : extension buf = true
  profile : 14 ≤ buf.length
  elements : csrcCount buf = 0 → profileAt buf ≠ .other →
    16 ≤ buf.length ∧ Elements buf (profileAt buf) (announced buf + 4) 4

section Bounds
variable {buf : Buf} {profile : ExtProfile} {stop : Nat}

theorem lt_of_readByte {i : Nat} {b : UInt8} (h : buf.readByte i = .ok b) : i < buf.length := by
  by_contra hlt
  unfold Buf.readByte at h
  rw [List.getElem?_eq_none (by omega)] at h
  exact nomatch h

theorem extHdrLen_pos (h : profile ≠ .other) : 0 < extHdrLen profile := by
  cases profile with
  | oneByte => decide
  | twoByte => decide
  | other => exact absurd rfl h

theorem extLen_ok {p len : Nat} (h : extLen buf p profile = .ok len) : len = dataLen buf p profile := by
  cases profile with
  | oneByte =>
      obtain ⟨b, hb, h⟩ := Except.of_bind_ok h
      rw [dataLen, ← Buf.readByte_ok hb]
      exact (Except.ok.inj h).symm
  | twoByte =>
      obtain ⟨b, hb, h⟩ := Except.of_bind_ok h
      rw [dataLen, ← Buf.readByte_ok hb]
      exact (Except.ok.inj h).symm
  | other => exact nomatch h

theorem extLen_of_fits {p : Nat} (hp : profile ≠ .other) (h : FitsAt buf profile p) :
    extLen buf p profile = .ok (dataLen buf p profile) := by
  have hfits := h.1
  cases profile with
  | oneByte =>
      have hlt : p < buf.length := by simp only [extHdrLen] at hfits; omega
      rw [extLen, Buf.readByte_of_lt hlt]
      rfl
  | twoByte =>
      have hlt : p + 1 < buf.length := by simp only [extHdrLen] at hfits; omega
      rw [extLen, Buf.readByte_of_lt hlt]
      rfl
  | other => exact absurd rfl hp

theorem extType_of_fits {p : Nat} (hp : profile ≠ .other) (h : FitsAt buf profile p) :
    ∃ type, extType buf p profile = .ok type := by
  have hpos := extHdrLen_pos hp
  have hlt : p < buf.length := by
    have := h.1
    omega
  cases profile with
  | oneByte =>
      rw [extType, Buf.readByte_of_lt hlt]
      exact ⟨_, rfl⟩
  | twoByte =>
      rw [extType, Buf.readByte_of_lt hlt]
      exact ⟨_, rfl⟩
  | other => exact absurd rfl hp

theorem ofBuf_ok_iff {p : Nat} (hp : profile ≠ .other) :
    (∃ e, Ext.ofBuf buf p profile = .ok e) ↔ FitsAt buf profile p := by
  constructor
  · rintro ⟨e, h⟩
    obtain ⟨type, -, h⟩ := Except.of_bind_ok h
    obtain ⟨len, hlen, h⟩ := Except.of_bind_ok h
    obtain ⟨bytes, hbytes, h⟩ := Except.of_bind_ok h
    obtain rfl := extLen_ok hlen
    obtain ⟨hle, rfl⟩ := Buf.readBytes_ok hbytes
    refine ⟨hle, ?_⟩
    split at h
    · rename_i hcopy
      rw [List.length_take, List.length_drop] at hcopy
      omega
    · cases h
  · intro h
    obtain ⟨type, htype⟩ := extType_of_fits hp h
    have hread : buf.readBytes (p + extHdrLen profile) (dataLen buf p profile) =
        .ok ((buf.drop (p + extHdrLen profile)).take (dataLen buf p profile)) := if_pos h.1
    have hcopy := h.2
    rw [Ext.ofBuf, htype, Except.bind_ok, extLen_of_fits hp h, Except.bind_ok, hread, Except.bind_ok,
      dif_pos (by rw [List.length_take]; omega)]
    exact ⟨_, rfl⟩

/-- The walk over elements that fit finds such elements. -/
theorem walk_of_elements (hp : profile ≠ .other) {i : Nat} (h : Elements buf profile stop i) {fuel : Nat}
    (hfuel : stop ≤ i + fuel) :
    ∃ ps, walkExtensions buf profile (extHdrLen profile) stop fuel i = .ok ps ∧
      ∀ p ∈ ps, FitsAt buf profile p := by
  have hpos := extHdrLen_pos hp
  induction h generalizing fuel with
  | @done i h =>
      refine ⟨[], ?_, fun p hp => absurd hp List.not_mem_nil⟩
      cases fuel with
      | zero => rfl
      | succ fuel => rw [walkExtensions, if_neg (by omega)]
  | @padding i h hin hb hr ih =>
      obtain ⟨fuel, rfl⟩ : ∃ f, fuel = f + 1 := ⟨fuel - 1, by omega⟩
      obtain ⟨ps, hps, hfits⟩ := @ih fuel (by omega)
      refine ⟨ps, ?_, hfits⟩
      rw [walkExtensions, if_pos h, Buf.readByte_of_lt hin, hb, Except.bind_ok, if_neg (not_not.mpr rfl)]
      exact hps
  | @element i h hb hfit hr ih =>
      obtain ⟨fuel, rfl⟩ : ∃ f, fuel = f + 1 := ⟨fuel - 1, by omega⟩
      obtain ⟨ps, hps, hfits⟩ := @ih fuel (by omega)
      have hlt : 12 + i < buf.length := by
        have := hfit.1
        omega
      refine ⟨(12 + i) :: ps, ?_, ?_⟩
      · rw [walkExtensions, if_pos h, Buf.readByte_of_lt hlt, Except.bind_ok, if_pos hb,
          extLen_of_fits hp hfit, Except.bind_ok, hps]
        rfl
      · intro p hmem
        rcases List.mem_cons.mp hmem with rfl | hmem
        · exact hfit
        · exact hfits p hmem

/-- Where the walk finds only such elements, there are no others. -/
theorem elements_of_walk (hp : profile ≠ .other) {fuel i : Nat} {ps : List Nat} (hfuel : stop ≤ i + fuel)
    (h : walkExtensions buf profile (extHdrLen profile) stop fuel i = .ok ps)
    (hfits : ∀ p ∈ ps, FitsAt buf profile p) : Elements buf profile stop i := by
  have hpos := extHdrLen_pos hp
  induction fuel generalizing i ps with
  | zero => exact .done hfuel
  | succ fuel ih =>
      by_cases hi : i < stop
      · rw [walkExtensions, if_pos hi] at h
        obtain ⟨b, hb, h⟩ := Except.of_bind_ok h
        have hlt := lt_of_readByte hb
        obtain rfl := Buf.readByte_ok hb
        by_cases hne : buf.u8 (12 + i) ≠ 0
        · rw [if_pos hne] at h
          obtain ⟨len, hlen, h⟩ := Except.of_bind_ok h
          obtain ⟨rest, hrest, h⟩ := Except.of_bind_ok h
          obtain rfl := Except.ok.inj h
          obtain rfl := extLen_ok hlen
          apply Elements.element hi hne (hfits _ List.mem_cons_self)
          exact ih (by omega) hrest fun p hp => hfits p (List.mem_cons_of_mem _ hp)
        · rw [if_neg hne] at h
          exact .padding hi hlt (not_not.mp hne) (ih (by omega) h hfits)
      · exact .done (by omega)

theorem extensionProfile_of_le (h : 14 ≤ buf.length) : extensionProfile buf = .ok (profileAt buf) := by
  rw [extensionProfile, Buf.readByte_of_lt (by omega), Except.bind_ok, Buf.readByte_of_lt (by omega),
    Except.bind_ok, profileAt]
  split
  · rfl
  · split <;> rfl

theorem le_of_extensionProfile (h : extensionProfile buf = .ok profile) : 14 ≤ buf.length := by
  obtain ⟨hi, -, h⟩ := Except.of_bind_ok h
  obtain ⟨lo, hlo, -⟩ := Except.of_bind_ok h
  exact lt_of_readByte hlo

theorem totalExtBytes_of_le (h : 16 ≤ buf.length) :
    totalExtBytes buf = .ok (((buf.u8 14).toUInt16 <<< 8 + (buf.u8 15).toUInt16) * 4) := by
  rw [totalExtBytes, Buf.readByte_of_lt (by omega), Except.bind_ok, Buf.readByte_of_lt (by omega)]
  rfl

theorem le_of_totalExtBytes {total : UInt16} (h : totalExtBytes buf = .ok total) : 16 ≤ buf.length := by
  obtain ⟨hi, -, h⟩ := Except.of_bind_ok h
  obtain ⟨lo, hlo, -⟩ := Except.of_bind_ok h
  exact lt_of_readByte hlo

/-- The walk over a header with extensions of a known profile, all of it there. -/
theorem extensionPtrs_of_le (hx : extension buf = true) (hcc : csrcCount buf = 0) (h : 16 ≤ buf.length)
    (hp : profileAt buf ≠ .other) : extensionPtrs buf =
      walkExtensions buf (profileAt buf) (extHdrLen (profileAt buf)) (announced buf + 4)
        (announced buf + 4) 4 := by
  have hlen : (if profileAt buf = .oneByte then 1 else 2) = extHdrLen (profileAt buf) := by
    cases hpr : profileAt buf with
    | oneByte => rfl
    | twoByte => rfl
    | other => exact absurd hpr hp
  rw [extensionPtrs, if_neg (by simp [hx, hcc]), extensionProfile_of_le (by omega), Except.bind_ok, if_neg hp,
    totalExtBytes_of_le h, Except.bind_ok]
  dsimp only
  rw [hlen]
  rfl

theorem extensionPtrs_nil (hlen : 14 ≤ buf.length)
    (h : extension buf = false ∨ csrcCount buf ≠ 0 ∨ profileAt buf = .other) : extensionPtrs buf = .ok [] := by
  rw [extensionPtrs]
  by_cases hskip : csrcCount buf ≠ 0 ∨ ¬ extension buf = true
  · rw [if_pos hskip]
    rfl
  · rw [not_or, not_not, not_not] at hskip
    have hp : profileAt buf = .other := by
      rcases h with h | h | h
      · exact absurd (h.symm.trans hskip.2) Bool.false_ne_true
      · exact absurd hskip.1 h
      · exact h
    rw [if_neg (by simp [hskip]), extensionProfile_of_le hlen, Except.bind_ok, if_pos hp]
    rfl

theorem ExtensionsFit.ptrs (h : ExtensionsFit buf) :
    ∃ ps, extensionPtrs buf = .ok ps ∧ ∀ p ∈ ps, profileAt buf ≠ .other ∧ FitsAt buf (profileAt buf) p := by
  by_cases hcc : csrcCount buf = 0
  · by_cases hp : profileAt buf = .other
    · exact ⟨[], extensionPtrs_nil h.profile (.inr (.inr hp)), fun p hp => absurd hp List.not_mem_nil⟩
    · obtain ⟨hle, hel⟩ := h.elements hcc hp
      obtain ⟨ps, hps, hfits⟩ := walk_of_elements hp hel (Nat.le_add_left _ 4)
      exact ⟨ps, (extensionPtrs_of_le h.extension hcc hle hp).trans hps, fun p hmem => ⟨hp, hfits p hmem⟩⟩
  · exact ⟨[], extensionPtrs_nil h.profile (.inr (.inl hcc)), fun p hp => absurd hp List.not_mem_nil⟩

theorem findExtension_of_fits {type : Nat} {ps : List Nat} (hp : ∀ p ∈ ps, profile ≠ .other ∧ FitsAt buf profile p) :
    ∃ q, findExtension buf profile type ps = .ok q := by
  induction ps with
  | nil => exact ⟨none, rfl⟩
  | cons p ps ih =>
      obtain ⟨hother, hfits⟩ := hp p List.mem_cons_self
      obtain ⟨t, ht⟩ := extType_of_fits hother hfits
      rw [findExtension, ht, Except.bind_ok]
      split
      · exact ⟨some p, rfl⟩
      · exact ih fun p hmem => hp p (List.mem_cons_of_mem _ hmem)

/-- **Header extensions.** Reads and copies are in bounds iff the header has extensions and all of them are
there. -/
theorem readsInBounds_iff (buf : Buf) : ReadsInBounds buf ↔ ExtensionsFit buf := by
  constructor
  · intro h
    obtain ⟨profile, hprofile⟩ := h.profile
    unfold headerExtensionProfile at hprofile
    split at hprofile
    · rename_i hx
      have hle := le_of_extensionProfile hprofile
      refine ⟨hx, hle, fun hcc hp => ?_⟩
      obtain ⟨ps, hps⟩ := h.ptrs
      have h16 : 16 ≤ buf.length := by
        have hps := hps
        rw [extensionPtrs, if_neg (by simp [hx, hcc]), extensionProfile_of_le hle, Except.bind_ok, if_neg hp] at hps
        obtain ⟨total, htotal, -⟩ := Except.of_bind_ok hps
        exact le_of_totalExtBytes htotal
      refine ⟨h16, ?_⟩
      obtain ⟨es, hes⟩ := h.copies
      rw [extensions, hps, Except.bind_ok] at hes
      rw [extensionPtrs_of_le hx hcc h16 hp] at hps
      apply elements_of_walk hp (Nat.le_add_left _ 4) hps
      intro p hmem
      obtain ⟨e, -, he⟩ := Except.exists_result_of_mapM_ok hes hmem
      rw [extensionProfile_of_le hle, Except.bind_ok] at he
      exact (ofBuf_ok_iff hp).mp ⟨e, he⟩
    · cases hprofile
  · intro h
    have hprofile := extensionProfile_of_le h.profile
    obtain ⟨ps, hps, hfits⟩ := h.ptrs
    refine ⟨⟨profileAt buf, ?_⟩, ⟨ps, hps⟩, fun type => ?_, ?_, fun profile hp stop => ?_⟩
    · rw [headerExtensionProfile, if_pos h.extension]
      exact hprofile
    · rw [extensionPtr, hps, Except.bind_ok]
      cases ps with
      | nil => exact ⟨none, rfl⟩
      | cons p ps =>
          dsimp only
          rw [hprofile, Except.bind_ok]
          exact findExtension_of_fits hfits
    · rw [extensions, hps, Except.bind_ok, hprofile]
      apply Except.exists_mapM_ok
      intro p hmem
      obtain ⟨hother, hfit⟩ := hfits p hmem
      exact (ofBuf_ok_iff hother).mpr hfit
    · exact ⟨_, walkLoop_walk (extHdrLen_pos hp) (Nat.le_add_left stop 4)⟩

/-- A header with extensions, and nothing behind it. -/
theorem bare_header_out_of_bounds :
    containsRtpOrRtcp [0x90, 96, 0, 1, 0, 0, 0, 0, 0, 0, 0, 7] = true ∧
      isRtcp [0x90, 96, 0, 1, 0, 0, 0, 0, 0, 0, 0, 7] = false ∧
      ¬ ReadsInBounds [0x90, 96, 0, 1, 0, 0, 0, 0, 0, 0, 0, 7] := by
  refine ⟨by decide, by decide, fun h => ?_⟩
  obtain ⟨ps, hps⟩ := h.ptrs
  exact nomatch hps

end Bounds

end Rtp

end Scallop
