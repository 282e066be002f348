import Scallop.DataPlane.Rtcp
import Scallop.Lib.Except

/-!
# Header extensions

`rtp::ext` and `rtp::serialize_extensions` of `lib/proto/rtp.h`.

* `Ext`, `Ext.ofBuf`, `extensions` : the extensions of a packet, copied into arrays of 128 bytes;
* `serializeExtensions` : extensions written into a buffer, with its loops; writes are checked;
* `encode`, `padding` : the bytes of extensions, and of the padding behind them; `serializeExtensions_eq` :
  they are what is written; `walk_encoded` : they are what the walk over the extensions reads;
* `extensions_roundTrip` : what is written in a packet is read from it.
-/

namespace Scallop

/-- `buf[i] = b`. -/
def Buf.writeByte (buf : Buf) (i : Nat) (b : UInt8) : Except Fault Buf :=
  if i < buf.length then .ok (buf.set i b) else .error .outOfBounds

theorem Buf.writeByte_append (pre : Buf) (x b : UInt8) (post : Buf) :
    Buf.writeByte (pre ++ x :: post) pre.length b = .ok (pre ++ b :: post) := by
  unfold Buf.writeByte
  rw [if_pos (by simp)]
  simp

namespace Rtp

structure Ext where
  type : UInt16 := 0
  len : UInt16 := 0
  data : Buf := List.replicate 128 0
  data_length : data.length = 128 := by rfl

/-- The size of the header of an extension. -/
def extHdrLen : ExtProfile → Nat
  | .oneByte => 1
  | .twoByte => 2
  | .other => 0

/-- `ext::from_buf`; what is copied must fit the array. -/
def Ext.ofBuf (buf : Buf) (p : Nat) (profile : ExtProfile) : Except Fault Ext := do
  let type ← extType buf p profile
  let len ← extLen buf p profile
  let bytes ← buf.readBytes (p + extHdrLen profile) len
  if h : bytes.length ≤ 128 then
    return {
      type := .ofNat type
      len := .ofNat len
      data := bytes ++ List.replicate (128 - bytes.length) 0
      data_length := by simp [h] }
  else .error .outOfBounds

def extensions (buf : Buf) : Except Fault (List Ext) := do
  let ptrs ← extensionPtrs buf
  ptrs.mapM fun p => do
    let profile ← extensionProfile buf
    Ext.ofBuf buf p profile

/-! ## Serialisation -/

/-- The byte before the data of an extension. -/
def Ext.headerByte (e : Ext) : UInt8 :=
  ((((e.type &&& 0x0f) <<< 4) &&& 0xf0) ||| (((e.len - 1) &&& 0x0f) &&& 0x0f)).toUInt8

/-- The loop over the data of an extension, from the byte `j` on; `n` bytes are left. -/
def writeData (bound : Nat) (e : Ext) : Nat → Nat → Buf → Nat → Except Fault (Buf × Nat)
  | 0, _, buf, written => .ok (buf, written)
  | n + 1, j, buf, written =>
      if written < bound then do
        let b ← e.data.readByte j
        let buf ← buf.writeByte written b
        writeData bound e n (j + 1) buf (written + 1)
      else .ok (buf, written)

def writeExtensions (bound : Nat) : List Ext → Buf → Nat → Except Fault (Buf × Nat)
  | [], buf, written => .ok (buf, written)
  | e :: es, buf, written =>
      if written < bound then do
        let buf ← buf.writeByte written e.headerByte
        let (buf, written) ← writeData bound e e.len.toNat 0 buf (written + 1)
        writeExtensions bound es buf written
      else .ok (buf, written)

/-- The loop that pads, from its round `i` on; the fourth one would not run. -/
def writePadding (bound : Nat) : Nat → Nat → Buf → Nat → Except Fault (Buf × Nat)
  | 0, _, buf, written => .ok (buf, written)
  | rounds + 1, i, buf, written =>
      if i < written % 4 ∧ written < bound then do
        let buf ← buf.writeByte written 0
        writePadding bound rounds (i + 1) buf (written + 1)
      else .ok (buf, written)

/-- `rtp::serialize_extensions`: the buffer, and the number of bytes written. -/
def serializeExtensions (extensions : List Ext) (buf : Buf) (len : UInt64) (profile : ExtProfile) :
    Except Fault (Buf × Nat) := do
  if profile ≠ .oneByte then
    .error (.domainError "rtp::serialize_extensions: only 1-byte exts supported")
  else do
    let bound := (len - 1).toNat
    let buf ← buf.writeByte 0 0xbe
    let buf ← buf.writeByte 1 0xde
    let (buf, written) ← writeExtensions bound extensions buf 4
    let (buf, written) ← writePadding bound 3 0 buf written
    let words := UInt16.ofNat ((written - 4) / 4)
    let buf ← buf.writeByte 2 (.ofNat (words.toNat / 256))
    let buf ← buf.writeByte 3 (.ofNat words.toNat)
    return (buf, written)

/-! ## What is written -/

def Ext.bytes (e : Ext) : Buf := e.headerByte :: e.data.take e.len.toNat

def encode (es : List Ext) : Buf := es.flatMap Ext.bytes

/-- The number of bytes of padding behind so many others. -/
def padding (n : Nat) : Nat := (4 - n % 4) % 4

/-- The bytes that extensions take, with the profile header and the padding. -/
def serializedSize (es : List Ext) : Nat := 4 + (encode es).length + padding (encode es).length

/-- An extension that the 1-byte profile has room for. -/
structure Ext.Valid (e : Ext) : Prop where
  type_pos : 1 ≤ e.type.toNat
  type_le : e.type.toNat ≤ 15
  len_pos : 1 ≤ e.len.toNat
  len_le : e.len.toNat ≤ 16

/-- An extension without what stands behind its data. -/
def Ext.cleared (e : Ext) : Ext :=
  { e with
    data := e.data.take e.len.toNat ++ List.replicate (128 - (e.data.take e.len.toNat).length) 0
    data_length := by
      have := e.data_length
      rw [List.length_append, List.length_replicate, List.length_take]
      omega }

section Written
variable {bound : Nat} {e : Ext} {es : List Ext}

theorem padding_mod (n : Nat) : (n + padding n) % 4 = 0 := by
  unfold padding
  omega

theorem Ext.Valid.bytes_length (h : e.Valid) : e.bytes.length = e.len.toNat + 1 := by
  have := e.data_length
  have := h.len_le
  rw [Ext.bytes, List.length_cons, List.length_take]
  omega

theorem writeData_eq {n j : Nat} {pre rest : Buf} (hj : j + n ≤ 128) (hrest : n ≤ rest.length)
    (hbound : pre.length + n ≤ bound) :
    writeData bound e n j (pre ++ rest) pre.length =
      .ok (pre ++ (e.data.drop j).take n ++ rest.drop n, pre.length + n) := by
  induction n generalizing j pre rest with
  | zero => simp [writeData]
  | succ n ih =>
      match rest, hrest with
      | x :: rest, hrest =>
          have hdata := e.data_length
          have hlt : j < e.data.length := by omega
          have hstep := @ih (j + 1) (pre ++ [e.data.u8 j]) rest (by omega)
            (by simpa using hrest) (by simp; omega)
          have hget : e.data[j] = e.data.u8 j := by
            rw [Buf.u8, List.getD_eq_getElem?_getD, List.getElem?_eq_getElem hlt]
            rfl
          rw [writeData, if_pos (by omega), Buf.readByte_of_lt hlt, Except.bind_ok,
            Buf.writeByte_append, Except.bind_ok, List.drop_eq_getElem_cons hlt, hget]
          simp only [List.length_append, List.length_singleton, List.append_assoc,
            List.singleton_append] at hstep
          rw [hstep]
          simp [Nat.add_assoc, Nat.add_comm 1 n]

theorem writeExtensions_eq (hvalid : ∀ e ∈ es, e.Valid) {pre rest : Buf}
    (hrest : (encode es).length ≤ rest.length) (hbound : pre.length + (encode es).length ≤ bound) :
    writeExtensions bound es (pre ++ rest) pre.length =
      .ok (pre ++ encode es ++ rest.drop (encode es).length, pre.length + (encode es).length) := by
  induction es generalizing pre rest with
  | nil => simp [writeExtensions, encode]
  | cons e es ih =>
      have he := hvalid e List.mem_cons_self
      have hlen := he.bytes_length
      have hdata : (e.data.take e.len.toNat).length = e.len.toNat := by
        rw [Ext.bytes, List.length_cons] at hlen
        omega
      have hle := he.len_le
      have henc : encode (e :: es) = e.headerByte :: (e.data.take e.len.toNat ++ encode es) := rfl
      rw [henc, List.length_cons, List.length_append, hdata] at hrest hbound
      match rest, hrest with
      | x :: rest, hrest =>
          rw [List.length_cons] at hrest
          have hpre : (pre ++ [e.headerByte]).length = pre.length + 1 := by simp
          have hpre' : (pre ++ [e.headerByte] ++ e.data.take e.len.toNat).length =
              pre.length + 1 + e.len.toNat := by
            rw [List.length_append, hdata, hpre]
          have hd := @writeData_eq bound e e.len.toNat 0 (pre ++ [e.headerByte]) rest (by omega) (by omega)
            (by omega)
          have hes := @ih (fun e he => hvalid e (List.mem_cons_of_mem _ he))
            (pre ++ [e.headerByte] ++ e.data.take e.len.toNat) (rest.drop e.len.toNat)
            (by rw [List.length_drop]; omega) (by omega)
          rw [hpre, List.drop_zero] at hd
          rw [hpre'] at hes
          rw [writeExtensions, if_pos (by omega), Buf.writeByte_append, Except.bind_ok,
            List.append_cons pre e.headerByte rest, hd, Except.bind_ok]
          dsimp only
          rw [hes, henc, List.length_cons, List.length_append, hdata]
          rw [List.drop_drop, List.drop_succ_cons]
          simp only [List.append_assoc, List.cons_append, List.nil_append, Except.ok.injEq, Prod.mk.injEq,
            true_and]
          omega

/-- As many bytes of padding are written as are missing, although the bound of the loop moves. -/
theorem writePadding_eq {pre rest : Buf} (hrest : padding pre.length ≤ rest.length)
    (hbound : pre.length + padding pre.length ≤ bound) :
    writePadding bound 3 0 (pre ++ rest) pre.length =
      .ok (pre ++ List.replicate (padding pre.length) 0 ++ rest.drop (padding pre.length),
        pre.length + padding pre.length) := by
  have hround (rounds i : Nat) (pre : Buf) (x : UInt8) (rest : Buf) (hi : i < pre.length % 4)
      (hb : pre.length < bound) : writePadding bound (rounds + 1) i (pre ++ x :: rest) pre.length =
        writePadding bound rounds (i + 1) (pre ++ [0] ++ rest) (pre ++ [0]).length := by
    rw [writePadding, if_pos ⟨hi, hb⟩, Buf.writeByte_append, Except.bind_ok, ← List.append_cons,
      List.length_append]
    rfl
  have hend (rounds i : Nat) (pre rest : Buf) (hi : ¬ i < pre.length % 4) :
      writePadding bound (rounds + 1) i (pre ++ rest) pre.length = .ok (pre ++ rest, pre.length) := by
    rw [writePadding, if_neg fun h => hi h.1]
  have hp : padding pre.length = (4 - pre.length % 4) % 4 := rfl
  obtain h | h | h | h : pre.length % 4 = 0 ∨ pre.length % 4 = 1 ∨ pre.length % 4 = 2 ∨
    pre.length % 4 = 3 := by omega
  · rw [h] at hp
    rw [hend 2 0 pre rest (by omega), hp]
    simp
  · rw [h] at hp
    rw [hp] at hrest hbound ⊢
    match rest, hrest with
    | x :: y :: z :: rest, _ =>
        rw [hround 2 0 pre x _ (by omega) (by omega), hround 1 1 _ y _ (by simp; omega) (by simp; omega),
          hround 0 2 _ z _ (by simp; omega) (by simp; omega)]
        simp [writePadding, List.replicate]
  · rw [h] at hp
    rw [hp] at hrest hbound ⊢
    match rest, hrest with
    | x :: y :: rest, _ =>
        rw [hround 2 0 pre x _ (by omega) (by omega), hround 1 1 _ y _ (by simp; omega) (by simp; omega),
          hend 0 2 _ _ (by simp; omega)]
        simp [List.replicate]
  · rw [h] at hp
    rw [hp] at hrest hbound ⊢
    match rest, hrest with
    | x :: rest, _ =>
        rw [hround 2 0 pre x _ (by omega) (by omega), hend 1 1 _ _ (by simp; omega)]
        simp

/-- The bytes that extensions are written as. -/
def serialized (es : List Ext) : Buf :=
  [0xbe, 0xde] ++ Rtcp.bytes16 (.ofNat ((serializedSize es - 4) / 4)) ++ encode es ++
    List.replicate (padding (encode es).length) 0

theorem serialized_length (es : List Ext) : (serialized es).length = serializedSize es := by
  simp only [serialized, serializedSize, List.length_append, List.length_replicate]
  rfl

theorem serializeExtensions_eq (hvalid : ∀ e ∈ es, e.Valid) {buf : Buf} {len : UInt64}
    (hlen : serializedSize es < len.toNat) (hbuf : buf.length = len.toNat) :
    serializeExtensions es buf len .oneByte =
      .ok (serialized es ++ buf.drop (serializedSize es), serializedSize es) := by
  have hsize : serializedSize es = 4 + (encode es).length + padding (encode es).length := rfl
  have hbound : (len - 1).toNat = len.toNat - 1 := by
    apply UInt64.toNat_sub_of_le
    rw [UInt64.le_iff_toNat_le]
    show 1 ≤ len.toNat
    omega
  match buf, hbuf with
  | [], hbuf | [_], hbuf | [_, _], hbuf | [_, _, _], hbuf =>
      simp only [List.length_cons, List.length_nil] at hbuf
      omega
  | a :: b :: c :: d :: rest, hbuf =>
      simp only [List.length_cons] at hbuf
      have hbe : Buf.writeByte (a :: b :: c :: d :: rest) 0 0xbe = .ok (0xbe :: b :: c :: d :: rest) :=
        Buf.writeByte_append [] a 0xbe _
      have hde : Buf.writeByte (0xbe :: b :: c :: d :: rest) 1 0xde = .ok ([0xbe, 0xde, c, d] ++ rest) :=
        Buf.writeByte_append [0xbe] b 0xde _
      have hes := @writeExtensions_eq (len - 1).toNat es hvalid [0xbe, 0xde, c, d] rest (by omega)
        (by simp only [List.length_cons, List.length_nil]; omega)
      have hpre : ([0xbe, 0xde, c, d] ++ encode es).length = 4 + (encode es).length := by
        rw [List.length_append]
        rfl
      have hpad : padding (4 + (encode es).length) = padding (encode es).length := by
        unfold padding
        omega
      have hzero := @writePadding_eq (len - 1).toNat ([0xbe, 0xde, c, d] ++ encode es)
        (rest.drop (encode es).length) (by rw [hpre, hpad, List.length_drop]; omega)
        (by rw [hpre, hpad]; omega)
      rw [hpre, hpad] at hzero
      have hlenc : ([0xbe, 0xde, c, d] : Buf).length = 4 := rfl
      rw [hlenc] at hes
      rw [serializeExtensions, if_neg (by simp)]
      dsimp only
      rw [hbe, Except.bind_ok, hde, Except.bind_ok, hes, Except.bind_ok]
      dsimp only
      rw [hzero, Except.bind_ok]
      dsimp only
      rw [← hsize, List.drop_drop, show (encode es).length + padding (encode es).length
        = serializedSize es - 4 by omega]
      have h2 (x : UInt8) (zeros post : Buf) :
          Buf.writeByte ([0xbe, 0xde, c, d] ++ encode es ++ zeros ++ post) 2 x
            = .ok ([0xbe, 0xde, x, d] ++ encode es ++ zeros ++ post) :=
        Buf.writeByte_append [0xbe, 0xde] c x (d :: encode es ++ zeros ++ post)
      have h3 (x y : UInt8) (zeros post : Buf) :
          Buf.writeByte ([0xbe, 0xde, x, d] ++ encode es ++ zeros ++ post) 3 y
            = .ok ([0xbe, 0xde, x, y] ++ encode es ++ zeros ++ post) :=
        Buf.writeByte_append [0xbe, 0xde, x] d y (encode es ++ zeros ++ post)
      have hdrop : (a :: b :: c :: d :: rest).drop (serializedSize es) = rest.drop (serializedSize es - 4) := by
        obtain ⟨n, hn⟩ : ∃ n, serializedSize es = n + 4 := ⟨serializedSize es - 4, by omega⟩
        rw [hn, Nat.add_sub_cancel]
        rfl
      rw [h2, Except.bind_ok, h3, Except.bind_ok, hdrop]
      rfl

end Written

/-! ## What is read -/

section Read
variable {e : Ext} {es : List Ext} {pre post : Buf}

/-- The two halves of the byte before the data. -/
theorem Ext.Valid.headerByte (h : e.Valid) : ((e.headerByte >>> 4) &&& 0x0f).toNat = e.type.toNat ∧
    (e.headerByte &&& 0x0f).toNat + 1 = e.len.toNat := by
  have hall : ∀ t l : Fin 16,
      ((((((UInt16.ofNat t.val &&& 0x0f) <<< 4) &&& 0xf0) |||
        (((UInt16.ofNat (l.val + 1) - 1) &&& 0x0f) &&& 0x0f)).toUInt8 >>> 4) &&& 0x0f).toNat = t.val ∧
      (((((UInt16.ofNat t.val &&& 0x0f) <<< 4) &&& 0xf0) |||
        (((UInt16.ofNat (l.val + 1) - 1) &&& 0x0f) &&& 0x0f)).toUInt8 &&& 0x0f).toNat = l.val := by
    decide
  have ht := h.type_le
  have hl := h.len_le
  have hpos := h.len_pos
  have hte : UInt16.ofNat e.type.toNat = e.type := UInt16.ofNat_toNat
  have hle : UInt16.ofNat (e.len.toNat - 1 + 1) = e.len := by
    rw [Nat.sub_add_cancel hpos]
    exact UInt16.ofNat_toNat
  have hb := hall ⟨e.type.toNat, by omega⟩ ⟨e.len.toNat - 1, by omega⟩
  dsimp only at hb
  rw [hte, hle] at hb
  refine ⟨hb.1, ?_⟩
  rw [Ext.headerByte, hb.2, Nat.sub_add_cancel hpos]

theorem Ext.Valid.headerByte_ne (h : e.Valid) : e.headerByte ≠ 0 := by
  intro h0
  have ht := h.headerByte.1
  have hpos := h.type_pos
  rw [h0] at ht
  have hz : (((0 : UInt8) >>> 4) &&& 0x0f).toNat = 0 := by decide
  omega

theorem readByte_append (b : UInt8) : Buf.readByte (pre ++ b :: post) pre.length = .ok b := by
  unfold Buf.readByte
  rw [List.getElem?_append_right (Nat.le_refl _), Nat.sub_self]
  rfl

theorem extLen_encoded (h : e.Valid) :
    extLen (pre ++ (e.bytes ++ post)) pre.length .oneByte = .ok e.len.toNat := by
  rw [Ext.bytes, List.cons_append, extLen, readByte_append, Except.bind_ok, h.headerByte.2]
  rfl

/-- A copy of an extension that stands in a buffer. -/
theorem ofBuf_encoded (h : e.Valid) :
    Ext.ofBuf (pre ++ (e.bytes ++ post)) pre.length .oneByte = .ok e.cleared := by
  have hdata := e.data_length
  have hle := h.len_le
  have htake : (e.data.take e.len.toNat).length = e.len.toNat := by
    rw [List.length_take]
    omega
  have htype : extType (pre ++ (e.bytes ++ post)) pre.length .oneByte = .ok e.type.toNat := by
    rw [Ext.bytes, List.cons_append, extType, readByte_append, Except.bind_ok, h.headerByte.1]
    rfl
  have hread : Buf.readBytes (pre ++ (e.bytes ++ post)) (pre.length + extHdrLen .oneByte) e.len.toNat =
      .ok (e.data.take e.len.toNat) := by
    have hlen := h.bytes_length
    have hdrop : (pre ++ (e.bytes ++ post)).drop (pre.length + 1) = e.data.take e.len.toNat ++ post := by
      rw [← List.drop_drop, List.drop_left' rfl]
      rfl
    unfold Buf.readBytes
    rw [if_pos (by simp only [List.length_append, extHdrLen, hlen]; omega)]
    show Except.ok (List.take e.len.toNat ((pre ++ (e.bytes ++ post)).drop (pre.length + 1))) = _
    rw [hdrop, List.take_left' htake]
  rw [Ext.ofBuf, htype, Except.bind_ok, extLen_encoded h, Except.bind_ok, hread, Except.bind_ok,
    dif_pos (by omega)]
  simp [Ext.cleared, pure, Except.pure]

theorem walk_zeros {n fuel stop i : Nat} (hpre : pre.length = 12 + i) (hstop : stop = i + n)
    (hfuel : n ≤ fuel) :
    walkExtensions (pre ++ (List.replicate n 0 ++ post)) .oneByte 1 stop fuel i = .ok [] := by
  induction n generalizing pre i fuel with
  | zero =>
      cases fuel with
      | zero => rfl
      | succ fuel =>
          rw [walkExtensions, if_neg (by omega)]
  | succ n ih =>
      match fuel, hfuel with
      | fuel + 1, hfuel =>
          have hrest := @ih (pre ++ [0]) fuel (i + 1) (by rw [List.length_append, hpre]; rfl) (by omega)
            (by omega)
          rw [walkExtensions, if_pos (by omega), ← hpre, List.replicate_succ, List.cons_append,
            readByte_append, Except.bind_ok, if_neg (not_not.mpr rfl), List.append_cons]
          exact hrest

/-- The walk over extensions finds them, up to the padding. -/
theorem walk_encoded (hvalid : ∀ e ∈ es, e.Valid) {n fuel stop i : Nat} (hpre : pre.length = 12 + i)
    (hstop : stop = i + (encode es).length + n) (hfuel : (encode es).length + n ≤ fuel) {buf : Buf}
    (hbuf : buf = pre ++ (encode es ++ (List.replicate n 0 ++ post))) :
    ∃ ps, walkExtensions buf .oneByte 1 stop fuel i = .ok ps ∧
      ps.mapM (fun p => Ext.ofBuf buf p .oneByte) = .ok (es.map Ext.cleared) := by
  induction es generalizing pre i fuel with
  | nil =>
      refine ⟨[], ?_, rfl⟩
      rw [hbuf]
      have h0 : (encode []).length = 0 := rfl
      exact walk_zeros hpre (by omega) (by omega)
  | cons e es ih =>
      have he := hvalid e List.mem_cons_self
      have hlen := he.bytes_length
      have henc : encode (e :: es) = e.bytes ++ encode es := rfl
      rw [henc, List.length_append, hlen] at hstop hfuel
      rw [henc, List.append_assoc] at hbuf
      obtain ⟨fuel, rfl⟩ : ∃ f, fuel = f + 1 := ⟨fuel - 1, by omega⟩
      obtain ⟨ps, hps, hcopies⟩ := @ih (pre ++ e.bytes)
        (fun e he => hvalid e (List.mem_cons_of_mem _ he)) fuel (i + (e.len.toNat + 1))
        (by rw [List.length_append, hlen, hpre]; omega) (by omega) (by omega) (by rw [hbuf, List.append_assoc])
      have hread : buf.readByte pre.length = .ok e.headerByte := by
        rw [hbuf, Ext.bytes, List.cons_append]
        exact readByte_append _
      have hext : extLen buf pre.length .oneByte = .ok e.len.toNat := by
        rw [hbuf]
        exact extLen_encoded he
      have hcopy : Ext.ofBuf buf pre.length .oneByte = .ok e.cleared := by
        rw [hbuf]
        exact ofBuf_encoded he
      refine ⟨pre.length :: ps, ?_, ?_⟩
      · rw [walkExtensions, if_pos (by omega), ← hpre, hread, Except.bind_ok, if_pos he.headerByte_ne,
          hext, Except.bind_ok, hps]
        rfl
      · rw [List.mapM_cons, hcopy, Except.bind_ok, hcopies]
        rfl

theorem totalExtBytes_eq {w : UInt16} {hdr rest : Buf} (hhdr : hdr.length = 12) (a b : UInt8) :
    totalExtBytes (hdr ++ ([a, b] ++ Rtcp.bytes16 w ++ rest)) = .ok (w * 4) := by
  have hw := w.toNat_lt
  have hword : (UInt8.ofNat (w.toNat / 256)).toUInt16 <<< 8 + (UInt8.ofNat w.toNat).toUInt16 = w := by
    rw [← UInt16.toNat_inj, UInt16.toNat_add, UInt16.toNat_shiftLeft, UInt8.toNat_toUInt16,
      UInt8.toNat_toUInt16, UInt8.toNat_ofNat', UInt8.toNat_ofNat', Nat.shiftLeft_eq]
    have h8 : (8 : UInt16).toNat % 16 = 8 := rfl
    rw [h8]
    omega
  have hhi : Buf.readByte (hdr ++ ([a, b] ++ Rtcp.bytes16 w ++ rest)) 14 = .ok (.ofNat (w.toNat / 256)) := by
    have h := @readByte_append (hdr ++ [a, b]) (.ofNat w.toNat :: rest) (.ofNat (w.toNat / 256))
    rw [List.length_append, hhdr] at h
    simpa [Rtcp.bytes16] using h
  have hlo : Buf.readByte (hdr ++ ([a, b] ++ Rtcp.bytes16 w ++ rest)) 15 = .ok (.ofNat w.toNat) := by
    have h := @readByte_append (hdr ++ [a, b, .ofNat (w.toNat / 256)]) rest (.ofNat w.toNat)
    rw [List.length_append, hhdr] at h
    simpa [Rtcp.bytes16] using h
  rw [totalExtBytes, hhi, Except.bind_ok, hlo, Except.bind_ok, hword]
  rfl

theorem extensionProfile_eq {hdr rest : Buf} (hhdr : hdr.length = 12) :
    extensionProfile (hdr ++ ([0xbe, 0xde] ++ rest)) = .ok .oneByte := by
  have h12 : Buf.readByte (hdr ++ ([0xbe, 0xde] ++ rest)) 12 = .ok 0xbe := by
    have h := @readByte_append hdr (0xde :: rest) 0xbe
    rwa [hhdr] at h
  have h13 : Buf.readByte (hdr ++ ([0xbe, 0xde] ++ rest)) 13 = .ok 0xde := by
    have h := @readByte_append (hdr ++ [0xbe]) rest 0xde
    rw [List.length_append, hhdr] at h
    simpa using h
  rw [extensionProfile, h12, Except.bind_ok, h13, Except.bind_ok, if_pos ⟨rfl, rfl⟩]
  rfl

theorem extensions_serialized (hvalid : ∀ e ∈ es, e.Valid) (hsize : serializedSize es < 2 ^ 16)
    {hdr payload : Buf} (hhdr : hdr.length = 12) (hx : extension hdr = true) (hcc : csrcCount hdr = 0) :
    extensions (hdr ++ (serialized es ++ payload)) = .ok (es.map Ext.cleared) := by
  have h0 : Buf.u8 (hdr ++ (serialized es ++ payload)) 0 = hdr.u8 0 := Rtcp.u8_append _ (by omega)
  have hx' : extension (hdr ++ (serialized es ++ payload)) = true := by
    rw [extension, h0]
    exact hx
  have hcc' : csrcCount (hdr ++ (serialized es ++ payload)) = 0 := by
    rw [csrcCount, h0]
    exact hcc
  have hdef : serializedSize es = 4 + (encode es).length + padding (encode es).length := rfl
  have hmod := padding_mod (encode es).length
  have hsplit : serialized es ++ payload =
      [0xbe, 0xde] ++ Rtcp.bytes16 (.ofNat ((serializedSize es - 4) / 4)) ++
        (encode es ++ (List.replicate (padding (encode es).length) 0 ++ payload)) := by
    simp only [serialized, List.append_assoc]
  have hprofile : extensionProfile (hdr ++ (serialized es ++ payload)) = .ok .oneByte := by
    rw [hsplit, List.append_assoc]
    exact extensionProfile_eq hhdr
  have htotal : totalExtBytes (hdr ++ (serialized es ++ payload)) =
      .ok (.ofNat ((serializedSize es - 4) / 4) * 4) := by
    rw [hsplit]
    exact totalExtBytes_eq hhdr _ _
  have hstop : (UInt16.ofNat ((serializedSize es - 4) / 4) * 4).toNat + 4 =
      4 + (encode es).length + padding (encode es).length := by
    rw [UInt16.toNat_mul, UInt16.toNat_ofNat']
    have h4 : (4 : UInt16).toNat = 4 := rfl
    rw [h4]
    omega
  obtain ⟨ps, hps, hcopies⟩ := @walk_encoded es
    (hdr ++ ([0xbe, 0xde] ++ Rtcp.bytes16 (.ofNat ((serializedSize es - 4) / 4)))) payload hvalid
    (padding (encode es).length) (4 + (encode es).length + padding (encode es).length) _ 4
    (by rw [List.length_append, hhdr]; rfl) rfl (by omega)
    (hdr ++ (serialized es ++ payload)) (by rw [hsplit]; simp only [List.append_assoc])
  have hptrs : extensionPtrs (hdr ++ (serialized es ++ payload)) = .ok ps := by
    rw [extensionPtrs, if_neg (by simp [hx', hcc']), hprofile, Except.bind_ok, if_neg (by simp),
      htotal, Except.bind_ok]
    dsimp only
    rw [hstop]
    exact hps
  rw [extensions, hptrs, Except.bind_ok, hprofile]
  exact hcopies

end Read

/-- **Header extensions.** What is serialized has a multiple of four bytes, as the length word says, and
a packet that carries it has the same extensions. -/
theorem extensions_roundTrip {es : List Ext} {buf : Buf} {len : UInt64} (hvalid : ∀ e ∈ es, e.Valid)
    (hsize : serializedSize es < 2 ^ 16) (hlen : serializedSize es < len.toNat)
    (hbuf : buf.length = len.toNat) :
    ∃ out, serializeExtensions es buf len .oneByte = .ok (out, serializedSize es) ∧
      serializedSize es % 4 = 0 ∧ serializedSize es = 4 + 4 * (out.u16 2).toNat ∧
      ∀ hdr payload : Buf, hdr.length = 12 → extension hdr = true → csrcCount hdr = 0 →
        extensions (hdr ++ (out.take (serializedSize es) ++ payload)) = .ok (es.map Ext.cleared) := by
  have hdef : serializedSize es = 4 + (encode es).length + padding (encode es).length := rfl
  have hmod := padding_mod (encode es).length
  refine ⟨_, serializeExtensions_eq hvalid hlen hbuf, by omega, ?_, ?_⟩
  · have hword : Buf.u16 (serialized es ++ buf.drop (serializedSize es)) 2 =
        .ofNat ((serializedSize es - 4) / 4) := Rtcp.u16_of_bytes16 _
    rw [hword, UInt16.toNat_ofNat']
    omega
  · intro hdr payload hhdr hx hcc
    rw [List.take_left' (serialized_length es)]
    exact extensions_serialized hvalid hsize hhdr hx hcc

example : serialized [{ type := 4, len := 3, data := [1, 2, 3] ++ List.replicate 125 0 },
      { type := 5, len := 5, data := [1, 2, 3, 4, 5] ++ List.replicate 123 0 }] =
    [0xbe, 0xde, 0, 3, 0x42, 1, 2, 3, 0x54, 1, 2, 3, 4, 5, 0, 0] := by decide

/-- Two extensions, the first of them with a zero byte. -/
def twoExts : List Ext :=
  [{ type := 4, len := 3, data := [1, 0, 3] ++ List.replicate 125 0 },
    { type := 15, len := 2, data := [7, 8] ++ List.replicate 126 0 }]

theorem extensions_roundTrip_twoExts :
    ∃ out, serializeExtensions twoExts (List.replicate 13 0xff) 13 .oneByte = .ok (out, 12) ∧
      12 % 4 = 0 ∧ 12 = 4 + 4 * (out.u16 2).toNat ∧
      ∀ hdr payload : Buf, hdr.length = 12 → extension hdr = true → csrcCount hdr = 0 →
        extensions (hdr ++ (out.take 12 ++ payload)) = .ok (twoExts.map Ext.cleared) :=
  extensions_roundTrip (by
    intro e he
    simp only [twoExts, List.mem_cons, List.not_mem_nil, or_false] at he
    rcases he with rfl | rfl
    · exact ⟨by decide, by decide, by decide, by decide⟩
    · exact ⟨by decide, by decide, by decide, by decide⟩) (by decide) (by decide) (by decide)

end Rtp

end Scallop
