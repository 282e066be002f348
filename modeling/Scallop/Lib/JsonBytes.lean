import Scallop.Lib.JsonPrefix
import Scallop.Lib.JsonRoundTrip
import Scallop.Lib.Reassembly

/-!
# JSON texts as bytes

* `utf8`, `frameText` : from characters to bytes, and back;
* `JsonLibrary` : a library that reads and writes bytes; `Restores` : what may be relied on for a value;
* `framed_object` : no proper beginning of an object's text that ends with its brace is read;
* `JsonLibrary.plain` : the reader and the writer of `Lib/Json.lean` as such a library.
-/

def utf8 (cs : List Char) : List UInt8 := cs.flatMap String.utf8EncodeChar

/-- The characters of a frame; a connection on which there are none fails. -/
def frameText (bytes : List UInt8) : Option (List Char) :=
  bytes.toByteArray.utf8Decode?.map Array.toList

/-! ## Libraries -/

/-- What a library reads of bytes, unless it refuses them, and the bytes that it writes. -/
structure JsonLibrary where
  parse : List UInt8 → Option Json
  dump : Json → List UInt8

namespace JsonLibrary

/-- A value is read from its text, and nothing is read before the text has ended. -/
structure Restores (lib : JsonLibrary) (x : Json) : Prop where
  whole : lib.parse (lib.dump x) = some x
  nonempty : lib.dump x ≠ []
  proper : ∀ p s, p ++ s = lib.dump x → s ≠ [] → lib.parse p = none

end JsonLibrary

/-! ## Bytes -/

section Bytes
variable {buf : List UInt8} {cs : List Char}

theorem frameText_utf8 (cs : List Char) : frameText (utf8 cs) = some cs := by
  unfold frameText utf8
  rw [← List.utf8Encode, List.utf8Decode?_utf8Encode]
  rfl

theorem frameText_eq_some (h : frameText buf = some cs) : buf = utf8 cs := by
  unfold frameText at h
  obtain ⟨a, ha, rfl⟩ := Option.map_eq_some_iff.mp h
  have hsome : (buf.toByteArray.utf8Decode?).isSome := by
    rw [ha]
    rfl
  have hencode := @ByteArray.utf8Encode_get_utf8Decode? buf.toByteArray hsome
  have hget : buf.toByteArray.utf8Decode?.get hsome = a := Option.get_of_eq_some hsome ha
  rw [hget] at hencode
  exact (List.toByteArray_inj.mp hencode).symm

theorem utf8_ne_nil (h : cs ≠ []) : utf8 cs ≠ [] := by
  intro hnil
  have hframe := frameText_utf8 cs
  rw [hnil] at hframe
  exact h (Option.some.inj ((frameText_utf8 []).symm.trans hframe)).symm

/-- Where the bytes of a text begin with those of another one, so does the text. -/
theorem text_of_utf8_append {cs' : List Char} (h : utf8 cs' ++ buf = utf8 cs) : ∃ rest, cs' ++ rest = cs := by
  refine List.isPrefix_of_utf8Encode_append_eq_utf8Encode buf.toByteArray ?_
  show (utf8 cs').toByteArray ++ buf.toByteArray = (utf8 cs).toByteArray
  rw [← List.toByteArray_append, h]

theorem utf8_of_ascii (h : ∀ c ∈ cs, c.toNat < 128) : utf8 cs = cs.map fun c => UInt8.ofNat c.toNat := by
  induction cs with
  | nil => rfl
  | cons c cs ih =>
      have hc : c.val.toNat ≤ 0x7f := Nat.le_of_lt_succ (h c List.mem_cons_self)
      have henc : String.utf8EncodeChar c = [UInt8.ofNat c.toNat] := if_pos hc
      show String.utf8EncodeChar c ++ utf8 cs = _
      rw [henc, ih fun d hd => h d (List.mem_cons_of_mem _ hd)]
      rfl

theorem framed_utf8 {β : Type} {read : List Char → Option β} {b : β} (h : Reassembly.Framed read cs b) :
    Reassembly.Framed (fun buf => (frameText buf).bind read) (utf8 cs) b where
  whole := by
    rw [frameText_utf8]
    exact h.whole
  proper p s hps hp hs := by
    cases hframe : frameText p with
    | none => rfl
    | some cs' =>
        obtain rfl := frameText_eq_some hframe
        obtain ⟨rest, hrest⟩ := text_of_utf8_append hps
        refine h.proper cs' rest hrest ?_ ?_
        · rintro rfl
          exact hp rfl
        · rintro rfl
          rw [List.append_nil] at hrest
          subst hrest
          exact hs (List.append_right_eq_self.mp hps)

theorem framed_object {ms : List (String × Json)} (h : Json.parse cs = some (.obj ms))
    (hend : cs.getLast? = some '}') : Reassembly.Framed Json.parse cs (.obj ms) where
  whole := h
  proper p s hps _ hs := by
    subst hps
    exact Json.parse_proper h hend hs

end Bytes

/-! ## A library -/

namespace JsonLibrary

/-- The texts of `Json.dump`, read by `Json.parse`. -/
def plain : JsonLibrary where
  parse buf := (frameText buf).bind Json.parse
  dump x := utf8 x.dump

theorem plain_whole (x : Json) : plain.parse (plain.dump x) = some x := by
  show (frameText (utf8 x.dump)).bind Json.parse = some x
  rw [frameText_utf8]
  exact Json.parse_dump x

theorem plain_restores (ms : List (String × Json)) : plain.Restores (.obj ms) where
  whole := plain_whole _
  nonempty := utf8_ne_nil (List.ne_nil_of_length_pos (Json.length_dump_pos _))
  proper p s hps hs := by
    by_cases hp : p = []
    · subst hp
      show (frameText (utf8 [])).bind Json.parse = none
      rw [frameText_utf8]
      rfl
    · exact (framed_utf8 (framed_object (Json.parse_dump _) (Json.getLast_dump_obj ms))).proper p s hps hp hs

end JsonLibrary
