import Scallop.Lib.JsonBytes

/-!
# Messages to the browser

`SecureWebSocketSession::write` of `lib/net/secure_web_socket_session.h` and the message handler of
`client/src/SignalClient.ts`.

* `SecureWebSocketSession.write` : the pieces in which a text goes out;
* `SignalClient.onMessage` : what the browser makes of a piece; `SignalClient.receive` : of many;
* `SignalClient.receive_write` : the objects whose texts are written are the objects that arrive.
-/

namespace Scallop

variable {α β : Type}

/-! ## The controller's side -/

namespace SecureWebSocketSession

/-- The loop of `SecureWebSocketSession::write`: the pieces of the last `remainingBytes`. -/
def writeRemaining (data : List α) (remainingBytes : Nat) : List (List α) :=
  if 0 < remainingBytes then
    let len := min remainingBytes 1024
    (data.drop (data.length - remainingBytes)).take len ::
      writeRemaining data (remainingBytes - len)
  else []
termination_by remainingBytes
decreasing_by omega

def write (data : List α) : List (List α) := writeRemaining data data.length

theorem writeRemaining_flatten (data : List α) {n : Nat} (h : n ≤ data.length) :
    (writeRemaining data n).flatten = data.drop (data.length - n) := by
  fun_induction writeRemaining data n with
  | case1 n hn len ih =>
      have hrest : data.length - (n - len) = data.length - n + len := by omega
      rw [List.flatten_cons, ih (by omega), hrest, ← List.drop_drop, List.take_append_drop]
  | case2 n hn =>
      have hn : n = 0 := Nat.eq_zero_of_not_pos hn
      subst hn
      rw [Nat.sub_zero, List.drop_length, List.flatten_nil]

theorem writeRemaining_ne_nil (data : List α) {n : Nat} (h : n ≤ data.length) :
    ∀ p ∈ writeRemaining data n, p ≠ [] := by
  fun_induction writeRemaining data n with
  | case1 n hn len ih =>
      intro p hp
      rcases List.mem_cons.mp hp with rfl | hp
      · intro hnil
        have hlen := congrArg List.length hnil
        rw [List.length_take, List.length_drop, List.length_nil] at hlen
        omega
      · exact ih (by omega) p hp
  | case2 n hn => exact fun p hp => absurd hp List.not_mem_nil

theorem writeRemaining_map (f : α → β) (data : List α) (n : Nat) :
    writeRemaining (data.map f) n = (writeRemaining data n).map (List.map f) := by
  fun_induction writeRemaining data n with
  | case1 n hn len ih =>
      rw [writeRemaining, if_pos hn]
      dsimp only
      rw [ih, List.map_cons, List.length_map, List.map_take, List.map_drop]
  | case2 n hn => rw [writeRemaining, if_neg hn, List.map_nil]

theorem write_flatten (data : List α) : (write data).flatten = data := by
  rw [write, writeRemaining_flatten data (Nat.le_refl _), Nat.sub_self, List.drop_zero]

theorem write_map (f : α → β) (data : List α) :
    write (data.map f) = (write data).map (List.map f) := by
  rw [write, List.length_map, writeRemaining_map]
  rfl

end SecureWebSocketSession

/-! ## The browser's side -/

structure SignalClient where
  readBuffer : List Char := []
  readBufferLength : Nat := 0
deriving DecidableEq, Repr

namespace SignalClient

/-- `SignalClient._onMessage`, up to its `switch` over the message's type: the message, if the buffer
is one. -/
def onMessage (c : SignalClient) (data : List Char) : SignalClient × Option Json :=
  let readBuffer := c.readBuffer ++ data
  match Json.parse readBuffer with
  | some msg => ({ readBuffer := [], readBufferLength := 0 }, some msg)
  | none => ({ readBuffer, readBufferLength := c.readBufferLength + data.length }, none)

/-- The messages among the frames of a connection. -/
def receive (c : SignalClient) : List (List UInt8) → Option (SignalClient × List Json)
  | [] => some (c, [])
  | p :: ps =>
      (frameText p).bind fun data =>
        ((c.onMessage data).1.receive ps).map fun r =>
          (r.1, (c.onMessage data).2.toList ++ r.2)

end SignalClient

/-! ## From one side to the other -/

/-- A text of one-byte characters goes out in pieces of characters. -/
theorem write_utf8 {cs : List Char} (h : ∀ c ∈ cs, c.toNat < 128) :
    SecureWebSocketSession.write (utf8 cs) = (SecureWebSocketSession.write cs).map utf8 := by
  rw [utf8_of_ascii h, SecureWebSocketSession.write_map]
  apply List.map_congr_left
  intro p hp
  refine (utf8_of_ascii fun c hc => h c ?_).symm
  rw [← SecureWebSocketSession.write_flatten cs]
  exact List.mem_flatten_of_mem hp hc

namespace SignalClient

def ofBuffer (buf : List Char) : SignalClient := { readBuffer := buf, readBufferLength := buf.length }

theorem onMessage_ofBuffer (buf data : List Char) : (ofBuffer buf).onMessage data =
    match Json.parse (buf ++ data) with
    | some msg => (ofBuffer [], some msg)
    | none => (ofBuffer (buf ++ data), none) := by
  unfold onMessage ofBuffer
  rw [List.length_append]
  rfl

/-- The browser is a receiver without framing. -/
theorem receive_map_utf8 (buf : List Char) (ps : List (List Char)) :
    (ofBuffer buf).receive (ps.map utf8) =
      some (ofBuffer (Reassembly.feed Json.parse buf ps).1,
        (Reassembly.feed Json.parse buf ps).2) := by
  induction ps generalizing buf with
  | nil => rfl
  | cons p ps ih =>
      rw [List.map_cons, receive, frameText_utf8, Option.bind_some, onMessage_ofBuffer,
        Reassembly.feed]
      cases Json.parse (buf ++ p) with
      | none =>
          dsimp only
          rw [ih]
          rfl
      | some msg =>
          dsimp only
          rw [ih]
          rfl

/-- Objects arrive as they were written, each once and in order, in whatever way their texts are laid out. -/
theorem receive_write (ms : List (List Char × List (String × Json)))
    (hobj : ∀ m ∈ ms, Json.parse m.1 = some (.obj m.2)) (hend : ∀ m ∈ ms, m.1.getLast? = some '}')
    (hascii : ∀ m ∈ ms, ∀ c ∈ m.1, c.toNat < 128) :
    ({} : SignalClient).receive (ms.flatMap fun m => SecureWebSocketSession.write (utf8 m.1)) =
      some ({}, ms.map fun m => .obj m.2) := by
  have hpieces : (ms.flatMap fun m => SecureWebSocketSession.write (utf8 m.1)) =
      (ms.flatMap fun m => SecureWebSocketSession.write m.1).map utf8 := by
    rw [List.map_flatMap]
    exact List.flatMap_congr fun m hm => write_utf8 (hascii m hm)
  have hfeed : Reassembly.feed Json.parse [] (ms.flatMap fun m => SecureWebSocketSession.write m.1) =
      ([], ms.map fun m => .obj m.2) := by
    apply Reassembly.feed_flatMap
    intro m hm
    refine Reassembly.feed_pieces (framed_object (hobj m hm) (hend m hm))
      (SecureWebSocketSession.writeRemaining_ne_nil _ (Nat.le_refl _)) ?_
      (SecureWebSocketSession.write_flatten _)
    intro hnil
    have hflat := SecureWebSocketSession.write_flatten m.1
    rw [hnil] at hflat
    have hlast := hend m hm
    rw [← hflat] at hlast
    cases hlast
  rw [hpieces]
  show (ofBuffer []).receive _ = _
  rw [receive_map_utf8, hfeed]
  rfl

def exampleHello : List Char :=
  ['{', ' ', '"', 't', 'y', 'p', 'e', '"', ':', ' ', '"', 'h', 'e', 'l', 'l', 'o', '"', ' ', '}']

/-- An offer with a description of so many characters. -/
def exampleOffer (n : Nat) : List (String × Json) := [("sdp", .str (String.ofList (List.replicate n 'a')))]

theorem ascii_of_all {cs : List Char} (h : cs.all (fun c => decide (c.toNat < 128)) = true) :
    ∀ c ∈ cs, c.toNat < 128 := by
  intro c hc
  exact of_decide_eq_true (List.all_eq_true.mp h c hc)

theorem ascii_exampleOffer (n : Nat) : ∀ c ∈ (Json.obj (exampleOffer n)).dump, c.toNat < 128 := by
  have hescape : (String.ofList (List.replicate n 'a')).toList.flatMap Json.escape = List.replicate n 'a' := by
    have hone : Json.escape 'a' = ['a'] := by decide
    rw [String.toList_ofList, List.flatMap_replicate, hone, List.flatten_replicate_singleton]
  have hdump : (Json.obj (exampleOffer n)).dump =
      ['{', '"', 's', 'd', 'p', '"', ':', '"'] ++ (List.replicate n 'a' ++ ['"', '}']) := by
    show '{' :: (Json.dumpString "sdp" ++ ':' :: ('"' :: (_ ++ ['"']) ++ ['}'])) = _
    rw [hescape, List.cons_append, List.append_assoc]
    rfl
  have hends : ∀ c ∈ ['{', '"', 's', 'd', 'p', '"', ':', '"'] ++ ['"', '}'], c.toNat < 128 :=
    ascii_of_all rfl
  rw [hdump]
  intro c hc
  rcases List.mem_append.mp hc with hc | hc
  · exact hends c (List.mem_append_left _ hc)
  rcases List.mem_append.mp hc with hc | hc
  · rw [List.eq_of_mem_replicate hc]
    decide
  · exact hends c (List.mem_append_right _ hc)

def exampleTexts : List (List Char × List (String × Json)) :=
  [(exampleHello, [("type", .str "hello")]), ((Json.obj (exampleOffer 1100)).dump, exampleOffer 1100)]

theorem receive_write_hello :
    ({} : SignalClient).receive (exampleTexts.flatMap fun m => SecureWebSocketSession.write (utf8 m.1)) =
      some ({}, exampleTexts.map fun m => .obj m.2) := by
  apply receive_write
  · intro m hm
    rcases List.mem_cons.mp hm with rfl | hm
    · rfl
    · obtain rfl := List.mem_singleton.mp hm
      exact Json.parse_dump (.obj (exampleOffer 1100))
  · intro m hm
    rcases List.mem_cons.mp hm with rfl | hm
    · rfl
    · obtain rfl := List.mem_singleton.mp hm
      exact Json.getLast_dump_obj (exampleOffer 1100)
  · intro m hm
    rcases List.mem_cons.mp hm with rfl | hm
    · exact ascii_of_all rfl
    · obtain rfl := List.mem_singleton.mp hm
      exact ascii_exampleOffer 1100

end SignalClient

end Scallop
