import Mathlib.Data.List.TakeWhile
import Mathlib.Data.UInt
import Scallop.DataPlane.Rtp

/-!
# Addresses and web sockets

`net::IPv4` and `net::IPv4Prefix` of `lib/net/net.h`; the sessions of the web socket servers, and the
connections that an interface of the controller keeps for them.

* `stoi` : what `std::stoi` reads; `IPv4.ofString`, `IPv4.str`, `IPv4.ofString_str` : an address reads
  back as it was printed;
* `IPv4Prefix`, `isInSubnet`;
* endpoints are ordered by address, then by port;
* `WebSocketSession`, `Connections` : `accept`, `find?`, `findIf`, `erase`, `setMetaData`, `close`.
-/

namespace Scallop

/-! ## Addresses -/

def isSpace (c : Char) : Bool := c = ' ' ∨ 9 ≤ c.toNat ∧ c.toNat ≤ 13

def leadingNat (cs : List Char) : Option Nat :=
  match cs.takeWhile Char.isDigit with
  | [] => none
  | ds => some (Nat.ofDigitChars 10 ds 0)

/-- `std::stoi`; `none` for either exception. -/
def stoi (cs : List Char) : Option Int :=
  let n : Option Int := match cs.dropWhile isSpace with
    | '-' :: ds => (leadingNat ds).map fun n => -(n : Int)
    | '+' :: ds => (leadingNat ds).map Int.ofNat
    | ds => (leadingNat ds).map Int.ofNat
  n.filter fun n => -2 ^ 31 ≤ n ∧ n < 2 ^ 31

theorem leadingNat_toDigits (n : Nat) : leadingNat (Nat.toDigits 10 n) = some n := by
  have hall : (Nat.toDigits 10 n).takeWhile Char.isDigit = Nat.toDigits 10 n :=
    List.takeWhile_eq_self_iff.mpr fun c hc =>
      Nat.isDigit_of_mem_toDigits (by decide) (by decide) hc
  unfold leadingNat
  rw [hall]
  split
  next hnil => exact absurd hnil Nat.toDigits_ne_nil
  next => rw [Nat.ofDigitChars_ten_toDigits]

theorem isSpace_eq_false_of_isDigit {c : Char} (h : c.isDigit = true) : isSpace c = false := by
  have hc := Char.isDigit_iff_toNat.mp h
  have hs : c ≠ ' ' := by
    rintro rfl
    exact absurd h (by decide)
  have hr : ¬ (9 ≤ c.toNat ∧ c.toNat ≤ 13) := by
    have h0 : ('0' : Char).toNat = 48 := rfl
    omega
  exact decide_eq_false (not_or.mpr ⟨hs, hr⟩)

theorem stoi_toDigits {n : Nat} (h : n < 2 ^ 31) : stoi (Nat.toDigits 10 n) = some (n : Int) := by
  have hdigit (c : Char) (hc : c ∈ Nat.toDigits 10 n) : c.isDigit = true :=
    Nat.isDigit_of_mem_toDigits (by decide) (by decide) hc
  have hdrop : (Nat.toDigits 10 n).dropWhile isSpace = Nat.toDigits 10 n := by
    cases hd : Nat.toDigits 10 n with
    | nil => rfl
    | cons c ds =>
        have hc := isSpace_eq_false_of_isDigit (hdigit c (hd ▸ List.mem_cons_self))
        rw [List.dropWhile_cons_of_neg (by rw [hc]; decide)]
  have hsome : Option.filter (fun z : Int => decide (-2 ^ 31 ≤ z ∧ z < 2 ^ 31)) (some (n : Int)) =
      some (n : Int) := by
    rw [Option.filter_some, if_pos]
    exact decide_eq_true (by omega)
  unfold stoi
  rw [hdrop]
  split
  next ds hd => exact absurd (hdigit '-' (hd ▸ List.mem_cons_self)) (by decide)
  next ds hd => exact absurd (hdigit '+' (hd ▸ List.mem_cons_self)) (by decide)
  next => rw [leadingNat_toDigits]; exact hsome

namespace IPv4

def octet (cs : List Char) : Option Nat :=
  (stoi cs).bind fun n => if 0 ≤ n ∧ n ≤ 255 then some n.toNat else none

def ofOctets (a b c d : Nat) : UInt32 := .ofNat (a * 2 ^ 24 + b * 2 ^ 16 + c * 2 ^ 8 + d)

/-- `net::IPv4(const std::string&)`. -/
def ofString (s : String) : Except Fault UInt32 :=
  let invalid := Fault.invalidArgument ("net::IPv4: invalid address: " ++ s)
  match s.toList.splitOn '.' with
  | [a, b, c, d] =>
      match octet a, octet b, octet c, octet d with
      | some a, some b, some c, some d => .ok (ofOctets a b c d)
      | _, _, _, _ => .error invalid
  | _ => .error invalid

/-- `net::IPv4::str`, which is also how `boost::asio` prints an address. -/
def str (ip : UInt32) : String :=
  toString (ip.toNat / 2 ^ 24 % 256) ++ "." ++ toString (ip.toNat / 2 ^ 16 % 256) ++ "." ++
    toString (ip.toNat / 2 ^ 8 % 256) ++ "." ++ toString (ip.toNat % 256)

/-- `net::IPv4::isInSubnet`; a prefix of more than 32 bits, for which the shift of the source is
undefined, counts as one of 32. -/
def isInSubnet (ip subnet : UInt32) (prefixLength : Nat) : Bool :=
  let mask : UInt32 := if prefixLength = 0 then 0 else .ofNat (2 ^ 32 - 2 ^ (32 - prefixLength))
  ip &&& mask = subnet &&& mask

theorem octet_toDigits {n : Nat} (h : n < 256) : octet (Nat.toDigits 10 n) = some n := by
  unfold octet
  rw [stoi_toDigits (by omega)]
  have hn : (0 : Int) ≤ n ∧ (n : Int) ≤ 255 := by omega
  rw [Option.bind_some, if_pos hn]
  rfl

theorem dot_notMem_toDigits (n : Nat) : '.' ∉ Nat.toDigits 10 n := by
  intro h
  have hd := Nat.isDigit_of_mem_toDigits (by decide) (by decide) h
  exact absurd hd (by decide)

theorem splitOn_str (ip : UInt32) : (str ip).toList.splitOn '.' =
    [Nat.toDigits 10 (ip.toNat / 2 ^ 24 % 256), Nat.toDigits 10 (ip.toNat / 2 ^ 16 % 256),
      Nat.toDigits 10 (ip.toNat / 2 ^ 8 % 256), Nat.toDigits 10 (ip.toNat % 256)] := by
  have hdot : (".").toList = ['.'] := rfl
  unfold str
  simp only [String.toList_append, hdot, Nat.toString_eq_repr, Nat.toList_repr, List.append_assoc,
    List.cons_append, List.nil_append]
  rw [List.splitOn_append_cons_self_of_not_mem (dot_notMem_toDigits _),
    List.splitOn_append_cons_self_of_not_mem (dot_notMem_toDigits _),
    List.splitOn_append_cons_self_of_not_mem (dot_notMem_toDigits _),
    List.splitOn_eq_singleton (dot_notMem_toDigits _)]

theorem ofOctets_octets (ip : UInt32) :
    ofOctets (ip.toNat / 2 ^ 24 % 256) (ip.toNat / 2 ^ 16 % 256) (ip.toNat / 2 ^ 8 % 256)
      (ip.toNat % 256) = ip := by
  have hlt := ip.toNat_lt
  apply UInt32.toNat_inj.mp
  unfold ofOctets
  rw [UInt32.toNat_ofNat']
  omega

theorem ofString_str (ip : UInt32) : ofString (str ip) = .ok ip := by
  have h (n : Nat) : n % 256 < 256 := Nat.mod_lt _ (by decide)
  unfold ofString
  rw [splitOn_str]
  dsimp only
  rw [octet_toDigits (h _), octet_toDigits (h _), octet_toDigits (h _), octet_toDigits (h _)]
  dsimp only
  rw [ofOctets_octets]

end IPv4

structure IPv4Prefix where
  ip : UInt32
  prefixLength : Nat
deriving DecidableEq, Repr

/-! ## Endpoints -/

namespace IPv4Port

def rank (a : IPv4Port) : Nat := a.ip.toNat * 2 ^ 16 + a.port.toNat

theorem rank_inj {a b : IPv4Port} (h : a.rank = b.rank) : a = b := by
  have ha := a.port.toNat_lt
  have hb := b.port.toNat_lt
  unfold rank at h
  have hip : a.ip = b.ip := UInt32.toNat_inj.mp (by omega)
  have hport : a.port = b.port := UInt16.toNat_inj.mp (by omega)
  cases a
  cases b
  rw [IPv4Port.mk.injEq]
  exact ⟨hip, hport⟩

instance : Ord IPv4Port := ⟨compareOn rank⟩

instance : Std.TransOrd IPv4Port := inferInstanceAs (Std.TransCmp (compareOn rank))

instance : Std.LawfulEqOrd IPv4Port where
  eq_of_compare h := rank_inj (Std.LawfulEqOrd.eq_of_compare (α := Nat) h)

end IPv4Port

/-! ## Connections -/

/-- A session of a web socket server: its remote endpoint, and what it is tagged with. -/
structure WebSocketSession (Meta : Type) where
  remote : IPv4Port
  metaData : Meta
  isOpen : Bool := true
deriving Repr

/-- The sessions that a server accepted, in order, and the connections that an interface keeps: for
an endpoint, the number of the session that its connection wraps. -/
structure Connections (Meta : Type) where
  accepted : List (WebSocketSession Meta) := []
  connections : Std.ExtTreeMap IPv4Port Nat := ∅

namespace Connections

variable {Meta : Type} [Inhabited Meta] (cs : Connections Meta)

def metaData (i : Nat) : Meta :=
  match cs.accepted[i]? with
  | some s => s.metaData
  | none => default

def setMetaData (i : Nat) (m : Meta) : Connections Meta :=
  { cs with accepted := cs.accepted.modify i fun s => { s with metaData := m } }

/-- A new session, and a connection for it unless its endpoint has one (`std::map::emplace`). -/
def accept (remote : IPv4Port) : Connections Meta where
  accepted := cs.accepted ++ [{ remote, metaData := default }]
  connections := cs.connections.insertIfNew remote cs.accepted.length

/-- The session is over; its connection stays. -/
def close (i : Nat) : Connections Meta :=
  { cs with accepted := cs.accepted.modify i fun s => { s with isOpen := false } }

/-- The session that the connection of an endpoint wraps. -/
def find? (remote : IPv4Port) : Option Nat := cs.connections[remote]?

/-- The first connection whose meta data meets `p`. -/
def findIf (p : Meta → Bool) : Option (IPv4Port × Nat) :=
  cs.connections.toList.find? fun e => p (cs.metaData e.2)

def erase (remote : IPv4Port) : Connections Meta :=
  { cs with connections := cs.connections.erase remote }

end Connections

end Scallop
