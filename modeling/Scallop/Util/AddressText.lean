import Scallop.Util.Addresses

/-!
# Addresses that read exactly

The constructor of `net::IPv4` of `lib/net/net.h` that takes a text, and the networks and ports of `lib/util.h`. The
constructor reads its four parts with `std::stoi`, which skips blanks, takes a sign and stops at the first character
that is not a digit.

* `scan`, `Spells` : how the library reads a number; `stoi_eq`, `octet_eq_some_iff`;
* `IsAddress` : four numbers up to 255 with dots between them; `Tolerated` : other texts that are read;
* `ofString_eq_ok_iff` : what is accepted; `ofString_exact_iff` : that is an address just when the text is
  not one of the others;
* `addressed_exact_iff` : networks and ports are exact just when no number that is written is too large.
-/

namespace Scallop

open Regex (Stops)
open Sdp (Over)

namespace Util

/-- `strtol` and `strtoul`: whether there is a minus sign, and the number. -/
def scan (cs : List Char) : Option (Bool × Nat) :=
  match cs.dropWhile isSpace with
  | '-' :: ds => (leadingNat ds).map fun n => (true, n)
  | '+' :: ds => (leadingNat ds).map fun n => (false, n)
  | ds => (leadingNat ds).map fun n => (false, n)

/-- Blanks, a sign, and a number; anything else may follow. -/
def Spells (sign : List Char) (n : Nat) (cs : List Char) : Prop :=
  ∃ blanks ds rest, cs = blanks ++ (sign ++ (ds ++ rest)) ∧ (∀ c ∈ blanks, isSpace c = true) ∧ ds ≠ [] ∧
    (∀ c ∈ ds, c.isDigit = true) ∧ Stops Char.isDigit rest ∧ n = Nat.ofDigitChars 10 ds 0

def signs (neg : Bool) : List (List Char) := if neg then [['-']] else [['+'], []]

section Numbers
variable {cs sign : List Char} {n : Nat} {neg : Bool}

theorem stops_dropWhile {p : Char → Bool} : Stops p (cs.dropWhile p) := by
  intro c hc
  have hne : cs.dropWhile p ≠ [] := by
    intro hnil
    rw [hnil] at hc
    cases hc
  have hhead := List.head_dropWhile_not p hne
  rw [List.head?_eq_some_head hne] at hc
  obtain rfl := Option.some.inj hc
  exact hhead

theorem leadingNat_eq_some (h : leadingNat cs = some n) :
    ∃ ds rest, cs = ds ++ rest ∧ ds ≠ [] ∧ (∀ c ∈ ds, c.isDigit = true) ∧ Stops Char.isDigit rest ∧
      n = Nat.ofDigitChars 10 ds 0 := by
  refine ⟨_, _, (List.takeWhile_append_dropWhile (p := Char.isDigit)).symm, ?_, ?_, stops_dropWhile, ?_⟩
  · intro hnil
    unfold leadingNat at h
    rw [hnil] at h
    cases h
  · intro c hc
    exact List.mem_takeWhile_imp hc
  · unfold leadingNat at h
    split at h
    next => cases h
    next ds hds => exact (Option.some.inj h).symm

theorem dropWhile_of_stops {p : Char → Bool} {rest : List Char} (h : Stops p rest) : rest.dropWhile p = rest := by
  cases rest with
  | nil => rfl
  | cons c rest => rw [List.dropWhile_cons_of_neg (by rw [h c rfl]; decide)]

theorem dropWhile_of_spells {blanks ds rest : List Char} (hsign : sign ∈ signs neg)
    (hblanks : ∀ c ∈ blanks, isSpace c = true) (hne : ds ≠ []) (hdigits : ∀ c ∈ ds, c.isDigit = true) :
    (blanks ++ (sign ++ (ds ++ rest))).dropWhile isSpace = sign ++ (ds ++ rest) := by
  rw [List.dropWhile_append_of_pos hblanks]
  apply dropWhile_of_stops
  intro c hc
  obtain ⟨d, ds, rfl⟩ := List.exists_cons_of_ne_nil hne
  have hd := isSpace_eq_false_of_isDigit (hdigits d List.mem_cons_self)
  unfold signs at hsign
  split at hsign
  next =>
    obtain rfl := List.mem_singleton.mp hsign
    obtain rfl := Option.some.inj hc
    rfl
  next =>
    rcases List.mem_pair.mp hsign with rfl | rfl
    · obtain rfl := Option.some.inj hc
      rfl
    · obtain rfl := Option.some.inj hc
      exact hd

theorem scan_of_spells (hsign : sign ∈ signs neg) (h : Spells sign n cs) : scan cs = some (neg, n) := by
  obtain ⟨blanks, ds, rest, rfl, hblanks, hne, hdigits, hrest, rfl⟩ := h
  have hlead := leadingNat_append hne hdigits hrest
  unfold scan
  rw [dropWhile_of_spells hsign hblanks hne hdigits]
  cases neg with
  | true =>
      obtain rfl := List.mem_singleton.mp hsign
      show (leadingNat (ds ++ rest)).map _ = _
      rw [hlead]
      rfl
  | false =>
      rcases List.mem_pair.mp hsign with rfl | rfl
      · show (leadingNat (ds ++ rest)).map _ = _
        rw [hlead]
        rfl
      · obtain ⟨d, ds, rfl⟩ := List.exists_cons_of_ne_nil hne
        have hd := hdigits d List.mem_cons_self
        rw [List.nil_append]
        split
        next heq =>
          obtain ⟨rfl, -⟩ := List.cons.inj heq
          exact absurd hd (by decide)
        next heq =>
          obtain ⟨rfl, -⟩ := List.cons.inj heq
          exact absurd hd (by decide)
        next =>
          rw [hlead]
          rfl

theorem spells_of_leadingNat {rest : List Char} (hcs : cs.dropWhile isSpace = sign ++ rest)
    (h : leadingNat rest = some n) : Spells sign n cs := by
  obtain ⟨ds, rest, rfl, hne, hdigits, hrest, hn⟩ := leadingNat_eq_some h
  refine ⟨cs.takeWhile isSpace, ds, rest, ?_, fun c hc => List.mem_takeWhile_imp hc, hne, hdigits, hrest, hn⟩
  rw [← hcs, List.takeWhile_append_dropWhile]

/-- A number is read where blanks, one of the signs and a number stand at the beginning. -/
theorem scan_eq_some_iff : scan cs = some (neg, n) ↔ ∃ sign ∈ signs neg, Spells sign n cs := by
  constructor
  · intro h
    have hread {ds : List Char} {b : Bool} (h : (leadingNat ds).map (fun n => (b, n)) = some (neg, n)) :
        leadingNat ds = some n ∧ b = neg := by
      obtain ⟨k, hk, heq⟩ := Option.map_eq_some_iff.mp h
      obtain ⟨rfl, rfl⟩ := Prod.mk.inj heq
      exact ⟨hk, rfl⟩
    unfold scan at h
    split at h
    next ds hds =>
      obtain ⟨hlead, rfl⟩ := hread h
      exact ⟨['-'], List.mem_cons_self, spells_of_leadingNat hds hlead⟩
    next ds hds =>
      obtain ⟨hlead, rfl⟩ := hread h
      exact ⟨['+'], List.mem_cons_self, spells_of_leadingNat hds hlead⟩
    next =>
      obtain ⟨hlead, rfl⟩ := hread h
      exact ⟨[], List.mem_cons_of_mem _ List.mem_cons_self, spells_of_leadingNat rfl hlead⟩
  · intro ⟨sign, hsign, h⟩
    exact scan_of_spells hsign h

theorem stoi_eq (cs : List Char) :
    stoi cs = ((scan cs).map fun (neg, n) => if neg then -(n : Int) else n).filter
      fun z => -2 ^ 31 ≤ z ∧ z < 2 ^ 31 := by
  unfold stoi
  split
  next ds hds =>
    have hscan : scan cs = (leadingNat ds).map fun n => (true, n) := by
      unfold scan
      rw [hds]
      rfl
    rw [hscan]
    cases leadingNat ds with
    | none => rfl
    | some n => rfl
  next ds hds =>
    have hscan : scan cs = (leadingNat ds).map fun n => (false, n) := by
      unfold scan
      rw [hds]
      rfl
    rw [hscan]
    cases leadingNat ds with
    | none => rfl
    | some n => rfl
  next hminus hplus =>
    have hscan : scan cs = (leadingNat (cs.dropWhile isSpace)).map fun n => (false, n) := by
      unfold scan
      split
      next ds hds => exact (hminus ds hds).elim
      next ds hds => exact (hplus ds hds).elim
      next => rfl
    rw [hscan]
    cases leadingNat (cs.dropWhile isSpace) with
    | none => rfl
    | some n => rfl

theorem octet_range (z : Int) : ((some z).filter fun z => decide (-2 ^ 31 ≤ z ∧ z < 2 ^ 31)).bind
    (fun z => if 0 ≤ z ∧ z ≤ 255 then some z.toNat else none) = some n ↔ n ≤ 255 ∧ z = n := by
  rw [Option.filter_some]
  by_cases hz : -2 ^ 31 ≤ z ∧ z < 2 ^ 31
  · rw [if_pos (decide_eq_true hz), Option.bind_some]
    split
    next => simp; omega
    next => simp; omega
  · rw [if_neg (by rw [decide_eq_false hz]; decide)]
    simp
    omega

/-- A part of an address: only zero may have a minus sign. -/
theorem octet_eq_some_iff :
    IPv4.octet cs = some n ↔ n ≤ 255 ∧ ∃ neg, (neg = true → n = 0) ∧ scan cs = some (neg, n) := by
  unfold IPv4.octet
  rw [stoi_eq]
  cases scan cs with
  | none => simp
  | some r =>
      obtain ⟨neg, k⟩ := r
      rw [Option.map_some, octet_range]
      cases neg with
      | true => simp; omega
      | false => simp

theorem octet_over {t : String} (h : Over Char.isDigit t) : IPv4.octet t.toList = some n ↔ n ≤ 255 ∧ number t = n := by
  have hscan : scan t.toList = some (false, number t) := by
    have hsign : [] ∈ signs false := List.mem_cons_of_mem _ List.mem_cons_self
    refine scan_of_spells hsign ⟨[], t.toList, [], ?_, List.forall_mem_nil _, ?_, h.2, Regex.stops_nil, rfl⟩
    · simp
    · exact fun hnil => h.1 (String.toList_inj.mp hnil)
  rw [octet_eq_some_iff, hscan]
  simp

end Numbers

/-! ## Addresses -/

def IsOctet (t : String) : Prop := Over Char.isDigit t ∧ number t ≤ 255

/-- Four numbers up to 255 with dots between them, and what they come to. -/
def IsAddress (s : String) (ip : UInt32) : Prop :=
  ∃ a b c d, IsOctet a ∧ IsOctet b ∧ IsOctet c ∧ IsOctet d ∧ s = a ++ "." ++ b ++ "." ++ c ++ "." ++ d ∧
    ip.toNat = number a * 2 ^ 24 + number b * 2 ^ 16 + number c * 2 ^ 8 + number d

/-- A number up to 255, or a negative zero, with blanks before it and anything after it. -/
def ReadsOctet (t : List Char) : Prop :=
  (∃ n ≤ 255, Spells ['+'] n t ∨ Spells [] n t) ∨ Spells ['-'] 0 t

/-- Four parts that are read, but some part is more than a number. -/
def Tolerated (s : String) : Prop :=
  ∃ a b c d, s.toList.splitOn '.' = [a, b, c, d] ∧ (∀ t ∈ [a, b, c, d], ReadsOctet t) ∧
    ∃ t ∈ [a, b, c, d], ∃ x ∈ t, x.isDigit = false

section Addresses
variable {s : String} {ip : UInt32} {t : List Char}

theorem readsOctet_iff : ReadsOctet t ↔ ∃ n, IPv4.octet t = some n := by
  unfold ReadsOctet
  simp only [octet_eq_some_iff, scan_eq_some_iff]
  constructor
  · intro h
    rcases h with ⟨n, hn, hplus | hnone⟩ | hminus
    · exact ⟨n, hn, false, nofun, ['+'], List.mem_cons_self, hplus⟩
    · exact ⟨n, hn, false, nofun, [], List.mem_cons_of_mem _ List.mem_cons_self, hnone⟩
    · exact ⟨0, by decide, true, fun _ => rfl, ['-'], List.mem_cons_self, hminus⟩
  · intro ⟨n, hn, neg, hzero, sign, hsign, h⟩
    cases neg with
    | true =>
        obtain rfl := List.mem_singleton.mp hsign
        obtain rfl := hzero rfl
        exact .inr h
    | false =>
        rcases List.mem_pair.mp hsign with rfl | rfl
        · exact .inl ⟨n, hn, .inl h⟩
        · exact .inl ⟨n, hn, .inr h⟩

theorem forall_mem_four {P : List Char → Prop} {a b c d : List Char} :
    (∀ t ∈ [a, b, c, d], P t) ↔ P a ∧ P b ∧ P c ∧ P d := by
  simp

/-- What is accepted, and what is made of it. -/
theorem ofString_eq_ok_iff : IPv4.ofString s = .ok ip ↔
    ∃ a b c d, s.toList.splitOn '.' = [a, b, c, d] ∧ ∃ i j k l, IPv4.octet a = some i ∧ IPv4.octet b = some j ∧
      IPv4.octet c = some k ∧ IPv4.octet d = some l ∧ IPv4.ofOctets i j k l = ip := by
  constructor
  · intro h
    unfold IPv4.ofString at h
    split at h
    next a b c d hparts =>
      split at h
      next i j k l ha hb hc hd => exact ⟨a, b, c, d, hparts, i, j, k, l, ha, hb, hc, hd, Except.ok.inj h⟩
      next => cases h
    next => cases h
  · intro ⟨a, b, c, d, hparts, i, j, k, l, ha, hb, hc, hd, hip⟩
    unfold IPv4.ofString
    rw [hparts]
    dsimp only
    rw [ha, hb, hc, hd, ← hip]

theorem splitOn_dotted {a b c d : String} (ha : Over Char.isDigit a) (hb : Over Char.isDigit b)
    (hc : Over Char.isDigit c) (hd : Over Char.isDigit d) :
    (a ++ "." ++ b ++ "." ++ c ++ "." ++ d).toList.splitOn '.' = [a.toList, b.toList, c.toList, d.toList] := by
  have hdot : (".").toList = ['.'] := rfl
  simp only [String.toList_append, hdot, List.append_assoc, List.cons_append, List.nil_append]
  rw [List.splitOn_append_cons_self_of_not_mem (notMem_of_over ha rfl),
    List.splitOn_append_cons_self_of_not_mem (notMem_of_over hb rfl),
    List.splitOn_append_cons_self_of_not_mem (notMem_of_over hc rfl),
    List.splitOn_eq_singleton (notMem_of_over hd rfl)]

/-- An address is accepted, and splits into its numbers. -/
theorem ofString_of_isAddress (h : IsAddress s ip) :
    IPv4.ofString s = .ok ip ∧ ∀ t ∈ s.toList.splitOn '.', ∀ x ∈ t, x.isDigit = true := by
  obtain ⟨a, b, c, d, ha, hb, hc, hd, rfl, hip⟩ := h
  have hsplit := splitOn_dotted ha.1 hb.1 hc.1 hd.1
  constructor
  · refine ofString_eq_ok_iff.mpr ⟨_, _, _, _, hsplit, _, _, _, _, (octet_over ha.1).mpr ⟨ha.2, rfl⟩,
      (octet_over hb.1).mpr ⟨hb.2, rfl⟩, (octet_over hc.1).mpr ⟨hc.2, rfl⟩, (octet_over hd.1).mpr ⟨hd.2, rfl⟩, ?_⟩
    rw [← UInt32.toNat_inj, hip]
    unfold IPv4.ofOctets
    rw [UInt32.toNat_ofNat']
    have ha := ha.2
    have hb := hb.2
    have hc := hc.2
    have hd := hd.2
    omega
  · rw [hsplit, forall_mem_four]
    exact ⟨ha.1.2, hb.1.2, hc.1.2, hd.1.2⟩

theorem isOctet_of_octet {n : Nat} (h : IPv4.octet t = some n) (hdigits : ∀ x ∈ t, x.isDigit = true) :
    IsOctet (.ofList t) ∧ number (.ofList t) = n := by
  have hne : t ≠ [] := by
    rintro rfl
    cases h
  have hover : Over Char.isDigit (.ofList t) := over_ofList.mpr ⟨hne, hdigits⟩
  rw [← String.toList_ofList (l := t)] at h
  obtain ⟨hle, hn⟩ := (octet_over hover).mp h
  exact ⟨⟨hover, hn ▸ hle⟩, hn⟩

theorem isAddress_of_ofString (h : IPv4.ofString s = .ok ip)
    (hdigits : ∀ t ∈ s.toList.splitOn '.', ∀ x ∈ t, x.isDigit = true) : IsAddress s ip := by
  obtain ⟨a, b, c, d, hparts, i, j, k, l, ha, hb, hc, hd, hip⟩ := ofString_eq_ok_iff.mp h
  rw [hparts, forall_mem_four] at hdigits
  obtain ⟨hda, hdb, hdc, hdd⟩ := hdigits
  obtain ⟨ha, hi⟩ := isOctet_of_octet ha hda
  obtain ⟨hb, hj⟩ := isOctet_of_octet hb hdb
  obtain ⟨hc, hk⟩ := isOctet_of_octet hc hdc
  obtain ⟨hd, hl⟩ := isOctet_of_octet hd hdd
  refine ⟨_, _, _, _, ha, hb, hc, hd, ?_, ?_⟩
  · have hjoin : s.toList = ['.'].intercalate (s.toList.splitOn '.') := (List.intercalate_splitOn '.').symm
    rw [← String.toList_inj, hjoin, hparts]
    simp [List.intercalate]
  · rw [← hip, hi, hj, hk, hl]
    have ha := ha.2
    have hb := hb.2
    have hc := hc.2
    have hd := hd.2
    unfold IPv4.ofOctets
    rw [UInt32.toNat_ofNat']
    omega

/-- Addresses read back, and what is accepted is an address just when the text is not one of those that
are tolerated. -/
theorem ofString_exact_iff (s : String) : (∀ ip, IPv4.ofString (IPv4.str ip) = .ok ip) ∧
    ((∀ ip, IPv4.ofString s = .ok ip ↔ IsAddress s ip) ↔ ¬ Tolerated s) := by
  refine ⟨IPv4.ofString_str, ?_, ?_⟩
  · intro h ⟨a, b, c, d, hparts, hreads, t, ht, x, hx, hdigit⟩
    simp only [forall_mem_four, readsOctet_iff] at hreads
    obtain ⟨⟨i, ha⟩, ⟨j, hb⟩, ⟨k, hc⟩, l, hd⟩ := hreads
    have haddr := (h _).mp (ofString_eq_ok_iff.mpr ⟨a, b, c, d, hparts, i, j, k, l, ha, hb, hc, hd, rfl⟩)
    have hdigits := (ofString_of_isAddress haddr).2
    rw [hparts] at hdigits
    rw [hdigits t ht x hx] at hdigit
    cases hdigit
  · intro h ip
    refine ⟨fun hok => isAddress_of_ofString hok ?_, fun haddr => (ofString_of_isAddress haddr).1⟩
    obtain ⟨a, b, c, d, hparts, i, j, k, l, ha, hb, hc, hd, -⟩ := ofString_eq_ok_iff.mp hok
    intro t ht x hx
    by_contra hdigit
    refine h ⟨a, b, c, d, hparts, ?_, t, hparts ▸ ht, x, hx, Bool.eq_false_iff.mpr hdigit⟩
    simp only [forall_mem_four, readsOctet_iff]
    exact ⟨⟨i, ha⟩, ⟨j, hb⟩, ⟨k, hc⟩, l, hd⟩

/-- What follows the last number is read over. -/
theorem ofString_trailing : IPv4.ofString "1.2.3.4x" = .ok 0x01020304 ∧ ¬ IsAddress "1.2.3.4x" 0x01020304 := by
  constructor
  · rfl
  · intro h
    have hdigits := (ofString_of_isAddress h).2 ['4', 'x'] (by decide) 'x' (by decide)
    exact absurd hdigits (by decide)

end Addresses

/-! ## Networks and ports -/

/-- What is read of a network is the address and the prefix that are written, and the subnet test compares this
prefix. -/
def NetworkExact (s : String) : Prop :=
  ∀ ip len, parseCIDR s = .ok (ip, len) →
    (∃ n, s = ip ++ "/" ++ n ∧ Over Char.isDigit n ∧ len.toNat = number n ∧ len.toNat ≤ 32) ∧
      ∃ net, IsAddress ip net ∧ IPv4.ofString ip = .ok net ∧
        ∀ addr, IPv4.isInSubnet addr net len.toNat = true ↔ SamePrefix len.toNat addr net

/-- The port is the number that is written. -/
def PortExact (s : String) : Prop :=
  ∀ ip port, parseIPPort s = .ok (ip, port) →
    ∃ n, s = ip ++ ":" ++ n ∧ Over Char.isDigit n ∧ port.toNat = number n ∧ port.toNat ≤ 65535

section Exactness
variable {s ip : String} {net : UInt32}

theorem dotted_of_isAddress (h : IsAddress ip net) : Dotted IsOctet ip := by
  obtain ⟨a, b, c, d, ha, hb, hc, hd, hip, -⟩ := h
  exact ⟨a, b, c, d, ha, hb, hc, hd, hip⟩

theorem isAddress_of_dotted (h : Dotted IsOctet ip) : ∃ net, IsAddress ip net := by
  obtain ⟨a, b, c, d, ha, hb, hc, hd, hip⟩ := h
  refine ⟨IPv4.ofOctets (number a) (number b) (number c) (number d), a, b, c, d, ha, hb, hc, hd, hip, ?_⟩
  have ha := ha.2
  have hb := hb.2
  have hc := hc.2
  have hd := hd.2
  unfold IPv4.ofOctets
  rw [UInt32.toNat_ofNat']
  omega

theorem networkExact_iff : NetworkExact s ↔ ∀ ip n, IsCIDR s ip n → Dotted IsOctet ip ∧ number n ≤ 32 := by
  have hwritten {ip n : String} (hform : IsCIDR s ip n) : (UInt8.ofNat (number n)).toNat = number n := by
    have hlt := number_lt hform.digits hform.length
    rw [UInt8.toNat_ofNat']
    omega
  constructor
  · intro h ip n hform
    obtain ⟨⟨-, -, -, -, hlen⟩, net, haddress, -⟩ := h ip _ (parseCIDR_of hform)
    rw [hwritten hform] at hlen
    exact ⟨dotted_of_isAddress haddress, hlen⟩
  · intro h ip len hparse
    obtain ⟨ip, n, hform, heq⟩ := parseCIDR_ok hparse
    obtain ⟨rfl, rfl⟩ := Prod.mk.inj heq
    obtain ⟨hdotted, hle⟩ := h _ n hform
    obtain ⟨net, haddress⟩ := isAddress_of_dotted hdotted
    rw [hwritten hform]
    exact ⟨⟨n, hform.eq, hform.digits, rfl, hle⟩, net, haddress, (ofString_of_isAddress haddress).1,
      fun addr => isInSubnet_iff hle⟩

theorem portExact_iff : PortExact s ↔ ∀ ip n, IsIPPort s ip n → number n ≤ 65535 := by
  constructor
  · intro h ip n hform
    obtain ⟨n', hs, -, hport, hle⟩ := h ip _ (parseIPPort_of hform)
    obtain rfl : n' = n := String.append_right_inj _ |>.mp (hs.symm.trans hform.eq)
    omega
  · intro h ip port hparse
    obtain ⟨ip, n, hform, heq⟩ := parseIPPort_ok hparse
    obtain ⟨rfl, rfl⟩ := Prod.mk.inj heq
    have hle := h _ n hform
    have hport : (UInt16.ofNat (number n)).toNat = number n := by
      rw [UInt16.toNat_ofNat']
      omega
    rw [hport]
    exact ⟨n, hform.eq, hform.digits, rfl, hle⟩

/-- A prefix of 33 bits is accepted, and so is a part of 300; port 70000 is taken for 4464. -/
theorem addressed_not_exact :
    ¬ NetworkExact "1.2.3.4/33" ∧ ¬ NetworkExact "300.1.1.1/24" ∧ ¬ PortExact "1.2.3.4:70000" := by
  refine ⟨fun h => ?_, fun h => ?_, fun h => ?_⟩
  · have hform : IsCIDR "1.2.3.4/33" "1.2.3.4" "33" :=
      ⟨rfl, ⟨"1", "2", "3", "4", by decide, by decide, by decide, by decide, rfl⟩, by decide, by decide⟩
    exact absurd (networkExact_iff.mp h _ _ hform).2 (by decide)
  · have hform : IsCIDR "300.1.1.1/24" "300.1.1.1" "24" :=
      ⟨rfl, ⟨"300", "1", "1", "1", by decide, by decide, by decide, by decide, rfl⟩, by decide, by decide⟩
    obtain ⟨-, net, -, hnet, -⟩ := h _ _ (parseCIDR_of hform)
    cases hnet
  · have hform : IsIPPort "1.2.3.4:70000" "1.2.3.4" "70000" :=
      ⟨rfl, ⟨"1", "2", "3", "4", by decide, by decide, by decide, by decide, rfl⟩, by decide, by decide⟩
    exact absurd (portExact_iff.mp h _ _ hform) (by decide)

/-- Networks and ports are exact just when no number that is written is too large. -/
theorem addressed_exact_iff (s : String) :
    (NetworkExact s ↔ ∀ ip n, IsCIDR s ip n → Dotted IsOctet ip ∧ number n ≤ 32) ∧
      (PortExact s ↔ ∀ ip n, IsIPPort s ip n → number n ≤ 65535) :=
  ⟨networkExact_iff, portExact_iff⟩

end Exactness

end Util

end Scallop
