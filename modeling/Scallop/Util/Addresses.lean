import Scallop.Lib.RegexLanguage
import Scallop.Sdp.Lines

/-!
# Addresses, networks and endpoints as texts

`util::parseIPPort` and `util::parseCIDR` of `lib/util.h`, and the constructor of `net::IPv4` of
`lib/net/net.h` that takes a text.

* `Addressed` : an address and a number with a separator between them; `parseIPPort_eq_ok`,
  `parseCIDR_eq_ok` : what is accepted, and what is made of it;
* `isInSubnet_iff` : the subnet test compares the first bits, for at most 32 of them.
-/

namespace Scallop

open Sdp (Over Octet octet digit digits stoul)

namespace Util

open Regex

/-- `[0-9]{1,3}\.[0-9]{1,3}\.[0-9]{1,3}\.[0-9]{1,3}` and `\d+\.\d+\.\d+\.\d+` -/
def dotted (r : Regex) : Regex := r ++ text "." ++ r ++ text "." ++ r ++ text "." ++ r

/-- The pattern of `util::parseIPPort`. -/
def ipPortRegex : Regex := group 1 (dotted octet) ++ text ":" ++ group 2 (upTo digit 4)

/-- The pattern of `util::parseCIDR`. -/
def cidrRegex : Regex := group 1 (dotted digits) ++ text "/" ++ group 2 (upTo digit 1)

/-- `util::parseIPPort`; the number is narrowed to 16 bits. -/
def parseIPPort (s : String) : Except Fault (String × UInt16) :=
  match ipPortRegex.fullMatch s with
  | some m => (stoul (m.get 2)).map fun port => (m.get 1, .ofNat port)
  | none => .error (.invalidArgument ("Could not parse addr.: " ++ s ++ " is not of format IPv4:PORT"))

/-- `util::parseCIDR`; the number is narrowed to 8 bits. -/
def parseCIDR (s : String) : Except Fault (String × UInt8) :=
  match cidrRegex.fullMatch s with
  | some m =>
      match stoi (m.get 2).toList with
      | some len => .ok (m.get 1, .ofInt len)
      | none => .error (.invalidArgument "stoi")
  | none => .error (.invalidArgument ("Could not parse cidr: " ++ s ++ " is not in format IPv4/MASK"))

/-! ## The texts that are accepted -/

def number (n : String) : Nat := Nat.ofDigitChars 10 n.toList 0

def Dotted (P : String → Prop) (ip : String) : Prop :=
  ∃ a b c d, P a ∧ P b ∧ P c ∧ P d ∧ ip = a ++ "." ++ b ++ "." ++ c ++ "." ++ d

/-- An address and a number of at most so many digits, with a separator between them. -/
structure Addressed (P : String → Prop) (sep : String) (k : Nat) (s ip n : String) : Prop where
  eq : s = ip ++ sep ++ n
  dotted : Dotted P ip
  digits : Over Char.isDigit n
  length : n.toList.length ≤ k

/-- `[0-9]{1,3}` for each part, then a port. -/
abbrev IsIPPort : String → String → String → Prop := Addressed Octet ":" 5

/-- `\d+` for each part, then the length of a prefix. -/
abbrev IsCIDR : String → String → String → Prop := Addressed (Over Char.isDigit) "/" 2

section Texts
variable {r : Regex} {P : String → Prop} {sep s ip n : String} {k : Nat} {m m' : Captures} {cs rest : List Char}

theorem over_ofList {p : Char → Bool} : Over p (.ofList cs) ↔ cs ≠ [] ∧ ∀ c ∈ cs, p c = true := by
  unfold Over
  rw [String.toList_ofList, Ne, ← String.toList_inj, String.toList_ofList]
  rfl

theorem takes_digits : Takes digits m cs m' ↔ Over Char.isDigit (.ofList cs) ∧ m' = m := by
  rw [over_ofList, and_assoc]
  exact takes_plus_one

theorem takes_upTo_digit :
    Takes (upTo digit k) m cs m' ↔ (Over Char.isDigit (.ofList cs) ∧ cs.length ≤ k + 1) ∧ m' = m := by
  rw [over_ofList, show upTo digit k = upTo (one Char.isDigit) k from rfl, takes_upTo_one]
  tauto

theorem takes_octet : Takes octet m cs m' ↔ Octet (.ofList cs) ∧ m' = m := by
  unfold octet Octet
  rw [takes_upTo_digit, String.toList_ofList]

/-- The expression takes the texts of a kind, and keeps the captures. -/
def TakesJust (r : Regex) (P : String → Prop) : Prop :=
  ∀ ⦃m m' : Captures⦄ ⦃cs : List Char⦄, Takes r m cs m' ↔ P (.ofList cs) ∧ m' = m

theorem takes_dotted (hr : TakesJust r P) : TakesJust (dotted r) (Dotted P) := by
  intro m m' cs
  unfold dotted
  constructor
  · intro h
    obtain ⟨_, d, _, rfl, h, htakes₄⟩ := takes_seq.mp h
    obtain ⟨_, _, _, rfl, h, hdot₃⟩ := takes_seq.mp h
    obtain ⟨_, c, _, rfl, h, htakes₃⟩ := takes_seq.mp h
    obtain ⟨_, _, _, rfl, h, hdot₂⟩ := takes_seq.mp h
    obtain ⟨_, b, _, rfl, h, htakes₂⟩ := takes_seq.mp h
    obtain ⟨a, _, _, rfl, htakes₁, hdot₁⟩ := takes_seq.mp h
    obtain ⟨ha, rfl⟩ := hr.mp htakes₁
    obtain ⟨rfl, rfl⟩ := takes_text.mp hdot₁
    obtain ⟨hb, rfl⟩ := hr.mp htakes₂
    obtain ⟨rfl, rfl⟩ := takes_text.mp hdot₂
    obtain ⟨hc, rfl⟩ := hr.mp htakes₃
    obtain ⟨rfl, rfl⟩ := takes_text.mp hdot₃
    obtain ⟨hd, rfl⟩ := hr.mp htakes₄
    refine ⟨⟨_, _, _, _, ha, hb, hc, hd, ?_⟩, rfl⟩
    simp only [String.ofList_append, String.ofList_toList]
  · intro ⟨⟨a, b, c, d, ha, hb, hc, hd, hcs⟩, hm⟩
    subst hm
    replace hcs := congrArg String.toList hcs
    simp only [String.toList_ofList, String.toList_append] at hcs
    have hpart {t : String} (ht : P t) : Takes r m' t.toList m' := hr.mpr ⟨by rwa [String.ofList_toList], rfl⟩
    rw [hcs]
    exact .seq (.seq (.seq (.seq (.seq (.seq (hpart ha) (.text _)) (hpart hb)) (.text _)) (hpart hc)) (.text _))
      (hpart hd)

/-- What is taken of an address with a number, and what the groups hold. -/
theorem takes_addressed (hr : TakesJust r P) :
    Takes (group 1 (dotted r) ++ text sep ++ group 2 (upTo digit k)) [] s.toList m ↔
      ∃ ip n, Addressed P sep (k + 1) s ip n ∧ m = [(2, n.toList), (1, ip.toList)] := by
  constructor
  · intro h
    obtain ⟨_, n, _, hs, h, hgroup₂⟩ := takes_seq.mp h
    obtain ⟨ip, _, _, rfl, hgroup₁, hsep⟩ := takes_seq.mp h
    obtain ⟨_, htakes₁, rfl⟩ := takes_group.mp hgroup₁
    obtain ⟨rfl, rfl⟩ := takes_text.mp hsep
    obtain ⟨_, htakes₂, rfl⟩ := takes_group.mp hgroup₂
    obtain ⟨hip, rfl⟩ := (takes_dotted hr).mp htakes₁
    obtain ⟨⟨hn, hlength⟩, rfl⟩ := takes_upTo_digit.mp htakes₂
    refine ⟨.ofList ip, .ofList n, ⟨?_, hip, hn, by rwa [String.toList_ofList]⟩, ?_⟩
    · rw [← String.toList_inj, hs]
      simp only [String.toList_append, String.toList_ofList]
    · simp only [String.toList_ofList]
  · intro ⟨ip, n, ⟨hs, hip, hn, hlength⟩, hm⟩
    subst hs hm
    simp only [String.toList_append]
    have htakes₁ : Takes (dotted r) [] ip.toList [] := (takes_dotted hr).mpr ⟨by rwa [String.ofList_toList], rfl⟩
    have htakes₂ : Takes (upTo digit k) [(1, ip.toList)] n.toList [(1, ip.toList)] :=
      takes_upTo_digit.mpr ⟨⟨by rwa [String.ofList_toList], hlength⟩, rfl⟩
    exact .seq (.seq (.group 1 htakes₁) (.text _)) (.group 2 htakes₂)

theorem notMem_dotted {c : Char} (hP : ∀ t, P t → c ∉ t.toList) (hc : c ≠ '.') (h : Dotted P ip) :
    c ∉ ip.toList := by
  obtain ⟨a, b, d, e, ha, hb, hd, he, rfl⟩ := h
  have hdot : c ∉ ".".toList := fun h => hc (List.mem_singleton.mp h)
  simp only [String.toList_append, List.mem_append, not_or]
  exact ⟨⟨⟨⟨⟨⟨hP a ha, hdot⟩, hP b hb⟩, hdot⟩, hP d hd⟩, hdot⟩, hP e he⟩

theorem notMem_of_over {p : Char → Bool} {c : Char} (h : Over p n) (hc : p c = false) : c ∉ n.toList := by
  intro hmem
  rw [h.2 c hmem] at hc
  cases hc

theorem Addressed.unique {c : Char} {ip' n' : String} (h : Addressed P sep k s ip n) (h' : Addressed P sep k s ip' n')
    (hP : ∀ t, P t → Over Char.isDigit t) (hsep : sep.toList = [c]) (hdigit : c.isDigit = false) (hdot : c ≠ '.') :
    ip' = ip ∧ n' = n := by
  have heq := congrArg String.toList (h.eq.symm.trans h'.eq)
  simp only [String.toList_append, hsep, List.append_assoc, List.singleton_append] at heq
  have hip : c ∉ ip'.toList := notMem_dotted (fun t ht => notMem_of_over (hP t ht) hdigit) hdot h'.dotted
  have hn : c ∉ n'.toList := notMem_of_over h'.digits hdigit
  obtain ⟨hip, -, hn⟩ := (List.append_cons_inj_of_notMem hip hn).mp heq.symm
  exact ⟨String.toList_inj.mp hip, String.toList_inj.mp hn⟩

theorem ofDigitChars_lt {init : Nat} (h : ∀ c ∈ cs, c.isDigit = true) :
    Nat.ofDigitChars 10 cs init < (init + 1) * 10 ^ cs.length := by
  induction cs generalizing init with
  | nil => simp
  | cons c cs ih =>
      obtain ⟨hc, hcs⟩ := List.forall_mem_cons.mp h
      have hdigit : c.toNat - ('0' : Char).toNat ≤ 9 := by
        have hrange := Char.isDigit_iff_toNat.mp hc
        have hzero : ('0' : Char).toNat = 48 := rfl
        have hnine : ('9' : Char).toNat = 57 := rfl
        omega
      rw [Nat.ofDigitChars_cons, List.length_cons, Nat.pow_succ']
      calc Nat.ofDigitChars 10 cs (10 * init + (c.toNat - ('0' : Char).toNat))
          < (10 * init + (c.toNat - ('0' : Char).toNat) + 1) * 10 ^ cs.length := ih hcs
        _ ≤ ((init + 1) * 10) * 10 ^ cs.length := Nat.mul_le_mul_right _ (by omega)
        _ = (init + 1) * (10 * 10 ^ cs.length) := Nat.mul_assoc _ _ _

theorem number_lt (h : Over Char.isDigit n) (hlength : n.toList.length ≤ k) : number n < 10 ^ k := by
  have hlt : number n < (0 + 1) * 10 ^ n.toList.length := ofDigitChars_lt h.2
  have hpow : 10 ^ n.toList.length ≤ 10 ^ k := Nat.pow_le_pow_right (by decide) hlength
  omega

end Texts

/-! ## What is read -/

section Reading
variable {ds rest : List Char} {s ip n : String}

theorem leadingNat_append (hne : ds ≠ []) (h : ∀ c ∈ ds, c.isDigit = true) (hrest : Stops Char.isDigit rest) :
    leadingNat (ds ++ rest) = some (Nat.ofDigitChars 10 ds 0) := by
  have hstop : rest.takeWhile Char.isDigit = [] := by
    cases rest with
    | nil => rfl
    | cons c rest => rw [List.takeWhile_cons_of_neg (by rw [hrest c rfl]; decide)]
  have htake : (ds ++ rest).takeWhile Char.isDigit = ds := by
    rw [List.takeWhile_append_of_pos h, hstop, List.append_nil]
  obtain ⟨d, ds, rfl⟩ := List.exists_cons_of_ne_nil hne
  unfold leadingNat
  rw [htake]

theorem leadingNat_over (h : Over Char.isDigit n) : leadingNat n.toList = some (number n) := by
  have hlead := leadingNat_append (fun hnil => h.1 (String.toList_inj.mp hnil)) h.2 stops_nil
  rwa [List.append_nil] at hlead

theorem stoul_over (h : Over Char.isDigit n) (hlt : number n < 2 ^ 64) : stoul n = .ok (number n) := by
  unfold stoul
  rw [leadingNat_over h]
  exact if_pos hlt

theorem stoi_over (h : Over Char.isDigit n) (hlt : number n < 2 ^ 31) : stoi n.toList = some (number n : Int) := by
  have hlead := leadingNat_over h
  obtain ⟨hne, hdigits⟩ := h
  obtain ⟨d, ds, hcons⟩ := List.exists_cons_of_ne_nil fun hnil => hne (String.toList_inj.mp hnil)
  have hd : d.isDigit = true := hdigits d (hcons ▸ List.mem_cons_self)
  have hdrop : n.toList.dropWhile isSpace = n.toList := by
    rw [hcons, List.dropWhile_cons_of_neg (by rw [isSpace_eq_false_of_isDigit hd]; decide)]
  unfold stoi
  rw [hdrop]
  split
  next hminus =>
    rw [hcons] at hminus
    obtain rfl := (List.cons.inj hminus).1
    exact absurd hd (by decide)
  next hplus =>
    rw [hcons] at hplus
    obtain rfl := (List.cons.inj hplus).1
    exact absurd hd (by decide)
  next =>
    rw [hlead]
    refine (Option.filter_some ..).trans (if_pos (decide_eq_true ?_))
    show (-2 ^ 31 ≤ (number n : Int) ∧ (number n : Int) < 2 ^ 31)
    omega

theorem takesJust_octet : TakesJust octet Octet := fun _ _ _ => takes_octet

theorem takesJust_digits : TakesJust digits (Over Char.isDigit) := fun _ _ _ => takes_digits

theorem isIPPort_unique {ip' n' : String} (h : IsIPPort s ip n) (h' : IsIPPort s ip' n') : ip' = ip ∧ n' = n :=
  h.unique h' (fun _ ht => ht.1) rfl rfl (by decide)

theorem isCIDR_unique {ip' n' : String} (h : IsCIDR s ip n) (h' : IsCIDR s ip' n') : ip' = ip ∧ n' = n :=
  h.unique h' (fun _ ht => ht) rfl rfl (by decide)

theorem parseIPPort_of (h : IsIPPort s ip n) : parseIPPort s = .ok (ip, .ofNat (number n)) := by
  have hsome : (ipPortRegex.fullMatch s).isSome :=
    fullMatch_isSome.mpr ⟨_, (takes_addressed takesJust_octet).mpr ⟨ip, n, h, rfl⟩⟩
  obtain ⟨m, hm⟩ := Option.isSome_iff_exists.mp hsome
  obtain ⟨ip', n', h', rfl⟩ := (takes_addressed takesJust_octet).mp (fullMatch_takes hm)
  obtain ⟨rfl, rfl⟩ := isIPPort_unique h h'
  have hlt := number_lt h.digits h.length
  unfold parseIPPort
  rw [hm]
  simp only [Sdp.get_cons, Nat.reduceEqDiff, if_false, if_true,
    stoul_over h.digits (show number n' < 2 ^ 64 by omega), Except.map]

theorem parseCIDR_of (h : IsCIDR s ip n) : parseCIDR s = .ok (ip, .ofNat (number n)) := by
  have hsome : (cidrRegex.fullMatch s).isSome :=
    fullMatch_isSome.mpr ⟨_, (takes_addressed takesJust_digits).mpr ⟨ip, n, h, rfl⟩⟩
  obtain ⟨m, hm⟩ := Option.isSome_iff_exists.mp hsome
  obtain ⟨ip', n', h', rfl⟩ := (takes_addressed takesJust_digits).mp (fullMatch_takes hm)
  obtain ⟨rfl, rfl⟩ := isCIDR_unique h h'
  have hlt := number_lt h.digits h.length
  have hmod : ((number n' : Int) % 2 ^ 8).toNat = number n' := by omega
  unfold parseCIDR
  rw [hm]
  simp only [Sdp.get_cons, Nat.reduceEqDiff, if_false, if_true, stoi_over h.digits (show number n' < 2 ^ 31 by omega),
    UInt8.ofInt, hmod]

theorem parseIPPort_ok {r : String × UInt16} (h : parseIPPort s = .ok r) :
    ∃ ip n, IsIPPort s ip n ∧ r = (ip, .ofNat (number n)) := by
  have hform : ∃ ip n, IsIPPort s ip n := by
    unfold parseIPPort at h
    split at h
    next m hm =>
      obtain ⟨ip, n, hform, -⟩ := (takes_addressed takesJust_octet).mp (fullMatch_takes hm)
      exact ⟨ip, n, hform⟩
    next => cases h
  obtain ⟨ip, n, hform⟩ := hform
  rw [parseIPPort_of hform] at h
  exact ⟨ip, n, hform, (Except.ok.inj h).symm⟩

theorem parseCIDR_ok {r : String × UInt8} (h : parseCIDR s = .ok r) :
    ∃ ip n, IsCIDR s ip n ∧ r = (ip, .ofNat (number n)) := by
  have hform : ∃ ip n, IsCIDR s ip n := by
    unfold parseCIDR at h
    split at h
    next m hm =>
      obtain ⟨ip, n, hform, -⟩ := (takes_addressed takesJust_digits).mp (fullMatch_takes hm)
      exact ⟨ip, n, hform⟩
    next => cases h
  obtain ⟨ip, n, hform⟩ := hform
  rw [parseCIDR_of hform] at h
  exact ⟨ip, n, hform, (Except.ok.inj h).symm⟩

end Reading

/-! ## The subnet test -/

def SamePrefix (len : Nat) (a b : UInt32) : Prop := ∀ i < len, a.toNat.testBit (31 - i) = b.toNat.testBit (31 - i)

theorem testBit_mask {len j : Nat} (h : len ≤ 32) :
    (2 ^ 32 - 2 ^ (32 - len)).testBit j = decide (32 - len ≤ j ∧ j < 32) := by
  have hmul : 2 ^ 32 - 2 ^ (32 - len) = 2 ^ (32 - len) * (2 ^ len - 1) := by
    rw [Nat.mul_sub_one, ← Nat.pow_add, Nat.sub_add_cancel h]
  rw [hmul, Nat.testBit_two_pow_mul, Nat.testBit_two_pow_sub_one]
  simp only [← Bool.decide_and]
  exact decide_eq_decide.mpr (by omega)

theorem toNat_mask {len : Nat} :
    (if len = 0 then 0 else .ofNat (2 ^ 32 - 2 ^ (32 - len)) : UInt32).toNat = 2 ^ 32 - 2 ^ (32 - len) := by
  split
  next hzero =>
    subst hzero
    rfl
  next =>
    have hpos : 0 < 2 ^ (32 - len) := Nat.pow_pos (by decide)
    rw [UInt32.toNat_ofNat']
    exact Nat.mod_eq_of_lt (by omega)

theorem isInSubnet_iff {addr net : UInt32} {len : Nat} (h : len ≤ 32) :
    IPv4.isInSubnet addr net len = true ↔ SamePrefix len addr net := by
  unfold IPv4.isInSubnet SamePrefix
  rw [decide_eq_true_iff, ← UInt32.toNat_inj, UInt32.toNat_and, UInt32.toNat_and, toNat_mask]
  constructor
  · intro heq i hi
    have hbit := congrArg (Nat.testBit · (31 - i)) heq
    have hmask : 32 - len ≤ 31 - i ∧ 31 - i < 32 := by omega
    simp only [Nat.testBit_and, testBit_mask h, decide_eq_true hmask, Bool.and_true] at hbit
    exact hbit
  · intro hbits
    apply Nat.eq_of_testBit_eq
    intro j
    rw [Nat.testBit_and, Nat.testBit_and, testBit_mask h]
    by_cases hj : 32 - len ≤ j ∧ j < 32
    · have hbit := hbits (31 - j) (by omega)
      rw [show 31 - (31 - j) = j by omega] at hbit
      rw [hbit]
    · rw [decide_eq_false hj, Bool.and_false, Bool.and_false]

end Util

end Scallop
