import Mathlib.Data.List.Basic

/-!
# Regular expressions

* `Regex.run` : the first way to match a beginning of a text, trying the longest repetitions first
  and the left alternatives first; `Regex.fullMatch` : the groups of a match of a whole text;
* `Eats` : an expression takes a beginning of a text, so that what follows decides; one rule for
  each expression; `run_group_plus_one` : what a class takes if what follows does not begin with it;
* `Refuses` : it takes none; `heads` : the texts that a match begins with one of;
  `refuses_append` : a text that begins differently is refused;
* `firstMatch` : the first of several expressions that match.
-/

/-- Regular expressions over classes of characters, with numbered groups. -/
inductive Regex where
  | empty
  | text (s : String)
  | one (p : Char → Bool)
  | seq (r s : Regex)
  | alt (r s : Regex)
  | star (r : Regex)
  | group (i : Nat) (r : Regex)

namespace Regex

instance : Append Regex := ⟨seq⟩

def plus (r : Regex) : Regex := r ++ star r

def opt (r : Regex) : Regex := alt r empty

def anyOf : List String → Regex
  | [] => one fun _ => false
  | [w] => text w
  | w :: ws => alt (text w) (anyOf ws)

/-- At most `n` times. -/
def atMost (r : Regex) : Nat → Regex
  | 0 => empty
  | n + 1 => opt (r ++ atMost r n)

/-- At least once and at most `n + 1` times. -/
def upTo (r : Regex) (n : Nat) : Regex := r ++ atMost r n

/-- What the groups have taken, the latest first. -/
abbrev Captures := List (Nat × List Char)

/-- What a group has taken; nothing if it has not been used. -/
def Captures.get (m : Captures) (i : Nat) : String := String.ofList ((m.lookup i).getD [])

variable {β : Type}

/-- `body` as often as possible, as long as it takes something. -/
def loop (body : (Captures → List Char → Option β) → Captures → List Char → Option β)
    (k : Captures → List Char → Option β) : Nat → Captures → List Char → Option β
  | 0, m, cs => k m cs
  | n + 1, m, cs =>
      (body (fun m' cs' => if cs'.length < cs.length then loop body k n m' cs' else none) m cs).or
        (k m cs)

/-- The first way to match a beginning of a text, and then `k`. -/
def run : Regex → (Captures → List Char → Option β) → Captures → List Char → Option β
  | empty, k, m, cs => k m cs
  | text s, k, m, cs => (cs.dropPrefix? s.toList).bind (k m)
  | one _, _, _, [] => none
  | one p, k, m, c :: cs => if p c then k m cs else none
  | seq r s, k, m, cs => r.run (s.run k) m cs
  | alt r s, k, m, cs => (r.run k m cs).or (s.run k m cs)
  | star r, k, m, cs => loop r.run k (cs.length + 1) m cs
  | group i r, k, m, cs =>
      r.run (fun m' rest => k ((i, cs.take (cs.length - rest.length)) :: m') rest) m cs

def finish (m : Captures) (rest : List Char) : Option Captures := if rest = [] then some m else none

/-- The groups of a match of the whole text. -/
def fullMatch (r : Regex) (s : String) : Option Captures := r.run finish [] s.toList

/-! ## Expressions that take a beginning -/

/-- The expression takes a text up to `rest`, if what follows succeeds there. -/
def Eats (r : Regex) (cs : List Char) (m m' : Captures) (rest : List Char) : Prop :=
  ∀ ⦃β : Type⦄ ⦃k : Captures → List Char → Option β⦄ ⦃x : β⦄,
    k m' rest = some x → r.run k m cs = some x

/-- The expression takes no beginning of a text. -/
def Refuses (r : Regex) (cs : List Char) : Prop :=
  ∀ ⦃β : Type⦄ (k : Captures → List Char → Option β) (m : Captures), r.run k m cs = none

variable {r s : Regex} {cs as bs rest : List Char} {m m' m'' : Captures} {p : Char → Bool}

theorem eats_empty : Eats empty cs m m cs := fun _ _ _ h => h

theorem run_text (s : String) (k : Captures → List Char → Option β) :
    (text s).run k m (s.toList ++ rest) = k m rest := by
  show ((s.toList ++ rest).dropPrefix? s.toList).bind (k m) = _
  rw [List.dropPrefix?_append_of_beq _ (beq_self_eq_true _)]
  rfl

theorem eats_text (s : String) : Eats (text s) (s.toList ++ rest) m m rest := by
  intro β k x h
  rw [run_text]
  exact h

theorem Eats.seq {mid : List Char} (h : Eats r cs m m' mid) (h' : Eats s mid m' m'' rest) :
    Eats (r ++ s) cs m m'' rest := fun _ _ _ hk => h (h' hk)

theorem Eats.left (h : Eats r cs m m' rest) : Eats (alt r s) cs m m' rest := by
  intro β k x hk
  show (r.run k m cs).or (s.run k m cs) = some x
  rw [h hk, Option.some_or]

theorem Eats.right (hr : Refuses r cs) (h : Eats s cs m m' rest) : Eats (alt r s) cs m m' rest := by
  intro β k x hk
  show (r.run k m cs).or (s.run k m cs) = some x
  rw [hr, Option.none_or, h hk]

theorem Refuses.seq (h : Refuses r cs) : Refuses (r ++ s) cs := fun _ _ m => h _ m

theorem Refuses.group {i : Nat} (h : Refuses r cs) : Refuses (group i r) cs := fun _ _ m => h _ m

theorem Refuses.text_seq {t : String} (h : Refuses r cs) : Refuses (text t ++ r) (t.toList ++ cs) := by
  intro β k m
  show (text t).run (r.run k) m (t.toList ++ cs) = none
  rw [run_text, h]

theorem refuses_text_nil {t : String} (h : t ≠ "") : Refuses (text t) [] := by
  intro β k m
  show (([] : List Char).dropPrefix? t.toList).bind (k m) = none
  cases ht : t.toList with
  | nil => exact absurd (String.toList_inj.mp ht) h
  | cons c cs => rfl

theorem refuses_text_cons {t : String} {c d : Char} (ht : t.toList.head? = some d) (h : c ≠ d) :
    Refuses (text t) (c :: cs) := by
  intro β k m
  show ((c :: cs).dropPrefix? t.toList).bind (k m) = none
  obtain ⟨ds, hds⟩ := List.head?_eq_some_iff.mp ht
  simp [hds, List.dropPrefix?, h]

theorem Eats.opt (h : Eats r cs m m' rest) : Eats (opt r) cs m m' rest := h.left

theorem eats_opt_none (h : Refuses r cs) : Eats (opt r) cs m m cs := eats_empty.right h

theorem Eats.group {i : Nat} (h : Eats r (as ++ rest) m m' rest) :
    Eats (group i r) (as ++ rest) m ((i, as) :: m') rest := by
  intro β k x hk
  apply h
  have htake : (as ++ rest).take ((as ++ rest).length - rest.length) = as := by
    rw [List.length_append, Nat.add_sub_cancel, List.take_left']
    rfl
  rw [htake]
  exact hk

/-- More fuel than there are characters makes no difference. -/
theorem loop_fuel (body : (Captures → List Char → Option β) → Captures → List Char → Option β)
    (k : Captures → List Char → Option β) {n n' : Nat} (h : cs.length < n) (h' : cs.length < n') :
    loop body k n m cs = loop body k n' m cs := by
  induction n generalizing n' m cs with
  | zero => omega
  | succ n ih =>
      cases n' with
      | zero => omega
      | succ n' =>
          have hcont : (fun m' cs' => if cs'.length < cs.length then loop body k n m' cs' else none) =
              fun m' cs' => if cs'.length < cs.length then loop body k n' m' cs' else none := by
            funext m' cs'
            split
            next hlt => exact ih (by omega) (by omega)
            next => rfl
          rw [loop, loop, hcont]

theorem Eats.star {mid : List Char} (h : Eats r cs m m' mid) (hlt : mid.length < cs.length)
    (h' : Eats (star r) mid m' m'' rest) : Eats (star r) cs m m'' rest := by
  intro β k x hk
  show loop r.run k (cs.length + 1) m cs = some x
  rw [loop, h, Option.some_or]
  rw [if_pos hlt, loop_fuel r.run k (show mid.length < cs.length from hlt) (Nat.lt_succ_self _)]
  exact h' hk

theorem eats_star_nil (h : Refuses r cs) : Eats (star r) cs m m cs := by
  intro β k x hk
  show loop r.run k (cs.length + 1) m cs = some x
  rw [loop, h, Option.none_or, hk]

theorem refuses_one_nil : Refuses (one p) [] := fun _ _ _ => rfl

theorem refuses_one {c : Char} (h : p c = false) : Refuses (one p) (c :: cs) := by
  intro β k m
  show (if p c = true then k m cs else none) = none
  rw [if_neg (by rw [h]; decide)]

theorem eats_one {c : Char} (h : p c = true) : Eats (one p) (c :: cs) m m cs := by
  intro β k x hk
  show (if p c = true then k m cs else none) = some x
  rw [if_pos h, hk]

/-- A text does not go on with a character of the class. -/
def Stops (p : Char → Bool) (rest : List Char) : Prop := ∀ c ∈ rest.head?, p c = false

theorem stops_nil : Stops p [] := fun _ h => nomatch h

theorem stops_cons {c : Char} (h : p c = false) : Stops p (c :: cs) := by
  intro d hd
  obtain rfl := Option.some.inj hd
  exact h

theorem Stops.refuses (h : Stops p rest) : Refuses (one p) rest := by
  cases rest with
  | nil => exact refuses_one_nil
  | cons c cs => exact refuses_one (h c rfl)

theorem eats_star_one (h : ∀ a ∈ as, p a = true) (hrest : Stops p rest) :
    Eats (star (one p)) (as ++ rest) m m rest := by
  induction as with
  | nil => exact eats_star_nil hrest.refuses
  | cons a as ih =>
      exact (eats_one (h a List.mem_cons_self)).star (Nat.lt_succ_self _)
        (ih fun b hb => h b (List.mem_cons_of_mem _ hb))

theorem eats_plus_one (hne : as ≠ []) (h : ∀ a ∈ as, p a = true) (hrest : Stops p rest) :
    Eats (plus (one p)) (as ++ rest) m m rest := by
  obtain ⟨a, as, rfl⟩ := List.exists_cons_of_ne_nil hne
  exact (eats_one (h a List.mem_cons_self)).seq
    (eats_star_one (fun b hb => h b (List.mem_cons_of_mem _ hb)) hrest)

/-- All of a class are taken, if what follows cannot begin with one of them. -/
theorem run_star_one {k : Captures → List Char → Option β} (h : ∀ a ∈ as, p a = true) (hrest : Stops p rest)
    (hk : ∀ m c cs, p c = true → k m (c :: cs) = none) :
    (star (one p)).run k m (as ++ rest) = k m rest := by
  induction as with
  | nil =>
      show loop (one p).run k (rest.length + 1) m rest = k m rest
      rw [loop, hrest.refuses, Option.none_or]
  | cons a as ih =>
      have ha := h a List.mem_cons_self
      show ((one p).run _ m (a :: (as ++ rest))).or (k m (a :: (as ++ rest))) = k m rest
      rw [hk m a _ ha, Option.or_none]
      show (if p a then _ else _) = k m rest
      have hlt : (as ++ rest).length < (a :: as ++ rest).length := Nat.lt_succ_self _
      rw [if_pos ha]
      dsimp only
      rw [if_pos hlt, loop_fuel (one p).run k hlt (Nat.lt_succ_self _)]
      exact ih fun b hb => h b (List.mem_cons_of_mem _ hb)

theorem run_group_plus_one {k : Captures → List Char → Option β} {i : Nat} (hne : as ≠ [])
    (h : ∀ a ∈ as, p a = true) (hrest : Stops p rest) (hk : ∀ m c cs, p c = true → k m (c :: cs) = none) :
    (group i (plus (one p))).run k m (as ++ rest) = k ((i, as) :: m) rest := by
  have htake : (as ++ rest).take ((as ++ rest).length - rest.length) = as := by
    rw [List.length_append, Nat.add_sub_cancel, List.take_left']
    rfl
  obtain ⟨a, tail, rfl⟩ := List.exists_cons_of_ne_nil hne
  show (if p a then (star (one p)).run _ m (tail ++ rest) else none) = _
  rw [if_pos (h a List.mem_cons_self)]
  refine (run_star_one (fun b hb => h b (List.mem_cons_of_mem _ hb)) hrest ?_).trans ?_
  · intro m' c cs hc
    exact hk _ c cs hc
  · rw [htake]

/-- A text that is not of a class has a first character that is not. -/
theorem exists_stop (h : ¬ ∀ c ∈ cs, p c = true) :
    ∃ as c rest, cs = as ++ c :: rest ∧ (∀ a ∈ as, p a = true) ∧ p c = false := by
  induction cs with
  | nil => exact absurd (fun c hc => nomatch hc) h
  | cons a cs ih =>
      by_cases ha : p a = true
      · obtain ⟨as, c, rest, rfl, has, hc⟩ := ih fun hcs => h (List.forall_mem_cons.mpr ⟨ha, hcs⟩)
        exact ⟨a :: as, c, rest, rfl, List.forall_mem_cons.mpr ⟨ha, has⟩, hc⟩
      · exact ⟨[], a, cs, rfl, List.forall_mem_nil _, Bool.eq_false_iff.mpr ha⟩

/-- A class does not get past a character that is not in it, and what follows takes neither. -/
theorem run_group_plus_one_none {k : Captures → List Char → Option β} {i : Nat} (h : ¬ ∀ a ∈ as, p a = true)
    (hk : ∀ m c cs, p c = true → k m (c :: cs) = none) (hstop : ∀ c ∈ as, ∀ m cs, k m (c :: cs) = none) :
    (group i (plus (one p))).run k m (as ++ rest) = none := by
  obtain ⟨bs, c, cs, rfl, hbs, hc⟩ := exists_stop h
  rw [List.append_assoc, List.cons_append]
  by_cases hne : bs = []
  · subst hne
    show (one p).run _ m (c :: (cs ++ rest)) = none
    rw [refuses_one hc]
  · rw [run_group_plus_one hne hbs (stops_cons hc) hk]
    exact hstop c (List.mem_append_right _ List.mem_cons_self) _ _

theorem eats_atMost_one {n : Nat} (h : ∀ a ∈ as, p a = true) (hlen : as.length ≤ n)
    (hrest : Stops p rest) : Eats (atMost (one p) n) (as ++ rest) m m rest := by
  induction n generalizing as with
  | zero =>
      obtain rfl := List.length_eq_zero_iff.mp (Nat.le_zero.mp hlen)
      exact eats_empty
  | succ n ih =>
      cases as with
      | nil => exact eats_opt_none fun β k m => hrest.refuses _ m
      | cons a as =>
          exact ((eats_one (h a List.mem_cons_self)).seq
            (ih (fun b hb => h b (List.mem_cons_of_mem _ hb)) (Nat.le_of_succ_le_succ hlen))).opt

theorem eats_upTo_one {n : Nat} (hne : as ≠ []) (h : ∀ a ∈ as, p a = true)
    (hlen : as.length ≤ n + 1) (hrest : Stops p rest) :
    Eats (upTo (one p) n) (as ++ rest) m m rest := by
  obtain ⟨a, as, rfl⟩ := List.exists_cons_of_ne_nil hne
  exact (eats_one (h a List.mem_cons_self)).seq
    (eats_atMost_one (fun b hb => h b (List.mem_cons_of_mem _ hb)) (Nat.le_of_succ_le_succ hlen)
      hrest)

/-- An expression that takes the whole text matches it. -/
theorem Eats.fullMatch {t : String} (h : Eats r t.toList [] m []) : r.fullMatch t = some m :=
  h rfl

/-! ## Texts that begin differently -/

/-- The texts that a match begins with one of. -/
def heads : Regex → List (List Char)
  | text s => [s.toList]
  | seq (text s) r => r.heads.map (s.toList ++ ·)
  | seq r _ => r.heads
  | alt r s => r.heads ++ s.heads
  | group _ r => r.heads
  | _ => [[]]

def clash : List Char → List Char → Bool
  | a :: as, b :: bs => a ≠ b || clash as bs
  | _, _ => false

theorem not_prefix_of_clash (h : clash as bs = true) : ¬ as <+: bs ++ cs := by
  induction as generalizing bs with
  | nil => cases h
  | cons a as ih =>
      cases bs with
      | nil => cases h
      | cons b bs =>
          intro hp
          obtain ⟨rfl, htail⟩ := List.cons_prefix_cons.mp
            (show a :: as <+: b :: (bs ++ cs) from hp)
          rcases (Bool.or_eq_true _ _).mp h with hne | h
          · exact of_decide_eq_true hne rfl
          · exact ih h htail

theorem exists_head {k : Captures → List Char → Option β} {x : β} (h : r.run k m cs = some x) :
    ∃ p ∈ r.heads, p <+: cs := by
  have hany : ∃ p ∈ [([] : List Char)], p <+: cs :=
    ⟨[], List.mem_cons_self, List.nil_prefix⟩
  induction r using heads.induct generalizing β k m cs with
  | case1 s =>
      obtain ⟨rest, hrest, -⟩ := Option.bind_eq_some_iff.mp
        (show (cs.dropPrefix? s.toList).bind (k m) = some x from h)
      obtain ⟨w, rfl, hw⟩ := List.dropPrefix?_eq_some_iff.mp hrest
      exact ⟨s.toList, List.mem_cons_self, eq_of_beq hw ▸ List.prefix_append _ _⟩
  | case2 s r ih =>
      obtain ⟨rest, hrest, hrun⟩ := Option.bind_eq_some_iff.mp
        (show (cs.dropPrefix? s.toList).bind (r.run k m) = some x from h)
      obtain ⟨w, rfl, hw⟩ := List.dropPrefix?_eq_some_iff.mp hrest
      obtain rfl := eq_of_beq hw
      obtain ⟨p, hp, hpre⟩ := ih hrun ⟨[], List.mem_cons_self, List.nil_prefix⟩
      exact ⟨_, List.mem_map_of_mem hp, (List.prefix_append_right_inj _).mpr hpre⟩
  | case3 r s hne ih =>
      rw [heads]
      · exact ih h hany
      · exact hne
  | case4 r s ihr ihs =>
      rcases Option.or_eq_some_iff.mp h with h | ⟨-, h⟩
      · obtain ⟨p, hp, hpre⟩ := ihr h hany
        exact ⟨p, List.mem_append_left _ hp, hpre⟩
      · obtain ⟨p, hp, hpre⟩ := ihs h hany
        exact ⟨p, List.mem_append_right _ hp, hpre⟩
  | case5 i r ih => exact ih h hany
  | case6 r h₁ h₂ h₃ h₄ h₅ =>
      cases r with
      | empty => exact hany
      | one p => exact hany
      | star r => exact hany
      | text s => exact absurd rfl (h₁ s)
      | seq r s => exact absurd rfl (h₃ r s)
      | alt r s => exact absurd rfl (h₄ r s)
      | group i r => exact absurd rfl (h₅ i r)

/-- No text that begins with `q` is matched. -/
def clashes (r : Regex) (q : String) : Bool := r.heads.all (clash · q.toList)

theorem refuses_append {q : String} (h : r.clashes q = true) (cs : List Char) :
    Refuses r (q.toList ++ cs) := by
  intro β k m
  cases hr : r.run k m (q.toList ++ cs) with
  | none => rfl
  | some x =>
      obtain ⟨p, hp, hpre⟩ := exists_head hr
      exact absurd hpre (not_prefix_of_clash (List.all_eq_true.mp h p hp))

theorem fullMatch_of_clash {q t : String} (h : r.clashes q = true) (hq : q.toList <+: t.toList) :
    r.fullMatch t = none := by
  obtain ⟨cs, hcs⟩ := hq
  unfold fullMatch
  rw [← hcs]
  exact refuses_append h cs _ _

/-- The words before this one begin differently. -/
theorem eats_anyOf {ws : List String} {w : String} (hw : w ∈ ws)
    (hclash : ws.Pairwise fun a b => clash a.toList b.toList = true) :
    Eats (anyOf ws) (w.toList ++ rest) m m rest := by
  induction ws using anyOf.induct with
  | case1 => cases hw
  | case2 v =>
      obtain rfl := List.mem_singleton.mp hw
      exact eats_text w
  | case3 v ws hne ih =>
      obtain ⟨hv, hclash⟩ := List.pairwise_cons.mp hclash
      rw [anyOf]
      · rcases List.mem_cons.mp hw with rfl | hw
        · exact (eats_text w).left
        · refine (ih hw hclash).right (refuses_append ?_ rest)
          exact List.all_eq_true.mpr fun p hp => List.mem_singleton.mp hp ▸ hv w hw
      · exact hne

/-! ## Several expressions -/

variable {α : Type}

def firstMatch : List (Regex × α) → String → Option (α × Captures)
  | [], _ => none
  | (r, a) :: bs, s =>
      match r.fullMatch s with
      | some m => some (a, m)
      | none => firstMatch bs s

theorem firstMatch_mem {bs : List (Regex × α)} {a : α} {t : String}
    (h : firstMatch bs t = some (a, m)) : ∃ r, (r, a) ∈ bs ∧ r.fullMatch t = some m := by
  induction bs with
  | nil => cases h
  | cons b bs ih =>
      rw [firstMatch] at h
      split at h
      next m' hm' =>
        obtain ⟨rfl, rfl⟩ := Prod.mk.inj (Option.some.inj h)
        exact ⟨b.1, List.mem_cons_self, hm'⟩
      next => exact (ih h).imp fun _ hr => ⟨List.mem_cons_of_mem _ hr.1, hr.2⟩

theorem firstMatch_eq_none_iff {bs : List (Regex × α)} {t : String} :
    firstMatch bs t = none ↔ ∀ b ∈ bs, b.1.fullMatch t = none := by
  induction bs with
  | nil => exact ⟨fun _ => List.forall_mem_nil _, fun _ => rfl⟩
  | cons b bs ih =>
      rw [firstMatch, List.forall_mem_cons]
      cases hb : b.1.fullMatch t with
      | none => simp [ih]
      | some m => simp

theorem firstMatch_eq {bs : List (Regex × α)} {i : Nat} {a : α} {q t : String}
    (hi : bs[i]? = some (r, a)) (hbefore : (bs.take i).all (fun b => b.1.clashes q) = true)
    (hq : q.toList <+: t.toList) (h : r.fullMatch t = some m) : firstMatch bs t = some (a, m) := by
  induction bs generalizing i with
  | nil => cases hi
  | cons b bs ih =>
      cases i with
      | zero =>
          obtain rfl := Option.some.inj hi
          rw [firstMatch, h]
      | succ i =>
          obtain ⟨hb, hbefore⟩ := (Bool.and_eq_true _ _).mp hbefore
          rw [firstMatch, fullMatch_of_clash hb hq]
          exact ih hi hbefore

end Regex
