import Mathlib.Data.List.Forall2

/-!
# Computations that fail

`Except.bind_ok`, and what a sequence, or a `mapM`, went through: `Except.of_bind_ok`,
`Except.of_bind_error`, `Except.of_mapM_ok`, `Except.of_mapM_error`; `Except.map_eq_of_mapM_ok` :
two lists with the same view, whose elements come to results with the same view; `Except.filterM_ok` :
a filter; `Except.foldlM_ok`, `Except.of_foldlM_ok` : a loop with an invariant; `Except.foldlM_pair` : a
loop over two states.

`Except.Ensures` : what holds of the result of a computation, and of its failure; `Ensures.bind` : of a
sequence.
-/

namespace Except

variable {ε α β : Type}

theorem bind_ok (a : α) (f : α → Except ε β) : (Except.ok a >>= f) = f a := rfl

theorem of_bind_ok {x : Except ε α} {f : α → Except ε β} {b : β} (h : x >>= f = .ok b) :
    ∃ a, x = .ok a ∧ f a = .ok b := by
  cases x with
  | error e => exact nomatch h
  | ok a => exact ⟨a, rfl, h⟩

theorem of_bind_error {x : Except ε α} {f : α → Except ε β} {e : ε} (h : x >>= f = .error e) :
    x = .error e ∨ ∃ a, x = .ok a ∧ f a = .error e := by
  cases x with
  | error e' => exact .inl (congrArg Except.error (Except.error.inj h))
  | ok a => exact .inr ⟨a, rfl, h⟩

theorem of_map_ok {x : Except ε α} {f : α → β} {b : β} (h : x.map f = .ok b) :
    ∃ a, x = .ok a ∧ f a = b := by
  cases x with
  | error e => exact nomatch h
  | ok a => exact ⟨a, rfl, Except.ok.inj h⟩

theorem bind_ok_iff {x : Except ε α} {f : α → Except ε β} {b : β} :
    x >>= f = .ok b ↔ ∃ a, x = .ok a ∧ f a = .ok b := by
  constructor
  · exact of_bind_ok
  · rintro ⟨a, rfl, h⟩
    exact h

theorem map_ok_iff {x : Except ε α} {f : α → β} {b : β} : x.map f = .ok b ↔ ∃ a, x = .ok a ∧ f a = b := by
  constructor
  · exact of_map_ok
  · rintro ⟨a, rfl, rfl⟩
    rfl

theorem of_mapM_ok {f : α → Except ε β} :
    ∀ {as : List α} {bs : List β}, as.mapM f = .ok bs → List.Forall₂ (fun a b => f a = .ok b) as bs
  | [], bs, h => by
      rw [List.mapM_nil] at h
      obtain rfl := Except.ok.inj h
      exact .nil
  | a :: as, bs, h => by
      rw [List.mapM_cons] at h
      obtain ⟨b, hb, h⟩ := of_bind_ok h
      obtain ⟨bs', hbs', h⟩ := of_bind_ok h
      obtain rfl := Except.ok.inj h
      exact .cons hb (of_mapM_ok hbs')

theorem mapM_map_ok {γ : Type} {f : α → Except ε β} {g : γ → α} {k : γ → β} {cs : List γ}
    (h : ∀ c ∈ cs, f (g c) = .ok (k c)) : (cs.map g).mapM f = .ok (cs.map k) := by
  induction cs with
  | nil => rfl
  | cons c cs ih =>
      obtain ⟨hc, hcs⟩ := List.forall_mem_cons.mp h
      rw [List.map_cons, List.mapM_cons, hc, bind_ok, ih hcs]
      rfl

theorem of_mapM_map_ok {γ : Type} {f : α → Except ε β} {g : γ → α} {k : γ → β} {cs : List γ}
    (h : (cs.map g).mapM f = .ok (cs.map k)) : ∀ c ∈ cs, f (g c) = .ok (k c) := by
  induction cs with
  | nil => exact List.forall_mem_nil _
  | cons c cs ih =>
      obtain ⟨hc, -⟩ := List.forall₂_cons.mp (of_mapM_ok h)
      rw [List.map_cons, List.mapM_cons, hc, bind_ok] at h
      obtain ⟨bs, hbs, h⟩ := of_bind_ok h
      obtain rfl := (List.cons.inj (Except.ok.inj h)).2
      exact List.forall_mem_cons.mpr ⟨hc, ih hbs⟩

theorem of_mapM_append_ok {f : α → Except ε β} {as as' : List α} {bs bs' : List β}
    (h : (as ++ as').mapM f = .ok (bs ++ bs')) (hlength : as.length = bs.length) :
    as.mapM f = .ok bs ∧ as'.mapM f = .ok bs' := by
  rw [List.mapM_append] at h
  obtain ⟨cs, hcs, h⟩ := of_bind_ok h
  obtain ⟨cs', hcs', h⟩ := of_bind_ok h
  obtain ⟨rfl, rfl⟩ := List.append_inj (Except.ok.inj h) ((of_mapM_ok hcs).length_eq.symm.trans hlength)
  exact ⟨hcs, hcs'⟩

theorem map_eq_of_mapM_ok {γ δ : Type} {f : α → Except ε β} {g : α → γ} {h : β → δ}
    (hf : ∀ a₁ a₂ b₁ b₂, g a₁ = g a₂ → f a₁ = .ok b₁ → f a₂ = .ok b₂ → h b₁ = h b₂) :
    ∀ {as₁ as₂ : List α} {bs₁ bs₂ : List β}, as₁.map g = as₂.map g → as₁.mapM f = .ok bs₁ →
      as₂.mapM f = .ok bs₂ → bs₁.map h = bs₂.map h
  | [], as₂, bs₁, bs₂, hg, h₁, h₂ => by
      obtain rfl := List.map_eq_nil_iff.mp hg.symm
      obtain rfl := Except.ok.inj (h₁.symm.trans h₂)
      rfl
  | a₁ :: as₁, as₂, bs₁, bs₂, hg, h₁, h₂ => by
      obtain ⟨a₂, as₂, rfl, ha, has⟩ := List.map_eq_cons_iff.mp hg.symm
      rw [List.mapM_cons] at h₁ h₂
      obtain ⟨b₁, hb₁, h₁⟩ := of_bind_ok h₁
      obtain ⟨bs₁, hbs₁, h₁⟩ := of_bind_ok h₁
      obtain ⟨b₂, hb₂, h₂⟩ := of_bind_ok h₂
      obtain ⟨bs₂, hbs₂, h₂⟩ := of_bind_ok h₂
      obtain rfl := Except.ok.inj h₁
      obtain rfl := Except.ok.inj h₂
      rw [List.map_cons, List.map_cons, hf a₁ a₂ b₁ b₂ ha.symm hb₁ hb₂,
        map_eq_of_mapM_ok hf has.symm hbs₁ hbs₂]

theorem of_mapM_error {f : α → Except ε β} {e : ε} :
    ∀ {as : List α}, as.mapM f = .error e → ∃ a ∈ as, f a = .error e
  | [], h => by
      rw [List.mapM_nil] at h
      exact nomatch h
  | a :: as, h => by
      rw [List.mapM_cons] at h
      rcases of_bind_error h with ha | ⟨b, -, h⟩
      · exact ⟨a, List.mem_cons_self, ha⟩
      · rcases of_bind_error h with has | ⟨bs, -, h⟩
        · obtain ⟨a', hmem, ha'⟩ := of_mapM_error has
          exact ⟨a', List.mem_cons_of_mem _ hmem, ha'⟩
        · exact nomatch h

theorem exists_mapM_ok {f : α → Except ε β} {as : List α} (h : ∀ a ∈ as, ∃ b, f a = .ok b) :
    ∃ bs, as.mapM f = .ok bs := by
  cases hm : as.mapM f with
  | ok bs => exact ⟨bs, rfl⟩
  | error e =>
      obtain ⟨a, hmem, ha⟩ := of_mapM_error hm
      obtain ⟨b, hb⟩ := h a hmem
      exact nomatch ha.symm.trans hb

theorem filterAuxM_ok {f : α → Except ε Bool} {p : α → Bool} {as : List α} (h : ∀ a ∈ as, f a = .ok (p a))
    (acc : List α) : as.filterAuxM f acc = .ok ((as.filter p).reverse ++ acc) := by
  induction as generalizing acc with
  | nil => rfl
  | cons a as ih =>
      have has : ∀ a' ∈ as, f a' = .ok (p a') := fun a' ha' => h a' (List.mem_cons_of_mem _ ha')
      unfold List.filterAuxM
      rw [h a List.mem_cons_self, bind_ok, ih has]
      cases hp : p a with
      | true => simp [hp]
      | false => simp [hp]

theorem filterM_ok {f : α → Except ε Bool} {p : α → Bool} {as : List α} (h : ∀ a ∈ as, f a = .ok (p a)) :
    as.filterM f = .ok (as.filter p) := by
  unfold List.filterM
  rw [filterAuxM_ok h, bind_ok, List.append_nil, List.reverse_reverse]
  rfl

theorem of_filterAuxM_ok {f : α → Except ε Bool} {as acc bs : List α} (h : as.filterAuxM f acc = .ok bs) {a : α}
    (ha : a ∈ as) : ∃ b, f a = .ok b := by
  induction as generalizing acc with
  | nil => exact absurd ha List.not_mem_nil
  | cons a' as ih =>
      unfold List.filterAuxM at h
      obtain ⟨b, hb, h⟩ := of_bind_ok h
      rcases List.mem_cons.mp ha with rfl | ha
      · exact ⟨b, hb⟩
      · exact ih h ha

theorem of_filterM_ok {f : α → Except ε Bool} {as bs : List α} (h : as.filterM f = .ok bs) {a : α} (ha : a ∈ as) :
    ∃ b, f a = .ok b := by
  unfold List.filterM at h
  obtain ⟨cs, hcs, -⟩ := of_bind_ok h
  exact of_filterAuxM_ok hcs ha

theorem of_filterAuxM_error {f : α → Except ε Bool} {e : ε} {as acc : List α} (h : as.filterAuxM f acc = .error e) :
    ∃ a ∈ as, f a = .error e := by
  induction as generalizing acc with
  | nil => exact nomatch h
  | cons a as ih =>
      unfold List.filterAuxM at h
      rcases of_bind_error h with ha | ⟨b, -, h⟩
      · exact ⟨a, List.mem_cons_self, ha⟩
      · obtain ⟨a', hmem, ha'⟩ := ih h
        exact ⟨a', List.mem_cons_of_mem _ hmem, ha'⟩

theorem of_filterM_error {f : α → Except ε Bool} {e : ε} {as : List α} (h : as.filterM f = .error e) :
    ∃ a ∈ as, f a = .error e := by
  unfold List.filterM at h
  rcases of_bind_error h with h | ⟨cs, -, h⟩
  · exact of_filterAuxM_error h
  · exact nomatch h

/-- Every result is that of the element in its place. -/
theorem getElem?_of_mapM_ok {f : α → Except ε β} {as : List α} {bs : List β} (h : as.mapM f = .ok bs) (i : Nat) :
    as[i]?.map f = bs[i]?.map .ok := by
  have hall := of_mapM_ok h
  clear h
  induction hall generalizing i with
  | nil => rfl
  | @cons a b as bs hb _ ih =>
      cases i with
      | zero => exact congrArg some hb
      | succ i => exact ih i

theorem exists_result_of_mapM_ok {f : α → Except ε β} {as : List α} {bs : List β} (h : as.mapM f = .ok bs) {a : α}
    (ha : a ∈ as) : ∃ b ∈ bs, f a = .ok b := by
  obtain ⟨i, hi⟩ := List.mem_iff_getElem?.mp ha
  have hget := getElem?_of_mapM_ok h i
  rw [hi] at hget
  obtain ⟨b, hb, hfb⟩ := Option.map_eq_some_iff.mp hget.symm
  exact ⟨b, List.mem_of_getElem? hb, hfb.symm⟩

theorem exists_source_of_mapM_ok {f : α → Except ε β} {as : List α} {bs : List β} (h : as.mapM f = .ok bs) {b : β}
    (hb : b ∈ bs) : ∃ a ∈ as, f a = .ok b := by
  obtain ⟨i, hi⟩ := List.mem_iff_getElem?.mp hb
  have hget := getElem?_of_mapM_ok h i
  rw [hi] at hget
  obtain ⟨a, ha, hfa⟩ := Option.map_eq_some_iff.mp hget
  exact ⟨a, List.mem_of_getElem? ha, hfa⟩

/-- A loop that keeps `P`, of what it has walked and its state, comes to its end. -/
theorem foldlM_ok {σ : Type} {f : σ → α → Except ε σ} {P : List α → σ → Prop} {xs : List α} {s : σ} (h : P [] s)
    (hstep : ∀ done x rest s, xs = done ++ x :: rest → P done s → ∃ s', f s x = .ok s' ∧ P (done ++ [x]) s') :
    ∃ s', xs.foldlM f s = .ok s' ∧ P xs s' := by
  have hrun (rest done : List α) (s : σ) (hxs : xs = done ++ rest) (h : P done s) :
      ∃ s', rest.foldlM f s = .ok s' ∧ P xs s' := by
    induction rest generalizing done s with
    | nil =>
        rw [List.append_nil] at hxs
        exact ⟨s, rfl, hxs ▸ h⟩
    | cons x rest ih =>
        obtain ⟨s₁, hs₁, h₁⟩ := hstep done x rest s hxs h
        rw [List.foldlM_cons, hs₁, bind_ok]
        exact ih (done ++ [x]) s₁ (hxs.trans (List.append_cons done x rest)) h₁
  exact hrun xs [] s rfl h

/-- A loop over two states, of which each element touches one, is two loops. -/
theorem foldlM_pair {σ τ ρ : Type} {pair : σ → τ → ρ} {f : ρ → α → Except ε ρ} {fst : σ → α → Except ε σ}
    {snd : τ → α → Except ε τ} {p : α → Bool}
    (hfst : ∀ s t a, ¬ p a = true → f (pair s t) a = (fst s a).map (pair · t))
    (hsnd : ∀ s t a, p a = true → f (pair s t) a = (snd t a).map (pair s)) {as : List α} {s : σ} {t : τ} {r : ρ} :
    as.foldlM f (pair s t) = .ok r ↔
      ∃ s' t', (as.filter (!p ·)).foldlM fst s = .ok s' ∧ (as.filter p).foldlM snd t = .ok t' ∧ pair s' t' = r := by
  induction as generalizing s t with
  | nil =>
      constructor
      · intro h
        exact ⟨s, t, rfl, rfl, Except.ok.inj h⟩
      · rintro ⟨s', t', hs, ht, rfl⟩
        obtain rfl := Except.ok.inj hs
        obtain rfl := Except.ok.inj ht
        rfl
  | cons a as ih =>
      rw [List.foldlM_cons, bind_ok_iff]
      by_cases ha : p a = true
      · rw [List.filter_cons_of_neg (by simp [ha]), List.filter_cons_of_pos ha, List.foldlM_cons, hsnd s t a ha]
        constructor
        · rintro ⟨r', hr', h⟩
          obtain ⟨t', ht', rfl⟩ := of_map_ok hr'
          obtain ⟨s'', t'', hs, ht, hr⟩ := ih.mp h
          exact ⟨s'', t'', hs, bind_ok_iff.mpr ⟨t', ht', ht⟩, hr⟩
        · rintro ⟨s'', t'', hs, ht, hr⟩
          obtain ⟨t', ht', ht⟩ := of_bind_ok ht
          exact ⟨pair s t', map_ok_iff.mpr ⟨t', ht', rfl⟩, ih.mpr ⟨s'', t'', hs, ht, hr⟩⟩
      · rw [List.filter_cons_of_pos (by simp [ha]), List.filter_cons_of_neg ha, List.foldlM_cons, hfst s t a ha]
        constructor
        · rintro ⟨r', hr', h⟩
          obtain ⟨s', hs', rfl⟩ := of_map_ok hr'
          obtain ⟨s'', t'', hs, ht, hr⟩ := ih.mp h
          exact ⟨s'', t'', bind_ok_iff.mpr ⟨s', hs', hs⟩, ht, hr⟩
        · rintro ⟨s'', t'', hs, ht, hr⟩
          obtain ⟨s', hs', hs⟩ := of_bind_ok hs
          exact ⟨pair s' t, map_ok_iff.mpr ⟨s', hs', rfl⟩, ih.mpr ⟨s'', t'', hs, ht, hr⟩⟩

theorem of_foldlM_ok {σ : Type} {f : σ → α → Except ε σ} {P : σ → Prop} {as : List α} {s s' : σ}
    (h : as.foldlM f s = .ok s') (hs : P s) (hstep : ∀ s s' a, a ∈ as → P s → f s a = .ok s' → P s') : P s' := by
  induction as generalizing s with
  | nil =>
      obtain rfl := Except.ok.inj h
      exact hs
  | cons a as ih =>
      rw [List.foldlM_cons] at h
      obtain ⟨s₁, hs₁, h⟩ := of_bind_ok h
      exact ih h (hstep s s₁ a List.mem_cons_self hs hs₁) fun s s' b hb => hstep s s' b (List.mem_cons_of_mem _ hb)

/-- `Q` holds of the result, `E` of a failure. -/
def Ensures (x : Except ε α) (Q : α → Prop) (E : ε → Prop) : Prop :=
  match x with
  | .ok a => Q a
  | .error e => E e

section Ensures
variable {x : Except ε α} {Q : α → Prop} {E : ε → Prop}

theorem Ensures.bind {f : α → Except ε β} {R : β → Prop} (h : Ensures x Q E)
    (hf : ∀ a, Q a → Ensures (f a) R E) : Ensures (x >>= f) R E := by
  cases x with
  | error e => exact h
  | ok a => exact hf a h

theorem Ensures.map {f : α → β} {R : β → Prop} (h : Ensures x Q E) (hf : ∀ a, Q a → R (f a)) :
    Ensures (x.map f) R E := by
  cases x with
  | error e => exact h
  | ok a => exact hf a h

theorem Ensures.mono {Q' : α → Prop} {E' : ε → Prop} (h : Ensures x Q E) (hQ : ∀ a, Q a → Q' a)
    (hE : ∀ e, E e → E' e) : Ensures x Q' E' := by
  cases x with
  | error e => exact hE e h
  | ok a => exact hQ a h

theorem Ensures.of_ok {a : α} (h : Ensures x Q E) (hx : x = .ok a) : Q a := by
  rw [hx] at h
  exact h

theorem Ensures.of_error {e : ε} (h : Ensures x Q E) (hx : x = .error e) : E e := by
  rw [hx] at h
  exact h

end Ensures

end Except
