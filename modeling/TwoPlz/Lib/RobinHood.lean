import Mathlib

/-! Robin Hood hashing with linear probing.  A table of `n` cells is a function on the positions,
which go around with period `n`; `home` is where an element wants to be. -/

namespace RobinHood

variable {α : Type} (n : Nat) (home : α → Nat)

/-- How far behind its home an element is at position `k`. -/
def disp (k : Nat) (a : α) : Nat := (k + (n - home a % n)) % n

variable {n home} {a b : α} {d k p : Nat}

theorem disp_lt (hn : 0 < n) : disp n home k a < n := Nat.mod_lt _ hn

theorem home_add_disp (hn : 0 < n) (k : Nat) (a : α) : home a + disp n home k a ≡ k [MOD n] := by
  have hlt := Nat.mod_lt (home a) hn
  have h : home a % n + (k + (n - home a % n)) = k + n := by omega
  calc home a + disp n home k a
    _ ≡ home a % n + (k + (n - home a % n)) [MOD n] :=
      (Nat.mod_modEq _ _).symm.add (Nat.mod_modEq _ _)
    _ = k + n := h
    _ ≡ k [MOD n] := Nat.add_modEq_right

theorem disp_eq (hd : d < n) (h : home a + d ≡ k [MOD n]) : disp n home k a = d := by
  have hn : 0 < n := Nat.lt_of_le_of_lt (Nat.zero_le d) hd
  have hcancel := Nat.ModEq.add_left_cancel' (home a) ((home_add_disp hn k a).trans h.symm)
  exact hcancel.eq_of_lt_of_lt (disp_lt hn) hd

theorem disp_congr {k' : Nat} (h : k ≡ k' [MOD n]) : disp n home k a = disp n home k' a :=
  (h.add_right _)

theorem disp_succ (h : disp n home k a + 1 < n) : disp n home (k + 1) a = disp n home k a + 1 := by
  have hn : 0 < n := Nat.lt_of_le_of_lt (Nat.zero_le _) h
  exact disp_eq h ((home_add_disp hn k a).add_right 1)

theorem disp_pred (hn : 0 < n) (h : disp n home (k + 1) a ≠ 0) :
    disp n home (k + 1) a = disp n home k a + 1 := by
  have hlt : disp n home (k + 1) a < n := disp_lt hn
  have hk : disp n home k a = disp n home (k + 1) a - 1 := by
    refine disp_eq (by omega) (Nat.ModEq.add_right_cancel' 1 ?_)
    rw [Nat.add_assoc, Nat.sub_add_cancel (Nat.pos_of_ne_zero h)]
    exact home_add_disp hn (k + 1) a
  omega

theorem disp_home_add (hd : d < n) : disp n home (home a + d) a = d := disp_eq hd rfl

variable {c : Nat → Option α}

/-- An element away from its home comes after one that is almost as far away from its own. -/
def After (n : Nat) (home : α → Nat) (c : Nat → Option α) (k : Nat) (d : Nat) : Prop :=
  d ≠ 0 → ∃ b, c k = some b ∧ d ≤ disp n home k b + 1

structure Ordered (n : Nat) (home : α → Nat) (c : Nat → Option α) : Prop where
  periodic : Function.Periodic c n
  after : ∀ k a, c (k + 1) = some a → After n home c k (disp n home (k + 1) a)

def put (n : Nat) (c : Nat → Option α) (p : Nat) (v : Option α) : Nat → Option α :=
  fun k => if k % n = p % n then v else c k

theorem put_congr {q : Nat} (h : p % n = q % n) (v : Option α) : put n c p v = put n c q v := by
  funext k
  simp only [put, h]

theorem put_self (h : k % n = p % n) (v : Option α) : put n c p v k = v := if_pos h

theorem put_of_ne (h : k % n ≠ p % n) (v : Option α) : put n c p v k = c k := if_neg h

theorem put_periodic (h : Function.Periodic c n) (v : Option α) :
    Function.Periodic (put n c p v) n := by
  intro k
  simp only [put, Nat.add_mod_right, h k]

theorem add_mod_ne {i : Nat} (hpos : 0 < i) (hi : i < n) (k : Nat) : (k + i) % n ≠ k % n := by
  intro h
  have hzero : i ≡ 0 [MOD n] := Nat.ModEq.add_left_cancel' k h
  rw [Nat.ModEq, Nat.mod_eq_of_lt hi, Nat.zero_mod] at hzero
  omega

theorem succ_mod_ne (hn : 1 < n) (k : Nat) : (k + 1) % n ≠ k % n := add_mod_ne Nat.one_pos hn k

theorem succ_mod_inj {k' : Nat} (h : (k + 1) % n = (k' + 1) % n) : k % n = k' % n :=
  Nat.ModEq.add_right_cancel' 1 h

namespace Ordered

theorem congr (h : Ordered n home c) {k' : Nat} (hk : k % n = k' % n) : c k = c k' := by
  have hmod : ∀ k, c (k % n) = c k := Function.Periodic.map_mod_nat h.periodic
  rw [← hmod k, hk, hmod k']

/-- From its home on, the cells before an element hold elements that are as far away. -/
theorem reach (hn : 0 < n) (h : Ordered n home c) (ha : c k = some a) {j : Nat}
    (hj : j ≤ disp n home k a) :
    ∃ b, c (home a + j) = some b ∧ j ≤ disp n home (home a + j) b := by
  generalize hd : disp n home k a = d at hj
  have hk : c (home a + d) = some a := by
    rw [← ha, ← hd]
    exact h.congr (home_add_disp hn k a)
  have hdisp : disp n home (home a + d) a = d := disp_home_add (hd ▸ disp_lt hn)
  obtain ⟨i, rfl⟩ := Nat.exists_eq_add_of_le hj
  clear hj hd ha
  -- back from the element itself
  have hback : ∀ m ≤ j + i, ∃ b, c (home a + (j + i - m)) = some b
      ∧ j + i - m ≤ disp n home (home a + (j + i - m)) b := by
    intro m
    induction m with
    | zero => exact fun _ => ⟨a, hk, Nat.le_of_eq hdisp.symm⟩
    | succ m ih =>
      intro hm
      obtain ⟨b, hb, hle⟩ := ih (by omega)
      have hpos : home a + (j + i - m) = home a + (j + i - (m + 1)) + 1 := by omega
      rw [hpos] at hb hle
      obtain ⟨b', hb', hle'⟩ := h.after _ b hb (by omega)
      exact ⟨b', hb', by omega⟩
  obtain ⟨b, hb, hle⟩ := hback i (by omega)
  rw [Nat.add_sub_cancel] at hb hle
  exact ⟨b, hb, hle⟩

theorem disp_lt_of_empty (hn : 0 < n) (h : Ordered n home c) {z : Nat} (hz : c z = none)
    (ha : c k = some a) : disp n home k a + 1 < n := by
  by_contra hge
  have hlt : disp n home k a < n := disp_lt hn
  have hd : disp n home k a = n - 1 := by omega
  obtain ⟨b, hb, -⟩ := h.reach hn ha (j := disp n home z a) (by
    have : disp n home z a < n := disp_lt hn
    omega)
  rw [h.congr (home_add_disp hn z a), hz] at hb
  cases hb

theorem put_some (hn : 1 < n) (h : Ordered n home c)
    (hbefore : After n home c p (disp n home (p + 1) a))
    (hbehind : ∀ b, c (p + 1) = some b → disp n home (p + 1) b ≤ disp n home (p + 1) a) :
    Ordered n home (put n c (p + 1) (some a)) := by
  refine ⟨put_periodic h.periodic _, fun k b hb => ?_⟩
  by_cases hk : (k + 1) % n = (p + 1) % n
  · rw [put_self hk] at hb
    cases hb
    have hkp := succ_mod_inj hk
    rw [disp_congr hk]
    intro hne
    obtain ⟨b, hb, hle⟩ := hbefore hne
    refine ⟨b, ?_, by rwa [disp_congr hkp]⟩
    rw [put_of_ne (fun h => succ_mod_ne hn k (hk.trans h.symm)), h.congr hkp, hb]
  · rw [put_of_ne hk] at hb
    intro hne
    obtain ⟨b', hb', hle⟩ := h.after k b hb hne
    by_cases hkp : k % n = (p + 1) % n
    · refine ⟨a, put_self hkp _, ?_⟩
      have := hbehind b' (by rw [← hb']; exact h.congr hkp.symm)
      rw [disp_congr hkp] at hle ⊢
      omega
    · exact ⟨b', by rw [put_of_ne hkp, hb'], hle⟩

theorem after_next (hn : 1 < n) (h : Ordered n home c) (hb : c (p + 1) = some b)
    (hlt : disp n home (p + 1) b + 1 < n)
    (hle : disp n home (p + 1) b ≤ disp n home (p + 1) a) :
    After n home (put n c (p + 1) (some a)) (p + 1) (disp n home (p + 2) b) ∧
      ∀ e, put n c (p + 1) (some a) (p + 2) = some e →
        disp n home (p + 2) e ≤ disp n home (p + 2) b := by
  have hsucc : disp n home (p + 2) b = disp n home (p + 1) b + 1 := disp_succ hlt
  refine ⟨fun _ => ⟨a, put_self rfl _, by omega⟩, fun e he => ?_⟩
  rw [put_of_ne (succ_mod_ne hn (p + 1))] at he
  by_cases hzero : disp n home (p + 2) e = 0
  · exact hzero ▸ Nat.zero_le _
  · obtain ⟨b', hb', hle'⟩ := h.after (p + 1) e he hzero
    cases hb.symm.trans hb'
    exact hsucc ▸ hle'

end Ordered

/-- A table with a hole at position `p + 1`, where an element with displacement `m` has been. -/
structure Hole (n : Nat) (home : α → Nat) (c : Nat → Option α) (p m : Nat) : Prop where
  periodic : Function.Periodic c n
  empty : c (p + 1) = none
  after : ∀ k a, k % n ≠ (p + 1) % n → c (k + 1) = some a →
    After n home c k (disp n home (k + 1) a)
  before : After n home c p m
  behind : ∀ a, c (p + 2) = some a → disp n home (p + 2) a ≤ m + 1

namespace Ordered

theorem hole (hn : 1 < n) (h : Ordered n home c) (ha : c (p + 1) = some a) :
    Hole n home (put n c (p + 1) none) p (disp n home (p + 1) a) := by
  refine ⟨put_periodic h.periodic _, put_self rfl _, fun k b hk hb hne => ?_, fun hne => ?_,
    fun b hb => ?_⟩
  · have hk1 : (k + 1) % n ≠ (p + 1) % n := fun heq => by
      rw [put_self heq] at hb
      cases hb
    rw [put_of_ne hk1] at hb
    obtain ⟨b', hb', hle⟩ := h.after k b hb hne
    exact ⟨b', by rw [put_of_ne hk, hb'], hle⟩
  · obtain ⟨b, hb, hle⟩ := h.after p a ha hne
    exact ⟨b, by rw [put_of_ne (succ_mod_ne hn p).symm, hb], hle⟩
  · rw [put_of_ne (succ_mod_ne hn (p + 1))] at hb
    by_cases hzero : disp n home (p + 2) b = 0
    · omega
    · obtain ⟨b', hb', hle⟩ := h.after (p + 1) b hb hzero
      cases ha.symm.trans hb'
      exact hle

end Ordered

namespace Hole

variable {m : Nat}

/-- The hole stays where nobody wants to move into it. -/
theorem close (h : Hole n home c p m)
    (hnext : ∀ a, c (p + 2) = some a → disp n home (p + 2) a = 0) : Ordered n home c := by
  refine ⟨h.periodic, fun k a ha => ?_⟩
  by_cases hk : k % n = (p + 1) % n
  · intro hne
    have hk1 : (k + 1) % n = (p + 2) % n := Nat.ModEq.add_right 1 hk
    have hmod : ∀ k, c (k % n) = c k := Function.Periodic.map_mod_nat h.periodic
    rw [← hmod, hk1, hmod] at ha
    exact absurd (hnext a ha) (by rwa [disp_congr hk1] at hne)
  · exact h.after k a hk ha

theorem disp_le (hn : 0 < n) (h : Hole n home c p m) (ha : c (p + 2) = some a)
    (hne : disp n home (p + 2) a ≠ 0) : disp n home (p + 1) a ≤ m := by
  have hpred : disp n home (p + 2) a = disp n home (p + 1) a + 1 := disp_pred hn hne
  have hle := h.behind a ha
  omega

theorem move (hn : 2 < n) (h : Hole n home c p m) (ha : c (p + 2) = some a)
    (hne : disp n home (p + 2) a ≠ 0) :
    Hole n home (put n (put n c (p + 2) none) (p + 1) (some a)) (p + 1)
      (disp n home (p + 2) a) := by
  have hmod : ∀ k, c (k % n) = c k := Function.Periodic.map_mod_nat h.periodic
  have hpred : disp n home (p + 2) a = disp n home (p + 1) a + 1 := disp_pred (by omega) hne
  have hle := h.behind a ha
  have h12 : (p + 2) % n ≠ (p + 1) % n := succ_mod_ne (by omega) (p + 1)
  have h13 : (p + 3) % n ≠ (p + 1) % n := add_mod_ne (by decide) hn (p + 1)
  have h23 : (p + 3) % n ≠ (p + 2) % n := succ_mod_ne (by omega) (p + 2)
  refine ⟨put_periodic (put_periodic h.periodic _) _, ?_, fun k b hk hb hneb => ?_, fun _ => ?_,
    fun b hb => ?_⟩
  · rw [put_of_ne h12, put_self rfl]
  · by_cases hk1 : (k + 1) % n = (p + 1) % n
    · rw [put_self hk1] at hb
      cases hb
      rw [disp_congr hk1] at hneb ⊢
      obtain ⟨b', hb', hle'⟩ := h.before (by omega)
      have hkp := succ_mod_inj hk1
      have hkp1 : k % n ≠ (p + 1) % n := fun heq => succ_mod_ne (by omega) p (heq.symm.trans hkp)
      rw [← hmod, ← hkp, hmod] at hb'
      exact ⟨b', by rw [put_of_ne hkp1, put_of_ne hk, hb'], by rw [disp_congr hkp]; omega⟩
    · have hk2 : (k + 1) % n ≠ (p + 2) % n := fun heq => by
        rw [put_of_ne hk1, put_self heq] at hb
        cases hb
      have hkp1 : k % n ≠ (p + 1) % n := fun heq => hk2 (Nat.ModEq.add_right 1 heq)
      rw [put_of_ne hk1, put_of_ne hk2] at hb
      obtain ⟨b', hb', hle'⟩ := h.after k b hkp1 hb hneb
      exact ⟨b', by rw [put_of_ne hkp1, put_of_ne hk, hb'], hle'⟩
  · exact ⟨a, put_self rfl _, Nat.le_of_eq hpred⟩
  · change put n (put n c (p + 2) none) (p + 1) (some a) (p + 3) = some b at hb
    change disp n home (p + 3) b ≤ _
    rw [put_of_ne h13, put_of_ne h23] at hb
    by_cases hzero : disp n home (p + 3) b = 0
    · rw [hzero]
      exact Nat.zero_le _
    · obtain ⟨b', hb', hle'⟩ := h.after (p + 2) b h12 hb hzero
      cases ha.symm.trans hb'
      exact hle'

end Hole

/-- Nobody behind position `f` has probed past it. -/
def Boundary (n : Nat) (home : α → Nat) (c : Nat → Option α) (f : Nat) : Prop :=
  ∀ a, c f = some a → disp n home f a = 0

namespace Ordered

variable {f i : Nat}

theorem disp_le (h : Ordered n home c) (hf : Boundary n home c f) (ha : c (f + i) = some a) :
    disp n home (f + i) a ≤ i := by
  induction i generalizing a with
  | zero => exact Nat.le_of_eq (hf a ha)
  | succ i ih =>
    by_cases hzero : disp n home (f + i + 1) a = 0
    · exact hzero ▸ Nat.zero_le _
    · obtain ⟨b, hb, hle⟩ := h.after (f + i) a ha hzero
      exact Nat.le_trans hle (Nat.succ_le_succ (ih hb))

theorem home_mono (h : Ordered n home c) {j : Nat} (hij : i ≤ j)
    (ha : c (f + i) = some a) (hb : c (f + j) = some b) :
    i + disp n home (f + j) b ≤ j + disp n home (f + i) a := by
  induction j, hij using Nat.le_induction generalizing b with
  | base =>
    cases ha.symm.trans hb
    exact Nat.le_refl _
  | succ j hij ih =>
    by_cases hzero : disp n home (f + j + 1) b = 0
    · change i + disp n home (f + j + 1) b ≤ _
      omega
    · obtain ⟨b', hb', hle⟩ := h.after (f + j) b hb hzero
      have := ih hb'
      change i + disp n home (f + j + 1) b ≤ _
      omega

end Ordered

/-- The elements of the first `i` positions behind the boundary `f` of a table, in a table of twice
the size: each is in the half of its new home, and not further away from it than before. -/
structure Placed (n : Nat) (home home' : α → Nat) (c : Nat → Option α) (f i : Nat)
    (c' : Nat → Option α) : Prop where
  ordered : Ordered (2 * n) home' c'
  source : ∀ x b, f ≤ x → x < f + 2 * n → c' x = some b → ∃ j < i, ∃ half, (half = 0 ∨ half = n) ∧
    c (f + j) = some b ∧ x ≤ f + j + half ∧
    x + disp n home (f + j) b = f + j + half + disp (2 * n) home' x b

theorem Placed.new (n : Nat) (home home' : α → Nat) (c : Nat → Option α) (f : Nat) :
    Placed n home home' c f 0 fun _ => none :=
  ⟨⟨fun _ => rfl, fun _ _ h => by cases h⟩, fun _ _ _ _ h => by cases h⟩

theorem modEq_double {m m' : Nat} (hn : 0 < n) (h : m ≡ m' [MOD n]) :
    ∃ half, (half = 0 ∨ half = n) ∧ m ≡ m' + half [MOD 2 * n] := by
  have hmod : ∀ m, m % (2 * n) = m % n + n * (m / n % 2) := fun m => by
    rw [Nat.mul_comm 2 n, Nat.mod_mul]
  by_cases hbit : m / n % 2 = m' / n % 2
  · refine ⟨0, .inl rfl, ?_⟩
    rw [Nat.ModEq, Nat.add_zero, hmod, hmod, h, hbit]
  · refine ⟨n, .inr rfl, ?_⟩
    rw [Nat.ModEq, hmod, hmod, h, Nat.add_mod_right, Nat.add_div_right _ hn]
    congr 2
    omega

namespace Placed

variable {home' : α → Nat} {c' : Nat → Option α} {f i half x : Nat}

theorem empty_of (hc : Ordered n home c) (hf : Boundary n home c f)
    (h : Placed n home home' c f i c') (hhalf : half = 0 ∨ half = n) (hi : i < n) :
    c' (f + i + half) = none := by
  rcases hx : c' (f + i + half) with _ | b
  · rfl
  · obtain ⟨j, hj, half', hhalf', hb, hle, heq⟩ :=
      h.source (f + i + half) b (by omega) (by omega) hx
    have := hc.disp_le hf hb
    omega

/-- Between the home of the next element and the place for it are elements of the same half that
are as far away from their home. -/
theorem probed (hc : Ordered n home c) (hf : Boundary n home c f)
    (h : Placed n home home' c f i c') (hhalf : half = 0 ∨ half = n) (hi : i < n)
    (ha : c (f + i) = some a) (hx : f + i + half ≤ x + disp n home (f + i) a)
    (hlt : x < f + i + half) (hb : c' x = some b) :
    x + disp n home (f + i) a ≤ f + i + half + disp (2 * n) home' x b := by
  have hdisp := hc.disp_le hf ha
  obtain ⟨j, hj, half', hhalf', hb', hle, heq⟩ := h.source x b (by omega) (by omega) hb
  have hdisp' := hc.disp_le hf hb'
  have hmono := hc.home_mono (Nat.le_of_lt hj) hb' ha
  omega

theorem step (hn : 1 < n) (hc : Ordered n home c) (hf : Boundary n home c f)
    (h : Placed n home home' c f i c') (hi : i < n) (ha : c (f + i) = some a)
    (hhome : home' a ≡ home a [MOD n]) :
    ∃ d ≤ disp n home (f + i) a, c' (home' a + d) = none ∧ (∀ j < d, c' (home' a + j) ≠ none) ∧
      Placed n home home' c f (i + 1) (put (2 * n) c' (home' a + d) (some a)) := by
  have hdisp := hc.disp_le hf ha
  obtain ⟨half, hhalf, hmod⟩ := modEq_double (n := n) (by omega)
    ((hhome.add_right _).trans (home_add_disp (n := n) (by omega) (f + i) a : home a + _ ≡ _ [MOD n]))
  generalize hD : disp n home (f + i) a = D at hmod hdisp ⊢
  -- the cells from the home of `a` on, counted from the boundary
  have hpos : ∀ d, home' a + d ≡ f + i + half - D + d [MOD 2 * n] := fun d =>
    Nat.ModEq.add_right d (Nat.ModEq.add_right_cancel' D (by
      rwa [Nat.sub_add_cancel (by omega)]))
  have hcell : ∀ d, c' (home' a + d) = c' (f + i + half - D + d) := fun d =>
    h.ordered.congr (hpos d)
  have hexists : ∃ d, d ≤ D ∧ c' (home' a + d) = none := by
    refine ⟨D, Nat.le_refl _, ?_⟩
    rw [hcell, Nat.sub_add_cancel (by omega)]
    exact h.empty_of hc hf hhalf hi
  classical
  have hfind := Nat.find_spec hexists
  have hmin : ∀ j < Nat.find hexists, c' (home' a + j) ≠ none := fun j hj hnone =>
    Nat.find_min hexists hj ⟨by omega, hnone⟩
  generalize Nat.find hexists = d at hfind hmin
  obtain ⟨hd, hempty⟩ := hfind
  refine ⟨d, hd, hempty, hmin, ?_, fun x b hfx hx hb => ?_⟩
  · have hnew : disp (2 * n) home' (home' a + d) a = d := disp_home_add (by omega)
    cases d with
    | zero =>
      have hpred : (home' a + (2 * n - 1) + 1) % (2 * n) = home' a % (2 * n) := by
        rw [Nat.add_assoc, Nat.sub_add_cancel (by omega), Nat.add_mod_right]
      rw [Nat.add_zero] at hempty hnew ⊢
      rw [← put_congr hpred]
      refine h.ordered.put_some (by omega) (fun hne => ?_) fun b hb => ?_
      · exact absurd ((disp_congr hpred).trans hnew) hne
      · rw [h.ordered.congr hpred, hempty] at hb
        cases hb
    | succ e =>
      refine h.ordered.put_some (p := home' a + e) (by omega) (fun _ => ?_) fun b hb => ?_
      · obtain ⟨b, hb⟩ := Option.ne_none_iff_exists'.mp (hmin e (Nat.lt_succ_self e))
        have hx : f + i + half - D + e + disp n home (f + i) a = f + i + half + e := by
          rw [hD]
          omega
        have hprobed := h.probed hc hf hhalf hi ha (x := f + i + half - D + e) (by omega) (by omega)
          (by rw [← hcell, hb])
        rw [disp_congr (hpos e).symm] at hprobed
        refine ⟨b, hb, ?_⟩
        change disp (2 * n) home' (home' a + (e + 1)) a ≤ _
        omega
      · cases hempty.symm.trans hb
  · by_cases hmodx : x % (2 * n) = (home' a + d) % (2 * n)
    · rw [put_self hmodx] at hb
      cases hb
      have hnew : disp (2 * n) home' x a = d := by
        rw [disp_congr hmodx]
        exact disp_home_add (by omega)
      have hxd : x = f + i + half - D + d := by
        have hshift : f + (x - f) ≡ f + (i + half - D + d) [MOD 2 * n] := by
          rw [Nat.add_sub_cancel' hfx, show f + (i + half - D + d) = f + i + half - D + d from by omega]
          exact Nat.ModEq.trans hmodx (hpos d)
        have heq := (Nat.ModEq.add_left_cancel' f hshift).eq_of_lt_of_lt (by omega) (by omega)
        omega
      refine ⟨i, Nat.lt_succ_self i, half, hhalf, ha, by omega, ?_⟩
      rw [hnew, hD]
      omega
    · rw [put_of_ne hmodx] at hb
      obtain ⟨j, hj, hrest⟩ := h.source x b hfx hx hb
      exact ⟨j, Nat.lt_succ_of_lt hj, hrest⟩

end Placed

end RobinHood
