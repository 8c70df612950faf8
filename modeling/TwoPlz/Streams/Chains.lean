import TwoPlz.Lib.Keeps
import TwoPlz.Lib.Returns
import TwoPlz.Streams.Inner

/-! Rules for relations between the states of the streams layer that chain. -/

namespace TwoPlz

variable [HeaderPlz] [StoreCrates]

def Inner.put (s : Inner) (k : Key) (st : Stream) : Inner := { s with store := s.store.set k st }

theorem Inner.get?_put {s : Inner} {k : Key} {st : Stream} (hk : s.get? k = some st) (st' : Stream)
    (hid : st'.id = st.id) : (s.put k st').get? k = some st' := Store.get_set_self hk hid

theorem Inner.get?_put_ne {s : Inner} {k j : Key} {st st' : Stream} (hk : s.get? k = some st)
    (hid : st'.id = st.id) (hne : j ≠ k) : (s.put k st').get? j = s.get? j :=
  Store.get_set_ne hk hid hne

theorem Inner.put_put {s : Inner} {k : Key} {st : Stream} (hk : s.get? k = some st) (st' st'' : Stream) :
    (s.put k st').put k st'' = s.put k st'' := by
  simp only [put, Store.set_set hk]

theorem Inner.get?_insert {s s' : Inner} {j : Key} {st st' : Stream} {id : Nat}
    (hs : s'.store = (s.store.insert id st).2) (hid : st.id = id) (h : s'.get? j = some st') :
    (j = ⟨StoreCrates.vacantKey s.store.slab, id⟩ ∧ st' = st) ∨ s.get? j = some st' := by
  unfold get? at h
  rw [hs] at h
  by_cases hj : j = ⟨StoreCrates.vacantKey s.store.slab, id⟩
  · subst hid hj
    rw [Store.get_insert_self] at h
    cases h
    exact Or.inl ⟨rfl, rfl⟩
  · rw [Store.get_insert_ne hj hid] at h
    exact Or.inr h

theorem Inner.get?_vacate {s s' : Inner} {k j : Key} {st st' : Stream} (hk : s.get? k = some st)
    (hs : s'.store.slab = (s.store.vacate k).slab) (h : s'.get? j = some st') :
    s.get? j = some st' := by
  have hsame : s'.get? j = (s.store.vacate k).get j := by simp only [get?, Store.get, hs]
  rw [hsame] at h
  by_cases hj : j = k
  · subst hj
    rw [Store.get_vacate_self hk] at h
    cases h
  · rw [Store.get_vacate_ne hk hj] at h
    exact h

namespace Ends

open M

variable {α β : Type} {s : Inner} {k : Key} {st : Stream} {P : β → Inner → Prop}

theorem resolve_bind {f : Stream → M β} (h : ∀ st, s.get? k = some st → Ends s (f st) P) :
    Ends s (M.resolve k >>= f) P := by
  intro b s' hs
  obtain ⟨st, s₁, hm, hf⟩ := bind_eq_some hs
  obtain ⟨hk, rfl⟩ := resolve_some.mp hm
  exact h st hk b s' hf

theorem update_bind {g : Stream → Stream} {f : Unit → M β} (hk : s.get? k = some st)
    (h : Ends (s.put k (g st)) (f ()) P) : Ends s (M.update k g >>= f) P := by
  intro b s' hs
  obtain ⟨u, s₁, hm, hf⟩ := bind_eq_some hs
  obtain ⟨st', hst', rfl⟩ := update_some.mp hm
  cases hk.symm.trans hst'
  exact h b s' hf

theorem update_next {g : Stream → Stream} {f : Unit → M β} (hk : s.get? k = some st)
    (hid : (g st).id = st.id)
    (h : ∀ s₁ : Inner, (∃ store, s₁ = { s with store := store }) → s₁.get? k = some (g st) →
      Ends s₁ (f ()) P) : Ends s (M.update k g >>= f) P :=
  update_bind hk (h _ ⟨_, rfl⟩ (Inner.get?_put hk _ hid))

theorem assert_bind {b : Bool} {f : Unit → M β} (h : b = true → Ends s (f ()) P) :
    Ends s (M.assert b >>= f) P := by
  intro c s' hs
  obtain ⟨u, s₁, hm, hf⟩ := bind_eq_some hs
  obtain ⟨hb, rfl⟩ := assert_some.mp hm
  exact h hb c s' hf

theorem debugAssert_bind {b : Bool} {f : Unit → M β} (h : Ends s (f ()) P) :
    Ends s (M.debugAssert b >>= f) P := by
  intro c s' hs
  obtain ⟨u, s₁, hm, hf⟩ := bind_eq_some hs
  obtain ⟨-, rfl⟩ := debugAssert_some.mp hm
  exact h c s' hf

theorem lift_bind {x : Option α} {f : α → M β} (h : ∀ a, x = some a → Ends s (f a) P) :
    Ends s (M.lift x >>= f) P := by
  intro c s' hs
  obtain ⟨a, s₁, hm, hf⟩ := bind_eq_some hs
  obtain ⟨hx, rfl⟩ := lift_some.mp hm
  exact h a hx c s' hf

end Ends

namespace Returns

open M

variable {s : Inner} {k : Key} {st : Stream} {α β : Type} {R : β → Inner → Prop}

theorem resolve_bind {f : Stream → M β} (hk : s.get? k = some st) (h : Returns s (f st) R) :
    Returns s (M.resolve k >>= f) R := Returns.step (resolve_some.mpr ⟨hk, rfl⟩) h

theorem update_bind {g : Stream → Stream} {f : Unit → M β} (hk : s.get? k = some st)
    (h : Returns (s.put k (g st)) (f ()) R) : Returns s (M.update k g >>= f) R :=
  Returns.step (update_some.mpr ⟨st, hk, rfl⟩) h

theorem update {g : Stream → Stream} {P : Unit → Inner → Prop} (hk : s.get? k = some st)
    (h : P () (s.put k (g st))) : Returns s (M.update k g) P :=
  ⟨(), _, update_some.mpr ⟨st, hk, rfl⟩, h⟩

theorem get_bind {f : Inner → M β} (h : Returns s (f s) R) : Returns s (MonadState.get >>= f) R := h

theorem lift_bind {x : Option α} {a : α} {f : α → M β} (hx : x = some a) (h : Returns s (f a) R) :
    Returns s (M.lift x >>= f) R := Returns.step (lift_some.mpr ⟨hx, rfl⟩) h

theorem assert_bind {b : Bool} {f : Unit → M β} (hb : b = true) (h : Returns s (f ()) R) :
    Returns s (M.assert b >>= f) R := Returns.step (a := ()) (assert_some.mpr ⟨hb, rfl⟩) h

end Returns

structure Chains (R : Inner → Inner → Prop) : Prop where
  refl : ∀ s, R s s
  trans : ∀ s₁ s₂ s₃, R s₁ s₂ → R s₂ s₃ → R s₁ s₃

namespace Chains

open M

variable {R : Inner → Inner → Prop} (hR : Chains R) {α β : Type}

include hR

theorem pure (a : α) : Keeps R (Pure.pure a : M α) := .pure hR.refl a

theorem bind {m : M α} {f : α → M β} (hm : Keeps R m) (hf : ∀ a, Keeps R (f a)) :
    Keeps R (m >>= f) := .bind hR.trans hm hf

theorem get : Keeps R (MonadState.get : M Inner) := .read hR.refl

omit hR in
theorem abort : Keeps R (M.abort : M α) := by
  intro s a s' h
  cases h

theorem assert (b : Bool) : Keeps R (M.assert b) := by
  intro s a s' h
  obtain ⟨-, rfl⟩ := assert_some.mp h
  exact hR.refl s

theorem debugAssert (b : Bool) : Keeps R (M.debugAssert b) := by
  intro s a s' h
  obtain ⟨-, rfl⟩ := debugAssert_some.mp h
  exact hR.refl s

theorem lift (x : Option α) : Keeps R (M.lift x) := by
  intro s a s' h
  obtain ⟨-, rfl⟩ := lift_some.mp h
  exact hR.refl s

theorem resolve (k : Key) : Keeps R (M.resolve k) := by
  intro s a s' h
  obtain ⟨-, rfl⟩ := resolve_some.mp h
  exact hR.refl s

theorem when (b : Bool) {m : M Unit} (hm : Keeps R m) : Keeps R (M.when b m) := by
  cases b with
  | true => exact hm
  | false => exact hR.pure ()

theorem whenSome (o : Option α) {f : α → M Unit} (hf : ∀ a, Keeps R (f a)) :
    Keeps R (M.whenSome o f) := by
  cases o with
  | some a => exact hf a
  | none => exact hR.pure ()

theorem addU32 (a b : Nat) : Keeps R (M.addU32 a b) := by
  intro s c s' h
  unfold M.addU32 at h
  split at h
  · cases h
    exact hR.refl s
  · split at h
    · cases h
    · cases h
      exact hR.refl s

theorem isLocalInit (id : Nat) : Keeps R (M.isLocalInit id) :=
  hR.bind (hR.assert _) fun _ => hR.bind hR.get fun _ => hR.pure _

omit hR in
theorem checked {b : Inner → Bool} {f : Inner → Inner} (hf : ∀ s, R s (f s)) :
    Keeps R (do let s ← MonadState.get; M.assert (b s); MonadState.set (f s) : M Unit) := by
  refine .get_bind fun s => .read_bind (fun a s' h => (assert_some.mp h).2.symm) fun _ => .set (hf s)

/-! One step at a time. -/

omit hR in
theorem resolve_bind {s : Inner} {k : Key} {f : Stream → M β}
    (hf : ∀ st, s.get? k = some st → KeepsAt R s (f st)) : KeepsAt R s (M.resolve k >>= f) := by
  intro b s' h
  obtain ⟨st, s₁, hm, hfs⟩ := bind_eq_some h
  obtain ⟨hk, rfl⟩ := resolve_some.mp hm
  exact hf st hk b s' hfs

omit hR in
theorem assert_bind {s : Inner} {b : Bool} {f : Unit → M β} (hf : b = true → KeepsAt R s (f ())) :
    KeepsAt R s (M.assert b >>= f) := by
  intro c s' h
  obtain ⟨u, s₁, hm, hfs⟩ := bind_eq_some h
  obtain ⟨hb, rfl⟩ := assert_some.mp hm
  exact hf hb c s' hfs

theorem update_bind {s : Inner} {k : Key} {st : Stream} {g : Stream → Stream} {f : Unit → M β}
    (hk : s.get? k = some st) (hs : R s (s.put k (g st))) (hf : KeepsAt R (s.put k (g st)) (f ())) :
    KeepsAt R s (M.update k g >>= f) := by
  intro b s' h
  obtain ⟨u, s₁, hm, hfs⟩ := bind_eq_some h
  obtain ⟨st', hst', rfl⟩ := update_some.mp hm
  cases hk.symm.trans hst'
  exact hR.trans _ _ _ hs (hf b s' hfs)

theorem update_next {s : Inner} {k : Key} {st : Stream} {g : Stream → Stream} {f : Unit → M β}
    (hk : s.get? k = some st) (hid : (g st).id = st.id) (hs : R s (s.put k (g st)))
    (hf : ∀ s₁ : Inner, (∃ store, s₁ = { s with store := store }) → s₁.get? k = some (g st) →
      KeepsAt R s₁ (f ())) : KeepsAt R s (M.update k g >>= f) :=
  hR.update_bind hk hs (hf _ ⟨_, rfl⟩ (Inner.get?_put hk _ hid))

theorem modify_bind {s : Inner} {g : Inner → Inner} {f : PUnit → M β} (hs : R s (g s))
    (hf : KeepsAt R (g s) (f ⟨⟩)) : KeepsAt R s (MonadState.modifyGet (fun s => (⟨⟩, g s)) >>= f) := by
  intro b s' h
  obtain ⟨u, s₁, hm, hfs⟩ := bind_eq_some h
  cases hm
  exact hR.trans _ _ _ hs (hf b s' hfs)

theorem step {s : Inner} {m : M α} {f : α → M β}
    (h : ∀ a s₁, m s = some (a, s₁) → R s s₁ ∧ KeepsAt R s₁ (f a)) : KeepsAt R s (m >>= f) := by
  intro b s' hs
  obtain ⟨a, s₁, hm, hfs⟩ := bind_eq_some hs
  obtain ⟨hfirst, hrest⟩ := h a s₁ hm
  exact hR.trans _ _ _ hfirst (hrest b s' hfs)

/-! The loops. -/

theorem tryForEachFrom {ε : Type} {f : α → Key → M (Except ε α)} (hf : ∀ a k, Keeps R (f a k))
    (n : Nat) : ∀ i a, Keeps R (TwoPlz.tryForEachFrom f n i a) := by
  induction n with
  | zero => exact fun _ _ => hR.pure _
  | succ n ih =>
    intro i a
    refine hR.bind hR.get fun s => ?_
    split
    · exact abort
    · refine hR.bind (hf _ _) fun res => ?_
      split
      · exact hR.pure _
      · refine hR.bind hR.get fun s => ?_
        dsimp only
        split
        · exact hR.bind (hR.debugAssert _) fun _ => ih _ _
        · exact ih _ _

theorem tryForEach {ε : Type} {f : α → Key → M (Except ε α)} (hf : ∀ a k, Keeps R (f a k)) (a : α) :
    Keeps R (TwoPlz.tryForEach f a) :=
  hR.bind hR.get fun _ => hR.tryForEachFrom hf _ _ _

theorem forEach {f : Key → M Unit} (hf : ∀ k, Keeps R (f k)) : Keeps R (TwoPlz.forEach f) :=
  hR.bind (hR.tryForEach (fun _ k => hR.bind (hf k) fun _ => hR.pure _) _) fun _ => hR.pure _

end Chains

/-! Code that only reads. -/

theorem Chains.same : Chains fun s s' : Inner => s' = s := ⟨fun _ => rfl, fun _ _ _ h h' => h'.trans h⟩

theorem Chains.read {R : Inner → Inner → Prop} (hR : Chains R) {α : Type} {m : M α}
    (hm : Keeps (fun s s' => s' = s) m) : Keeps R m := by
  intro s a s' h
  rw [hm s a s' h]
  exact hR.refl s

end TwoPlz
