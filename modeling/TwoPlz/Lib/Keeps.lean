import Mathlib

/-! Rules for what a computation with state and failure leaves alone. -/

variable {σ α β : Type} {R : σ → σ → Prop}

def KeepsAt (R : σ → σ → Prop) (s : σ) (m : StateT σ Option α) : Prop :=
  ∀ a s', m s = some (a, s') → R s s'

def Keeps (R : σ → σ → Prop) (m : StateT σ Option α) : Prop := ∀ s, KeepsAt R s m

theorem bind_eq_some {m : StateT σ Option α} {f : α → StateT σ Option β} {s s' : σ} {b : β}
    (h : (m >>= f) s = some (b, s')) : ∃ a s₁, m s = some (a, s₁) ∧ f a s₁ = some (b, s') := by
  obtain ⟨⟨a, s₁⟩, hm, hf⟩ := Option.bind_eq_some_iff.mp h
  exact ⟨a, s₁, hm, hf⟩

namespace KeepsAt

theorem get_bind {s : σ} {f : σ → StateT σ Option β} (h : KeepsAt R s (f s)) :
    KeepsAt R s (get >>= f) := h

theorem set {s t : σ} (h : R s t) : KeepsAt R s (set t : StateT σ Option PUnit) := by
  intro a s' hs
  cases hs
  exact h

end KeepsAt

namespace Keeps

theorem pure (hrefl : ∀ s, R s s) (a : α) : Keeps R (pure a : StateT σ Option α) := by
  intro s b s' h
  cases h
  exact hrefl s

theorem read (hrefl : ∀ s, R s s) : Keeps R (get : StateT σ Option σ) := by
  intro s b s' h
  cases h
  exact hrefl s

theorem bind (htrans : ∀ a b c, R a b → R b c → R a c) {m : StateT σ Option α}
    {f : α → StateT σ Option β} (hm : Keeps R m) (hf : ∀ a, Keeps R (f a)) : Keeps R (m >>= f) := by
  intro s b s' h
  obtain ⟨a, s₁, hms, hfs⟩ := bind_eq_some h
  exact htrans _ _ _ (hm s a s₁ hms) (hf a s₁ b s' hfs)

theorem ite {p : Prop} [Decidable p] {m m' : StateT σ Option α} (hm : Keeps R m) (hm' : Keeps R m') :
    Keeps R (if p then m else m') := by
  split
  · exact hm
  · exact hm'

theorem modify {f : σ → σ} (h : ∀ s, R s (f s)) : Keeps R (modify f : StateT σ Option PUnit) := by
  intro s a s' hs
  cases hs
  exact h s

end Keeps

theorem KeepsAt.bind (htrans : ∀ a b c, R a b → R b c → R a c) {s : σ} {m : StateT σ Option α}
    {f : α → StateT σ Option β} (hm : KeepsAt R s m) (hf : ∀ a, Keeps R (f a)) :
    KeepsAt R s (m >>= f) := by
  intro b s' h
  obtain ⟨a, s₁, hms, hfs⟩ := bind_eq_some h
  exact htrans _ _ _ (hm a s₁ hms) (hf a s₁ b s' hfs)

theorem Keeps.get_bind {f : σ → StateT σ Option β} (h : ∀ s, KeepsAt R s (f s)) :
    Keeps R (get >>= f) :=
  fun s => h s

theorem KeepsAt.read_bind {s : σ} {m : StateT σ Option α} {f : α → StateT σ Option β}
    (hm : ∀ a s', m s = some (a, s') → s' = s) (hf : ∀ a, KeepsAt R s (f a)) :
    KeepsAt R s (m >>= f) := by
  intro b s' h
  obtain ⟨a, s₁, hms, hfs⟩ := bind_eq_some h
  obtain rfl := hm a s₁ hms
  exact hf a b s' hfs

def Yields (P : α → Prop) (m : StateT σ Option α) : Prop := ∀ s a s', m s = some (a, s') → P a

namespace Yields

variable {P : α → Prop} {Q : β → Prop}

theorem pure {a : α} (h : P a) : Yields P (pure a : StateT σ Option α) := by
  intro s b s' hs
  cases hs
  exact h

theorem bind {m : StateT σ Option α} {f : α → StateT σ Option β} (hm : Yields P m)
    (hf : ∀ a, P a → Yields Q (f a)) : Yields Q (m >>= f) := by
  intro s b s' h
  obtain ⟨a, s₁, hms, hfs⟩ := bind_eq_some h
  exact hf a (hm s a s₁ hms) s₁ b s' hfs

theorem bind_any {m : StateT σ Option α} {f : α → StateT σ Option β} (hf : ∀ a, Yields Q (f a)) :
    Yields Q (m >>= f) := by
  intro s b s' h
  obtain ⟨a, s₁, -, hfs⟩ := bind_eq_some h
  exact hf a s₁ b s' hfs

end Yields

/-- Every run of `m` from `s` that returns ends as `P` says. -/
def Ends (s : σ) (m : StateT σ Option α) (P : α → σ → Prop) : Prop :=
  ∀ a s', m s = some (a, s') → P a s'

namespace Ends

variable {s : σ} {m : StateT σ Option α} {f : α → StateT σ Option β} {P : β → σ → Prop}

theorem bind (h : ∀ a s₁, m s = some (a, s₁) → Ends s₁ (f a) P) : Ends s (m >>= f) P := by
  intro b s' hs
  obtain ⟨a, s₁, hm, hf⟩ := bind_eq_some hs
  exact h a s₁ hm b s' hf

theorem pure {b : β} (h : P b s) : Ends s (pure b) P := by
  intro b' s' hs
  cases hs
  exact h

theorem mono {Q : β → σ → Prop} {m : StateT σ Option β} (h : Ends s m P) (hPQ : ∀ b s', P b s' → Q b s') :
    Ends s m Q := fun b s' hs => hPQ b s' (h b s' hs)

theorem get_bind {f : σ → StateT σ Option β} (h : Ends s (f s) P) : Ends s (get >>= f) P := h

theorem set_bind {t : σ} {f : PUnit → StateT σ Option β} (h : Ends t (f ⟨⟩) P) :
    Ends s (set t >>= f) P := h

theorem modify_bind {g : σ → σ} {f : PUnit → StateT σ Option β} (h : Ends (g s) (f ⟨⟩) P) :
    Ends s (modify g >>= f) P := h

end Ends
