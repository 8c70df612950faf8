import TwoPlz.Lib.Keeps

/-! Rules for computations with state and failure that do return. -/

variable {σ α β : Type}

/-- The run of `m` from `s` returns, with a value and a state that fit `P`. -/
def Returns (s : σ) (m : StateT σ Option α) (P : α → σ → Prop) : Prop :=
  ∃ a s', m s = some (a, s') ∧ P a s'

namespace Returns

variable {s s₁ : σ} {m : StateT σ Option α} {f : α → StateT σ Option β} {a : α}
  {P Q : α → σ → Prop} {R : β → σ → Prop}

theorem pure (h : P a s) : Returns s (pure a) P := ⟨a, s, rfl, h⟩

theorem bind (h : Returns s m P) (hf : ∀ a s', P a s' → Returns s' (f a) R) : Returns s (m >>= f) R := by
  obtain ⟨a, s₁, hm, hP⟩ := h
  obtain ⟨b, s', hrest, hR⟩ := hf a s₁ hP
  exact ⟨b, s', Option.bind_eq_some_iff.mpr ⟨(a, s₁), hm, hrest⟩, hR⟩

theorem step (hm : m s = some (a, s₁)) (hf : Returns s₁ (f a) R) : Returns s (m >>= f) R :=
  bind (P := fun a' s' => a' = a ∧ s' = s₁) ⟨a, s₁, hm, rfl, rfl⟩ fun _ _ ⟨ha, hs⟩ => ha ▸ hs ▸ hf

end Returns
