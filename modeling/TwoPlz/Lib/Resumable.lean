import Mathlib

/-! Parsers that can be stopped at the end of a part of their input and started again once there is
more of it. -/

variable {ε α β γ : Type} {more : ε → Prop}

/-- On a front part of an input that it accepts, `p` asks for more or answers as on all of it. -/
def Resumable (more : ε → Prop) (p : StateT (List β) (Except ε) α) : Prop :=
  ∀ ⦃bs ys r : List β⦄ ⦃a : α⦄, p (bs ++ ys) = .ok (a, r) →
    (∃ r', r = r' ++ ys ∧ p bs = .ok (a, r')) ∨ ∃ e, more e ∧ p bs = .error e

def Leaves (p : StateT (List β) (Except ε) α) : Prop :=
  ∀ ⦃bs r : List β⦄ ⦃a : α⦄, p bs = .ok (a, r) → ∃ used, bs = used ++ r

def Consumes (p : StateT (List β) (Except ε) α) : Prop :=
  ∀ ⦃bs r : List β⦄ ⦃a : α⦄, p bs = .ok (a, r) → ∃ used, used ≠ [] ∧ bs = used ++ r

section

variable {p : StateT (List β) (Except ε) α} {f : α → StateT (List β) (Except ε) γ} {bs r : List β}

theorem StateT.bind_ok {a : α} (h : p bs = .ok (a, r)) : (p >>= f) bs = f a r := by
  simp only [bind, StateT.bind, h, Except.bind]

theorem StateT.bind_error {e : ε} (h : p bs = .error e) : (p >>= f) bs = .error e := by
  simp only [bind, StateT.bind, h, Except.bind]

theorem StateT.bind_eq_ok {c : γ} (h : (p >>= f) bs = .ok (c, r)) :
    ∃ a r₁, p bs = .ok (a, r₁) ∧ f a r₁ = .ok (c, r) := by
  match hp : p bs with
  | .ok (a, r₁) =>
    rw [StateT.bind_ok hp] at h
    exact ⟨a, r₁, rfl, h⟩
  | .error e =>
    rw [StateT.bind_error hp] at h
    cases h

end

namespace Resumable

theorem pure (a : α) : Resumable more (pure a : StateT (List β) (Except ε) α) := by
  intro bs ys r b h
  cases h
  exact .inl ⟨bs, rfl, rfl⟩

theorem bind {p : StateT (List β) (Except ε) α} {f : α → StateT (List β) (Except ε) γ}
    (hp : Resumable more p) (hf : ∀ a, Resumable more (f a)) : Resumable more (p >>= f) := by
  intro bs ys r c h
  obtain ⟨a, r₁, hpa, hfa⟩ := StateT.bind_eq_ok h
  rcases hp hpa with ⟨r₁', rfl, hpa'⟩ | ⟨e, he, hpe⟩
  · rw [StateT.bind_ok hpa']
    exact hf a hfa
  · exact .inr ⟨e, he, StateT.bind_error hpe⟩

theorem ite {q : Prop} [Decidable q] {p p' : StateT (List β) (Except ε) α} (hp : Resumable more p)
    (hp' : Resumable more p') : Resumable more (if q then p else p') := by
  split
  · exact hp
  · exact hp'

end Resumable

theorem Leaves.pure (a : α) : Leaves (pure a : StateT (List β) (Except ε) α) := by
  intro bs r b h
  cases h
  exact ⟨[], rfl⟩

theorem Leaves.bind {p : StateT (List β) (Except ε) α} {f : α → StateT (List β) (Except ε) γ}
    (hp : Leaves p) (hf : ∀ a, Leaves (f a)) : Leaves (p >>= f) := by
  intro bs r c h
  obtain ⟨a, r₁, hpa, hfa⟩ := StateT.bind_eq_ok h
  obtain ⟨used, rfl⟩ := hp hpa
  obtain ⟨used', rfl⟩ := hf a hfa
  exact ⟨used ++ used', (List.append_assoc ..).symm⟩

theorem Leaves.ite {q : Prop} [Decidable q] {p p' : StateT (List β) (Except ε) α} (hp : Leaves p)
    (hp' : Leaves p') : Leaves (if q then p else p') := by
  split
  · exact hp
  · exact hp'

theorem Consumes.bind {p : StateT (List β) (Except ε) α} {f : α → StateT (List β) (Except ε) γ}
    (hp : Consumes p) (hf : ∀ a, Leaves (f a)) : Consumes (p >>= f) := by
  intro bs r c h
  obtain ⟨a, r₁, hpa, hfa⟩ := StateT.bind_eq_ok h
  obtain ⟨used, hused, rfl⟩ := hp hpa
  obtain ⟨used', rfl⟩ := hf a hfa
  exact ⟨used ++ used', List.append_ne_nil_of_left_ne_nil hused used', (List.append_assoc ..).symm⟩
