import TwoPlz.Lib.Keeps

/-! Computations with state and failure whose assertions are told from their other failures. -/

/-- An assertion that fails throws. -/
abbrev Checked (ε σ α : Type) := ExceptT ε (StateT σ Option) α

namespace Checked

variable {ε σ α β : Type}

def erase (m : Checked ε σ α) : StateT σ Option α := fun s =>
  (m.run s).bind fun r => match r with
    | (.ok a, s') => some (a, s')
    | (.error _, _) => none

theorem run_bind (m : Checked ε σ α) (f : α → Checked ε σ β) (s : σ) :
    (m >>= f).run s = (m.run s).bind fun r => match r with
      | (.ok a, s') => (f a).run s'
      | (.error e, s') => some (.error e, s') := by
  change (m.run s).bind _ = _
  congr 1
  funext ⟨r, s'⟩
  cases r <;> rfl

theorem run_lift (m : StateT σ Option α) (s : σ) :
    (liftM m : Checked ε σ α).run s = (m s).map fun r => (.ok r.1, r.2) := by
  change (m s).bind _ = _
  cases m s <;> rfl

@[simp] theorem erase_lift (m : StateT σ Option α) : erase (liftM m : Checked ε σ α) = m := by
  funext s
  unfold erase
  rw [run_lift]
  cases m s <;> rfl

@[simp] theorem erase_pure (a : α) : erase (pure a : Checked ε σ α) = pure a := rfl

@[simp] theorem erase_throw (e : ε) (s : σ) : erase (throw e : Checked ε σ α) s = none := rfl

@[simp] theorem erase_bind (m : Checked ε σ α) (f : α → Checked ε σ β) :
    erase (m >>= f) = erase m >>= fun a => erase (f a) := by
  funext s
  change ((m >>= f).run s).bind _ = (erase m s).bind fun r => erase (f r.1) r.2
  unfold erase
  rw [run_bind]
  cases hm : m.run s with
  | none => rfl
  | some r =>
    obtain ⟨r, s'⟩ := r
    cases r <;> rfl

/-- No assertion fails in a run of `m` from `s`, and one that returns ends as `P` says. -/
def Passes (s : σ) (m : Checked ε σ α) (P : α → σ → Prop) : Prop :=
  ∀ r s', m.run s = some (r, s') → ∃ a, r = .ok a ∧ P a s'

namespace Passes

variable {s : σ} {P : β → σ → Prop} {Q : α → σ → Prop}

theorem pure {b : β} (h : P b s) : Passes s (Pure.pure b : Checked ε σ β) P := by
  intro r s' hs
  cases hs
  exact ⟨b, rfl, h⟩

theorem bind {m : Checked ε σ α} {f : α → Checked ε σ β} (hm : Passes s m Q)
    (hf : ∀ a s', m.erase s = some (a, s') → Q a s' → Passes s' (f a) P) : Passes s (m >>= f) P := by
  intro r s' hs
  rw [run_bind] at hs
  obtain ⟨⟨r₁, s₁⟩, hrun, hs⟩ := Option.bind_eq_some_iff.mp hs
  obtain ⟨a, rfl, hQ⟩ := hm r₁ s₁ hrun
  exact hf a s₁ (by simp [erase, hrun]) hQ r s' hs

theorem lift {m : StateT σ Option β} (h : Ends s m P) : Passes s (liftM m : Checked ε σ β) P := by
  intro r s' hs
  rw [run_lift] at hs
  obtain ⟨⟨b, s₁⟩, hm, heq⟩ := Option.map_eq_some_iff.mp hs
  cases heq
  exact ⟨b, rfl, h b _ hm⟩

theorem lift_bind {m : StateT σ Option α} {f : α → Checked ε σ β}
    (h : ∀ a s', m s = some (a, s') → Passes s' (f a) P) : Passes s (liftM m >>= f) P := by
  refine bind (Q := fun a s' => m s = some (a, s')) (lift fun a s' hm => hm) fun a s' _ hm => h a s' hm

/-- What the computation without its assertions ends with. -/
theorem erased {m : Checked ε σ β} (h : Passes s m P) : Ends s m.erase P := by
  intro b s' hs
  obtain ⟨⟨r, s₁⟩, hrun, hr⟩ := Option.bind_eq_some_iff.mp hs
  obtain ⟨b', rfl, hP⟩ := h r s₁ hrun
  cases hr
  exact hP

end Passes

end Checked
