import Mathlib

/-! Codes of which no word begins another one. -/

structure PrefixCode (α : Type) where
  word : α → List Bool
  free : ∀ a b, word a <+: word b → a = b

namespace PrefixCode

variable {α : Type} (c : PrefixCode α)

def words (xs : List α) : List Bool := xs.flatMap c.word

@[simp] theorem words_nil : c.words [] = [] := rfl

@[simp] theorem words_cons (x : α) (xs : List α) : c.words (x :: xs) = c.word x ++ c.words xs := rfl

@[simp] theorem words_append (xs ys : List α) : c.words (xs ++ ys) = c.words xs ++ c.words ys := by
  simp [words]

theorem length_words_replicate (n : Nat) (x : α) : (c.words (List.replicate n x)).length = n * (c.word x).length := by
  induction n with
  | zero => rw [List.replicate_zero, words_nil, List.length_nil, Nat.zero_mul]
  | succ n ih => rw [List.replicate_succ, words_cons, List.length_append, ih, Nat.succ_mul, Nat.add_comm]

/-- No word of the code is complete in it. -/
def Partial (p : List Bool) : Prop := ∀ a, ¬c.word a <+: p

variable {c}

theorem Partial.of_word {p : List Bool} {a : α} (h : p <+: c.word a) (hne : p ≠ c.word a) :
    c.Partial p := by
  intro b hb
  obtain rfl := c.free b a (hb.trans h)
  exact hne (h.eq_of_length (Nat.le_antisymm h.length_le hb.length_le))

/-- Two ways to read the same bits agree as far as the first one has read whole words. -/
theorem words_front {xs ys : List α} {u q : List Bool} (hq : c.Partial q)
    (h : c.words xs ++ u = c.words ys ++ q) : xs <+: ys := by
  induction xs generalizing ys with
  | nil => exact List.nil_prefix
  | cons x xs ih =>
    cases ys with
    | nil => exact absurd ⟨_, by simpa using h⟩ (hq x)
    | cons y ys =>
      simp only [words_cons, List.append_assoc] at h
      have hxy : x = y := by
        have hx : c.word x <+: c.word y ++ (c.words ys ++ q) := ⟨_, h⟩
        rcases List.prefix_or_prefix_of_prefix hx (List.prefix_append _ _) with hx | hy
        · exact c.free x y hx
        · exact (c.free y x hy).symm
      subst hxy
      exact List.cons_prefix_cons.mpr ⟨rfl, ih (List.append_cancel_left h)⟩

theorem words_inj {xs ys : List α} {p q : List Bool} (hp : c.Partial p) (hq : c.Partial q)
    (h : c.words xs ++ p = c.words ys ++ q) : xs = ys ∧ p = q := by
  have hxy := words_front hq h
  obtain rfl := hxy.eq_of_length (Nat.le_antisymm hxy.length_le (words_front hp h.symm).length_le)
  exact ⟨rfl, List.append_cancel_left h⟩

end PrefixCode
