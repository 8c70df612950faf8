import Mathlib

/-! The newest elements of a list that fit into a budget.  The newest one comes first. -/

namespace Budget

variable {α : Type} (w : α → Nat)

def total (l : List α) : Nat := (l.map w).sum

/-- The longest part at the front of a list that weighs at most `max`. -/
def fit (max : Nat) : List α → List α
  | [] => []
  | a :: l => if w a ≤ max then a :: fit (max - w a) l else []

variable {w} {max : Nat} {l : List α}

@[simp] theorem total_nil : total w [] = 0 := rfl

@[simp] theorem total_cons (a : α) (l : List α) : total w (a :: l) = w a + total w l := by
  simp [total]

@[simp] theorem total_append (l l' : List α) : total w (l ++ l') = total w l + total w l' := by
  simp [total]

theorem total_fit_le (w : α → Nat) (max : Nat) (l : List α) : total w (fit w max l) ≤ max := by
  induction l generalizing max with
  | nil => exact Nat.zero_le max
  | cons a l ih =>
    rw [fit]
    split
    · have := ih (max - w a)
      rw [total_cons]
      omega
    · exact Nat.zero_le max

theorem fit_sublist (w : α → Nat) (max : Nat) (l : List α) : (fit w max l).Sublist l := by
  induction l generalizing max with
  | nil => exact .slnil
  | cons a l ih =>
    rw [fit]
    split
    · exact (ih _).cons_cons a
    · exact List.nil_sublist _

theorem fit_of_total_le (h : total w l ≤ max) : fit w max l = l := by
  induction l generalizing max with
  | nil => rfl
  | cons a l ih =>
    rw [total_cons] at h
    rw [fit, if_pos (by omega), ih (by omega)]

theorem fit_append_singleton {a : α} (h : max < total w l + w a) :
    fit w max (l ++ [a]) = fit w max l := by
  induction l generalizing max with
  | nil =>
    rw [total_nil] at h
    exact if_neg (by omega)
  | cons b l ih =>
    rw [total_cons] at h
    rw [List.cons_append, fit, fit]
    split
    · rw [ih (by omega)]
    · rfl

theorem fit_fit (a b : Nat) (l : List α) : fit w a (fit w b l) = fit w (min a b) l := by
  induction l generalizing a b with
  | nil => rfl
  | cons c l ih =>
    rw [fit, fit]
    by_cases hb : w c ≤ b
    · rw [if_pos hb, fit]
      by_cases ha : w c ≤ a
      · rw [if_pos ha, if_pos (by omega), ih, Nat.sub_min_sub_right]
      · rw [if_neg ha, if_neg (by omega)]
    · rw [if_neg hb, if_neg (by omega), fit]

@[simp] theorem fit_zero (h : ∀ a ∈ l, 0 < w a) : fit w 0 l = [] := by
  cases l with
  | nil => rfl
  | cons a l =>
    have := h a List.mem_cons_self
    exact if_neg (by omega)

end Budget
