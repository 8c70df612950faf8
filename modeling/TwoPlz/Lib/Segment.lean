import Mathlib

/-! Linked lists in a heap that they share.  A cell is its key with its value; the heap keeps the value
and the key of the cell behind it. -/

variable {κ α : Type} {heap heap' : κ → Option (α × Option κ)} {last : Option κ}
  {cells cells' : List (κ × α)}

def Segment.entry (last : Option κ) : List (κ × α) → Option κ
  | [] => last
  | c :: _ => some c.1

/-- The cells are linked to each other in the heap, and the last one to `last`. -/
def Segment (heap : κ → Option (α × Option κ)) (last : Option κ) : List (κ × α) → Prop
  | [] => True
  | c :: cells => heap c.1 = some (c.2, Segment.entry last cells) ∧ Segment heap last cells

namespace Segment

theorem entry_append : entry last (cells ++ cells') = entry (entry last cells') cells := by
  cases cells <;> rfl

theorem append : Segment heap last (cells ++ cells') ↔
    Segment heap (entry last cells') cells ∧ Segment heap last cells' := by
  induction cells with
  | nil => exact ⟨fun h => ⟨trivial, h⟩, And.right⟩
  | cons c cells ih =>
    rw [List.cons_append, Segment, Segment, ih, entry_append, and_assoc]

theorem congr (h : Segment heap last cells) (heq : ∀ c ∈ cells, heap' c.1 = heap c.1) :
    Segment heap' last cells := by
  induction cells with
  | nil => trivial
  | cons c cells ih =>
    exact ⟨(heq c List.mem_cons_self).trans h.1, ih h.2 fun c' hc' => heq c' (List.mem_cons_of_mem _ hc')⟩

theorem occupied (h : Segment heap last cells) {k : κ} (hk : k ∈ cells.map Prod.fst) : heap k ≠ none := by
  induction cells with
  | nil => cases hk
  | cons c cells ih =>
    rcases List.mem_cons.mp hk with rfl | hk
    · rw [h.1]
      exact Option.some_ne_none _
    · exact ih h.2 hk

end Segment
