import Mathlib

/-! Records that are chained by their keys.  The oldest record comes first; each links to the next
newer one with its key, and the oldest one of a key is the head of its chain. -/

namespace Chained

variable {α ι κ : Type} [DecidableEq κ] (ident : α → ι) (key : α → κ) (next : α → Option ι)

/-- The oldest record of each key. -/
def heads : List α → List α
  | [] => []
  | a :: l => a :: (heads l).filter fun b => key b ≠ key a

def Linked : List α → Prop
  | [] => True
  | a :: l => next a = (l.find? fun b => key b = key a).map ident ∧ Linked l

variable {ident key next} {a b : α} {k : κ} {l l₁ l₂ : List α}

theorem heads_sublist (l : List α) : (heads key l).Sublist l := by
  induction l with
  | nil => exact .slnil
  | cons a l ih => exact (List.filter_sublist.trans ih).cons_cons a

theorem heads_append (l : List α) (b : α) :
    heads key (l ++ [b]) = heads key l ++ if ∃ a ∈ l, key a = key b then [] else [b] := by
  induction l with
  | nil => simp [heads]
  | cons a l ih =>
    simp only [List.cons_append, heads, ih, List.filter_append]
    congr 2
    by_cases hl : ∃ a ∈ l, key a = key b
    · rw [if_pos hl, if_pos (by simpa using .inr hl), List.filter_nil]
    · rw [if_neg hl]
      by_cases ha : key a = key b
      · rw [if_pos (by simp [ha])]
        simp [ha]
      · rw [if_neg (by simpa [ha] using hl)]
        simp [Ne.symm ha]

theorem heads_append_old (h : ∃ a ∈ l, key a = key b) : heads key (l ++ [b]) = heads key l := by
  rw [heads_append, if_pos h, List.append_nil]

theorem heads_append_new (h : ∀ a ∈ l, key a ≠ key b) : heads key (l ++ [b]) = heads key l ++ [b] := by
  rw [heads_append, if_neg fun ⟨a, ha, hkey⟩ => h a ha hkey]

theorem mem_heads (h : b ∈ heads key l) : l.find? (fun a => key a = key b) = some b := by
  induction l with
  | nil => cases h
  | cons a l ih =>
    rcases List.mem_cons.mp h with rfl | h
    · simp
    · obtain ⟨h, hne⟩ := List.mem_filter.mp h
      rw [List.find?_cons_of_neg (by simpa using Ne.symm (of_decide_eq_true hne)), ih h]

theorem filter_heads_none (h : l.find? (fun a => key a = k) = none) :
    (heads key l).filter (fun a => key a ≠ k) = heads key l := by
  refine List.filter_eq_self.mpr fun a ha => ?_
  simpa using List.find?_eq_none.mp h a ((heads_sublist l).subset ha)

theorem heads_perm (h : l.find? (fun a => key a = k) = some b) :
    (heads key l).Perm (b :: (heads key l).filter fun a => key a ≠ k) := by
  induction l with
  | nil => cases h
  | cons a l ih =>
    by_cases ha : key a = k
    · rw [List.find?_cons_of_pos (by simpa using ha)] at h
      cases h
      simp [heads, ha, List.filter_filter]
    · rw [List.find?_cons_of_neg (by simpa using ha)] at h
      have hb : key b = k := by simpa using List.find?_some h
      have hperm := (ih h).filter fun c => key c ≠ key a
      rw [List.filter_cons_of_pos (by simpa [hb] using Ne.symm ha)] at hperm
      simp only [heads]
      rw [List.filter_cons_of_pos (by simpa using ha)]
      refine (hperm.cons a).trans ((List.Perm.swap b a _).trans ?_)
      rw [List.filter_filter, List.filter_filter]
      refine .of_eq ?_
      congr 3
      funext c
      exact Bool.and_comm _ _

theorem find?_mem_heads (h : l.find? (fun a => key a = k) = some b) : b ∈ heads key l :=
  (heads_perm h).symm.subset List.mem_cons_self

theorem map_heads_replace {β : Type} {g : α → β} {a' : α} (hkey : key a' = key a) (hg : g a' = g a)
    (l₁ l₂ : List α) (p : κ → Bool) :
    ((heads key (l₁ ++ a' :: l₂)).filter fun b => p (key b)).map g
      = ((heads key (l₁ ++ a :: l₂)).filter fun b => p (key b)).map g := by
  induction l₁ generalizing p with
  | nil =>
    simp only [List.nil_append, heads, List.filter_cons, hkey]
    split
    · rw [List.map_cons, List.map_cons, hg]
    · rfl
  | cons c l₁ ih =>
    simp only [List.cons_append, heads, List.filter_cons, List.filter_filter]
    have hrest := ih fun k => p k && decide (k ≠ key c)
    split
    · rw [List.map_cons, List.map_cons, hrest]
    · exact hrest

theorem Linked.append (h : Linked ident key next l) (hnew : ∀ a ∈ l, key a ≠ key b)
    (hb : next b = none) : Linked ident key next (l ++ [b]) := by
  induction l with
  | nil => exact ⟨by simpa using hb, trivial⟩
  | cons a l ih =>
    obtain ⟨hnext, hrest⟩ := h
    rw [List.cons_append]
    refine ⟨?_, ih hrest fun a ha => hnew a (List.mem_cons_of_mem _ ha)⟩
    rw [hnext, List.find?_append, List.find?_cons_of_neg, List.find?_nil, Option.or_none]
    simpa using (hnew a List.mem_cons_self).symm

theorem Linked.append_link {a' : α} (h : Linked ident key next (l₁ ++ a :: l₂))
    (hident : ident a' = ident a) (hkey : key a' = key a) (ha : key a = key b)
    (hnew : ∀ c ∈ l₂, key c ≠ key b) (hnext : next a' = some (ident b)) (hb : next b = none) :
    Linked ident key next (l₁ ++ a' :: (l₂ ++ [b])) := by
  induction l₁ with
  | nil =>
    obtain ⟨-, hrest⟩ := h
    refine ⟨?_, hrest.append hnew hb⟩
    have hnone : l₂.find? (fun c => key c = key a') = none :=
      List.find?_eq_none.mpr fun c hc => by simpa [hkey, ha] using hnew c hc
    rw [hnext, List.find?_append, hnone, Option.none_or, List.find?_cons_of_pos (by simp [hkey, ha])]
    rfl
  | cons c l₁ ih =>
    rw [List.cons_append] at h ⊢
    obtain ⟨hc, hrest⟩ := h
    refine ⟨?_, ih hrest⟩
    rw [hc, List.find?_append, List.find?_append]
    rcases l₁.find? (fun b => key b = key c) with _ | d
    · rw [Option.none_or, Option.none_or]
      by_cases hac : key a = key c
      · rw [List.find?_cons_of_pos (by simpa using hac),
          List.find?_cons_of_pos (by simpa [hkey] using hac)]
        exact congrArg some hident.symm
      · rw [List.find?_cons_of_neg (by simpa using hac),
          List.find?_cons_of_neg (by simpa [hkey] using hac), List.find?_append,
          List.find?_cons_of_neg (by simpa [← ha] using hac), List.find?_nil, Option.or_none]
    · rfl

theorem Linked.tail (h : Linked ident key next (l₁ ++ l₂)) : Linked ident key next l₂ := by
  induction l₁ with
  | nil => exact h
  | cons a l₁ ih => exact ih h.2

theorem Linked.next_eq (h : Linked ident key next (l₁ ++ a :: l₂)) :
    next a = (l₂.find? fun b => key b = key a).map ident := h.tail.1

/-- Each record is referred to once, by the head of its chain or by the record before it. -/
theorem Linked.refs_perm (h : Linked ident key next l) :
    ((heads key l).map ident ++ l.filterMap next).Perm (l.map ident) := by
  induction l with
  | nil => exact .refl _
  | cons a l ih =>
    obtain ⟨hnext, hrest⟩ := h
    have hrefs := ih hrest
    rw [heads, List.map_cons, List.map_cons, List.cons_append]
    refine .cons _ ?_
    rcases hfind : l.find? (fun b => key b = key a) with _ | b
    · rw [hfind, Option.map_none] at hnext
      rw [List.filterMap_cons_none hnext, filter_heads_none hfind]
      exact hrefs
    · rw [hfind, Option.map_some] at hnext
      rw [List.filterMap_cons_some hnext]
      refine List.perm_middle.trans (.trans ?_ hrefs)
      exact ((heads_perm hfind).map ident).symm.append_right (l.filterMap next)

end Chained
