import Mathlib

/-! Intrusive queues: a list that runs through the link fields of its members, with a membership
flag in each of them and the two ends kept apart. -/

variable {κ : Type}

def List.ends (l : List κ) : Option (κ × κ) := l.head?.bind fun h => l.getLast?.map fun t => (h, t)

@[simp] theorem List.ends_nil : ([] : List κ).ends = none := rfl

theorem List.ends_cons (h : κ) (l : List κ) : (h :: l).ends = some (h, (h :: l).getLast (by simp)) := by
  simp [List.ends, List.getLast?_eq_getLast_of_ne_nil]

@[simp] theorem List.ends_concat (l : List κ) (k : κ) :
    (l ++ [k]).ends = some ((l ++ [k]).head (by simp), k) := by
  simp [List.ends, List.head?_eq_some_head]

theorem List.getLast?_of_ends {l : List κ} {a b : κ} (h : some (a, b) = l.ends) :
    l.getLast? = some b ∧ l.head? = some a := by
  cases l with
  | nil => simp at h
  | cons x l =>
    rw [List.ends_cons, Option.some.injEq, Prod.mk.injEq] at h
    obtain ⟨rfl, rfl⟩ := h
    exact ⟨List.getLast?_eq_getLast_of_ne_nil (by simp), rfl⟩

theorem List.ends_concat_of_ends {l : List κ} {a b c : κ} (h : some (a, b) = l.ends) :
    (l ++ [c]).ends = some (a, c) := by
  cases l with
  | nil => simp at h
  | cons x l =>
    rw [List.ends_cons, Option.some.injEq, Prod.mk.injEq] at h
    rw [List.ends_concat]
    simp [h.1]

theorem List.ends_cons_of_ends {l : List κ} {a b c : κ} (h : some (a, b) = l.ends) :
    (c :: l).ends = some (c, b) := by
  cases l with
  | nil => simp at h
  | cons x l =>
    rw [List.ends_cons, Option.some.injEq, Prod.mk.injEq] at h
    rw [List.ends_cons, List.getLast_cons (by simp), h.2]

/-- `l` is the content of the queue whose links are `next`, whose flags are `queued` and whose ends
are `ends`. -/
structure Threaded (next : κ → Option κ) (queued : κ → Prop) (ends : Option (κ × κ)) (l : List κ) :
    Prop where
  nodup : l.Nodup
  queued_iff : ∀ k, queued k ↔ k ∈ l
  link : ∀ i k, l[i]? = some k → next k = l[i + 1]?
  unlinked : ∀ k, k ∉ l → next k = none
  ends_eq : ends = l.ends

namespace Threaded

variable {next next' : κ → Option κ} {queued queued' : κ → Prop} {ends : Option (κ × κ)} {l : List κ}

theorem empty (hq : ∀ k, ¬queued k) (hn : ∀ k, next k = none) : Threaded next queued none [] where
  nodup := List.nodup_nil
  queued_iff k := by simp [hq k]
  link i k h := by simp at h
  unlinked k _ := hn k
  ends_eq := rfl

theorem congr (h : Threaded next queued ends l) (hq : ∀ k, queued' k ↔ queued k)
    (hn : ∀ k, next' k = next k) : Threaded next' queued' ends l where
  nodup := h.nodup
  queued_iff k := (hq k).trans (h.queued_iff k)
  link i k hk := (hn k).trans (h.link i k hk)
  unlinked k hk := (hn k).trans (h.unlinked k hk)
  ends_eq := h.ends_eq

theorem eq_nil (h : Threaded next queued none l) : l = [] := by
  have hends := h.ends_eq
  cases l with
  | nil => rfl
  | cons k l => simp [List.ends_cons] at hends

theorem eq_cons {a b : κ} (h : Threaded next queued (some (a, b)) l) :
    ∃ rest, l = a :: rest ∧ b ∈ l ∧ queued a := by
  have hends := h.ends_eq
  cases l with
  | nil => simp at hends
  | cons k rest =>
    rw [List.ends_cons, Option.some.injEq, Prod.mk.injEq] at hends
    obtain ⟨rfl, rfl⟩ := hends
    exact ⟨rest, rfl, List.getLast_mem _, (h.queued_iff a).mpr List.mem_cons_self⟩

theorem next_last {a b : κ} (h : Threaded next queued (some (a, b)) l) : next b = none := by
  have hends := h.ends_eq
  cases hl : l with
  | nil => simp [hl] at hends
  | cons k rest =>
    have hlast : l.getLast? = some b := by
      rw [hl, List.ends_cons, Option.some.injEq, Prod.mk.injEq] at hends
      rw [hl, List.getLast?_eq_getLast_of_ne_nil (by simp), hends.2]
    rw [List.getLast?_eq_getElem?] at hlast
    have hnext := h.link _ _ hlast
    rw [hnext]
    exact List.getElem?_eq_none (by rw [hl]; simp)

theorem pushBack {k : κ} (h : Threaded next queued ends l) (hk : ¬queued k)
    (hq : ∀ j, queued' j ↔ j = k ∨ queued j)
    (hlast : ∀ j, l.getLast? = some j → next' j = some k)
    (hrest : ∀ j, l.getLast? ≠ some j → next' j = next j) :
    Threaded next' queued' (l ++ [k]).ends (l ++ [k]) where
  nodup := by
    have hmem : k ∉ l := fun hmem => hk ((h.queued_iff k).mpr hmem)
    refine List.nodup_append.mpr ⟨h.nodup, by simp, ?_⟩
    intro a ha b hb hab
    rw [List.mem_singleton] at hb
    exact hmem (hb ▸ hab ▸ ha)
  queued_iff j := by
    rw [hq j, h.queued_iff j, List.mem_append, List.mem_singleton, or_comm]
  link i j hij := by
    have hmem : k ∉ l := fun hmem => hk ((h.queued_iff k).mpr hmem)
    rcases Nat.lt_trichotomy i l.length with hi | hi | hi
    · rw [List.getElem?_append_left hi] at hij
      by_cases hend : i + 1 = l.length
      · have hj : l.getLast? = some j := by
          rw [List.getLast?_eq_getElem?, ← hij]
          congr 1
          omega
        rw [hlast j hj, hend]
        simp
      · have hj : l.getLast? ≠ some j := by
          intro hj
          rw [List.getLast?_eq_getElem?] at hj
          have hlt : l.length - 1 < l.length := by omega
          have hinj := (List.getElem?_inj hi h.nodup).mp (hij.trans hj.symm)
          omega
        rw [hrest j hj, h.link i j hij, List.getElem?_append_left (by omega)]
    · subst hi
      simp only [List.getElem?_concat_length, Option.some.injEq] at hij
      subst hij
      have hj : l.getLast? ≠ some k := fun hj => hmem (List.mem_of_getLast? hj)
      rw [hrest k hj, h.unlinked k hmem, List.getElem?_eq_none (by simp)]
    · rw [List.getElem?_eq_none (by simp; omega)] at hij
      cases hij
  unlinked j hj := by
    have hmem : j ∉ l := fun hmem => hj (List.mem_append_left _ hmem)
    rw [hrest j fun hlast => hmem (List.mem_of_getLast? hlast)]
    exact h.unlinked j hmem
  ends_eq := rfl

theorem pushFront {k : κ} (h : Threaded next queued ends l) (hk : ¬queued k)
    (hq : ∀ j, queued' j ↔ j = k ∨ queued j) (hself : next' k = l.head?)
    (hrest : ∀ j, j ≠ k → next' j = next j) :
    Threaded next' queued' (k :: l).ends (k :: l) where
  nodup := List.nodup_cons.mpr ⟨fun hmem => hk ((h.queued_iff k).mpr hmem), h.nodup⟩
  queued_iff j := by rw [hq j, h.queued_iff j, List.mem_cons]
  link i j hij := by
    have hmem : k ∉ l := fun hmem => hk ((h.queued_iff k).mpr hmem)
    cases i with
    | zero =>
      simp only [List.getElem?_cons_zero, Option.some.injEq] at hij
      subst hij
      rw [hself, List.head?_eq_getElem?]
      rfl
    | succ i =>
      simp only [List.getElem?_cons_succ] at hij ⊢
      rw [hrest j fun hjk => hmem (hjk ▸ List.mem_of_getElem? hij)]
      exact h.link i j hij
  unlinked j hj := by
    rw [List.mem_cons, not_or] at hj
    rw [hrest j hj.1]
    exact h.unlinked j hj.2
  ends_eq := rfl

theorem pop {k : κ} (h : Threaded next queued ends (k :: l))
    (hq : ∀ j, queued' j ↔ j ≠ k ∧ queued j) (hself : next' k = none)
    (hrest : ∀ j, j ≠ k → next' j = next j) : Threaded next' queued' l.ends l where
  nodup := (List.nodup_cons.mp h.nodup).2
  queued_iff j := by
    have hmem : k ∉ l := (List.nodup_cons.mp h.nodup).1
    rw [hq j, h.queued_iff j, List.mem_cons]
    constructor
    · rintro ⟨hne, rfl | hj⟩
      · exact absurd rfl hne
      · exact hj
    · intro hj
      exact ⟨fun hjk => hmem (hjk ▸ hj), Or.inr hj⟩
  link i j hij := by
    have hmem : k ∉ l := (List.nodup_cons.mp h.nodup).1
    rw [hrest j fun hjk => hmem (hjk ▸ List.mem_of_getElem? hij)]
    exact h.link (i + 1) j (by simpa using hij)
  unlinked j hj := by
    by_cases hjk : j = k
    · rw [hjk, hself]
    · rw [hrest j hjk]
      exact h.unlinked j (by simp [hjk, hj])
  ends_eq := rfl

end Threaded
