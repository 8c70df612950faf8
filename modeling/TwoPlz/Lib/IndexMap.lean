import Mathlib

/-! Maps as lists of entries with distinct keys, in an order of their own. -/

/-- The indexmap crate.  A map without duplicate keys keeps its entries in an order, `iter`. -/
structure IndexMapCrate (κ α : Type) where
  Map : Type
  new : Map
  iter : Map → List (κ × α)
  get : Map → κ → Option α
  getIndex : Map → Nat → Option (κ × α)
  len : Map → Nat
  /-- `insert` and `VacantEntry::insert`, under a key that is not in use. -/
  insert : Map → κ → α → Map
  swapRemove : Map → κ → Map

/-- What the indexmap crate promises.  That the keys of a map differ is not assumed. -/
structure IndexMapCrate.Documented {κ α : Type} [BEq κ] (C : IndexMapCrate κ α) : Prop where
  new : C.iter C.new = []
  get : ∀ m key, C.get m key = (C.iter m).lookup key
  getIndex : ∀ m (i : Nat), C.getIndex m i = (C.iter m)[i]?
  len : ∀ m, C.len m = (C.iter m).length
  insert : ∀ m key a, C.get m key = none → C.iter (C.insert m key a) = C.iter m ++ [(key, a)]
  /-- The last entry moves into the place of the removed one. -/
  swapRemove : ∀ m (i : Nat) key a last, ((C.iter m).map Prod.fst).Nodup → (C.iter m)[i]? = some (key, a) →
    (C.iter m).getLast? = some last → C.iter (C.swapRemove m key) = ((C.iter m).set i last).dropLast
  absent : ∀ m key, C.get m key = none → C.iter (C.swapRemove m key) = C.iter m

variable {κ α : Type}

theorem List.lookup_eq_some_iff_mem [DecidableEq κ] {l : List (κ × α)} (h : (l.map Prod.fst).Nodup)
    {a : κ} {b : α} : l.lookup a = some b ↔ (a, b) ∈ l := by
  induction l with
  | nil => simp
  | cons p l ih =>
    obtain ⟨a', b'⟩ := p
    rw [List.map_cons, List.nodup_cons] at h
    by_cases ha : a = a'
    · subst ha
      have hno : (a, b) ∉ l := fun hmem => h.1 (List.mem_map.mpr ⟨(a, b), hmem, rfl⟩)
      simp [hno, eq_comm]
    · have hbeq : (a == a') = false := by simpa using ha
      simp [List.lookup_cons, hbeq, ih h.2, ha]

theorem List.dropLast_set_perm {l : List α} {i : Nat} {last : α} (hi : i < l.length)
    (hlast : l.getLast? = some last) : ((l.set i last).dropLast).Perm (l.eraseIdx i) := by
  obtain ⟨init, rfl⟩ := List.getLast?_eq_some_iff.mp hlast
  by_cases hlt : i < init.length
  · rw [List.set_append_left _ _ hlt, List.dropLast_concat, List.eraseIdx_append_of_lt_length hlt]
    exact (List.set_perm_cons_eraseIdx hlt last).trans (List.perm_append_singleton _ _).symm
  · have heq : i = init.length := by
      rw [List.length_append, List.length_singleton] at hi
      omega
    subst heq
    simp [List.eraseIdx_append_of_length_le]

theorem List.drop_dropLast_set_perm {l : List α} {i : Nat} {last : α} (hi : i < l.length)
    (hlast : l.getLast? = some last) : (((l.set i last).dropLast).drop i).Perm (l.drop (i + 1)) := by
  obtain ⟨init, rfl⟩ := List.getLast?_eq_some_iff.mp hlast
  by_cases hlt : i < init.length
  · have hset : i < (init.set i last).length := by rwa [List.length_set]
    have hdrop : (init.set i last).drop (i + 1) = init.drop (i + 1) := by
      rw [List.drop_set, if_pos (Nat.lt_succ_self i)]
    rw [List.set_append_left _ _ hlt, List.dropLast_concat, List.drop_eq_getElem_cons hset,
      List.getElem_set_self, hdrop, List.drop_append_of_le_length hlt]
    exact (List.perm_append_singleton _ _).symm
  · have heq : i = init.length := by
      rw [List.length_append, List.length_singleton] at hi
      omega
    subst heq
    simp

namespace IndexMapCrate.Documented

variable [DecidableEq κ] {C : IndexMapCrate κ α} {m : C.Map} {key : κ}

theorem get_eq_some_iff (hC : C.Documented) (h : ((C.iter m).map Prod.fst).Nodup) {a : α} :
    C.get m key = some a ↔ (key, a) ∈ C.iter m := by
  rw [hC.get, List.lookup_eq_some_iff_mem h]

/-- What is left are the entries with another key, and their keys still differ. -/
theorem mem_swapRemove (hC : C.Documented) (h : ((C.iter m).map Prod.fst).Nodup) (key : κ) :
    ((C.iter (C.swapRemove m key)).map Prod.fst).Nodup ∧
      ∀ p, p ∈ C.iter (C.swapRemove m key) ↔ p ∈ C.iter m ∧ p.1 ≠ key := by
  cases hget : C.get m key with
  | none =>
    rw [hC.absent m key hget]
    refine ⟨h, fun p => ⟨fun hp => ⟨hp, ?_⟩, And.left⟩⟩
    rintro rfl
    cases hget.symm.trans ((hC.get_eq_some_iff h).mpr hp)
  | some a =>
    obtain ⟨i, hi⟩ := List.mem_iff_getElem?.mp ((hC.get_eq_some_iff h).mp hget)
    obtain ⟨hlt, hentry⟩ := List.getElem?_eq_some_iff.mp hi
    obtain ⟨last, hlast⟩ := Option.ne_none_iff_exists'.mp
      (mt List.getLast?_eq_none_iff.mp (List.ne_nil_of_length_pos (Nat.zero_lt_of_lt hlt)))
    have hperm := List.dropLast_set_perm hlt hlast
    have hcons : ((key, a) :: (C.iter m).eraseIdx i).Perm (C.iter m) := by
      rw [← hentry]
      exact List.getElem_cons_eraseIdx_perm hlt
    have hnodup : (((key, a) :: (C.iter m).eraseIdx i).map Prod.fst).Nodup := (hcons.map _).nodup_iff.mpr h
    rw [List.map_cons, List.nodup_cons] at hnodup
    rw [hC.swapRemove m i key a last h hi hlast]
    refine ⟨(hperm.map _).nodup_iff.mpr hnodup.2, fun p => ?_⟩
    rw [hperm.mem_iff, ← hcons.mem_iff, List.mem_cons]
    constructor
    · intro hp
      exact ⟨Or.inr hp, fun hkey => hnodup.1 (List.mem_map.mpr ⟨p, hp, hkey⟩)⟩
    · rintro ⟨rfl | hp, hne⟩
      · exact absurd rfl hne
      · exact hp

end IndexMapCrate.Documented

section

variable [DecidableEq κ]

def plainSwapRemove (l : List (κ × α)) (key : κ) : List (κ × α) :=
  match l.findIdx? (·.1 == key), l.getLast? with
  | some i, some last => (l.set i last).dropLast
  | _, _ => l

variable (κ α) in
def plainIndexMap : IndexMapCrate κ α where
  Map := List (κ × α)
  new := []
  iter l := l
  get l key := l.lookup key
  getIndex l i := l[i]?
  len := List.length
  insert l key a := l ++ [(key, a)]
  swapRemove := plainSwapRemove

theorem findIdx?_key {l : List (κ × α)} {i : Nat} {key : κ} {a : α} (h : (l.map Prod.fst).Nodup)
    (hi : l[i]? = some (key, a)) : l.findIdx? (·.1 == key) = some i := by
  obtain ⟨hlt, hentry⟩ := List.getElem?_eq_some_iff.mp hi
  rw [List.findIdx?_eq_some_iff_getElem]
  refine ⟨hlt, by simp [hentry], fun j hj => ?_⟩
  have hi' : i < (l.map Prod.fst).length := by rwa [List.length_map]
  have hne : (l.map Prod.fst)[j] ≠ (l.map Prod.fst)[i] := fun heq => by
    have hji := (List.Nodup.getElem_inj_iff h).mp heq
    omega
  rw [List.getElem_map, List.getElem_map, hentry] at hne
  simpa using hne

theorem plainSwapRemove_eq {l : List (κ × α)} {i : Nat} {key : κ} {a : α} {last : κ × α}
    (h : (l.map Prod.fst).Nodup) (hi : l[i]? = some (key, a)) (hlast : l.getLast? = some last) :
    plainSwapRemove l key = (l.set i last).dropLast := by
  simp only [plainSwapRemove, findIdx?_key h hi, hlast]

theorem plainSwapRemove_absent {l : List (κ × α)} {key : κ} (h : l.lookup key = none) : plainSwapRemove l key = l := by
  have hno : l.findIdx? (·.1 == key) = none := by
    rw [List.findIdx?_eq_none_iff]
    intro p hp
    have hkey : (key != p.1) = true := List.lookup_eq_none_iff.mp h p hp
    exact beq_false_of_ne (Ne.symm (bne_iff_ne.mp hkey))
  simp only [plainSwapRemove, hno]

theorem plainIndexMap_documented : (plainIndexMap κ α).Documented where
  new := rfl
  get _ _ := rfl
  getIndex _ _ := rfl
  len _ := rfl
  insert _ _ _ _ := rfl
  swapRemove _ _ _ _ _ := plainSwapRemove_eq
  absent _ _ := plainSwapRemove_absent

end
