import Mathlib

/-! The interface of a slab, and a slab that is a list of optional entries. -/

/-- The slab crate, for entries of type `β`.  Indexing a vacant entry and removing it panic. -/
structure SlabCrate (β : Type) where
  Slab : Type
  new : Slab
  insert : Slab → β → Nat × Slab
  index : Slab → Nat → Option β
  /-- `slab[key] = b`, for a key in use. -/
  assign : Slab → Nat → β → Slab
  remove : Slab → Nat → Option (β × Slab)
  len : Slab → Nat

/-- What the slab crate promises: a new entry has a key that was not in use, and exactly the removed
key is freed. -/
structure SlabCrate.Documented {β : Type} (C : SlabCrate β) : Prop where
  new : (∀ key, C.index C.new key = none) ∧ C.len C.new = 0
  insert : ∀ s b, C.index s (C.insert s b).1 = none ∧
    (∀ key, C.index (C.insert s b).2 key = if key = (C.insert s b).1 then some b else C.index s key) ∧
    C.len (C.insert s b).2 = C.len s + 1
  assign : ∀ s key b b', C.index s key = some b →
    (∀ k, C.index (C.assign s key b') k = if k = key then some b' else C.index s k) ∧
    C.len (C.assign s key b') = C.len s
  remove : ∀ s key b, C.index s key = some b → ∃ s', C.remove s key = some (b, s') ∧
    (∀ k, C.index s' k = if k = key then none else C.index s k) ∧ C.len s = C.len s' + 1

section

variable {β : Type}

def plainInsert (s : List (Option β)) (b : β) : Nat × List (Option β) :=
  let key := s.findIdx Option.isNone
  (key, if key < s.length then s.set key (some b) else s ++ [some b])

def plainSlab (β : Type) : SlabCrate β where
  Slab := List (Option β)
  new := []
  insert := plainInsert
  index s key := s[key]?.join
  assign s key b := s.set key (some b)
  remove s key := s[key]?.join.map fun b => (b, s.set key none)
  len := List.countP Option.isSome

theorem countP_set_isSome {s : List (Option β)} {key : Nat} {o : Option β} (o' : Option β) (h : s[key]? = some o) :
    (s.set key o').countP Option.isSome + o.isSome.toNat = s.countP Option.isSome + o'.isSome.toNat := by
  obtain ⟨hkey, rfl⟩ := List.getElem?_eq_some_iff.mp h
  have hpos : s[key].isSome = true → 0 < s.countP Option.isSome := fun hsome =>
    List.countP_pos_iff.mpr ⟨_, List.getElem_mem hkey, hsome⟩
  rw [List.countP_set hkey]
  cases hold : s[key] <;> cases o' <;> simp_all

theorem plainSlab_set {s : List (Option β)} {key : Nat} (h : key < s.length) (o : Option β) (k : Nat) :
    (s.set key o)[k]?.join = if k = key then o else s[k]?.join := by
  by_cases hk : k = key
  · subst hk
    rw [if_pos rfl, List.getElem?_set_self h]
    rfl
  · rw [if_neg hk, List.getElem?_set_ne (Ne.symm hk)]

theorem plainSlab_used {s : List (Option β)} {key : Nat} {b : β} (h : s[key]?.join = some b) :
    s[key]? = some (some b) ∧ key < s.length := by
  match hkey : s[key]? with
  | none =>
    rw [hkey] at h
    cases h
  | some o =>
    rw [hkey] at h
    obtain rfl : o = some b := h
    exact ⟨rfl, (List.getElem?_eq_some_iff.mp hkey).1⟩

theorem plainInsert_spec (s : List (Option β)) (b : β) : s[(plainInsert s b).1]?.join = none ∧
    (∀ k : Nat, (plainInsert s b).2[k]?.join = if k = (plainInsert s b).1 then some b else s[k]?.join) ∧
    (plainInsert s b).2.countP Option.isSome = s.countP Option.isSome + 1 := by
  rw [plainInsert]
  dsimp only
  by_cases hkey : s.findIdx Option.isNone < s.length
  · have hnone : s[s.findIdx Option.isNone] = none := Option.isNone_iff_eq_none.mp List.findIdx_getElem
    have hget : s[s.findIdx Option.isNone]? = some none := by
      rw [List.getElem?_eq_getElem hkey, hnone]
    have hsum := countP_set_isSome (some b) hget
    rw [if_pos hkey, hget]
    exact ⟨rfl, plainSlab_set hkey _, hsum⟩
  · have heq : s.findIdx Option.isNone = s.length :=
      Nat.le_antisymm List.findIdx_le_length (Nat.le_of_not_lt hkey)
    rw [if_neg hkey, heq]
    refine ⟨by simp, fun k => ?_, by simp⟩
    rcases Nat.lt_trichotomy k s.length with hk | hk | hk
    · rw [if_neg (by omega), List.getElem?_append_left hk]
    · rw [if_pos hk, hk]
      simp
    · rw [if_neg (by omega), List.getElem?_eq_none (by simp; omega), List.getElem?_eq_none (by omega)]

theorem plainSlab_documented : (plainSlab β).Documented where
  new := ⟨fun _ => rfl, rfl⟩
  insert := plainInsert_spec
  assign s key b b' h := by
    obtain ⟨hget, hkey⟩ := plainSlab_used h
    have hsum := countP_set_isSome (some b') hget
    exact ⟨plainSlab_set hkey _, Nat.add_right_cancel hsum⟩
  remove s key b h := by
    obtain ⟨hget, hkey⟩ := plainSlab_used h
    have hsum := countP_set_isSome none hget
    exact ⟨_, congrArg (Option.map _) h, plainSlab_set hkey _, hsum.symm⟩

end
