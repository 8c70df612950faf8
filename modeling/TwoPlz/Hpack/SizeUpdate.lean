import Mathlib

/-! The table size updates that the HPACK encoder has queued (`hpack/encoder.rs`). -/

namespace TwoPlz

inductive SizeUpdate : Type
  | one (size : Nat)
  | two (min size : Nat)
  deriving DecidableEq

/-- What bounds the table of the HPACK encoder: its `max_size`, and the updates to announce with
the next header block. -/
structure TableBound where
  maxSize : Nat
  sizeUpdate : Option SizeUpdate
  deriving DecidableEq

namespace TableBound

def updateMaxSize (t : TableBound) (val : Nat) : TableBound :=
  match t.sizeUpdate with
  | some (.one old) =>
    if val > old then
      if old > t.maxSize then { t with sizeUpdate := some (.one val) }
      else { t with sizeUpdate := some (.two old val) }
    else { t with sizeUpdate := some (.one val) }
  | some (.two min _) =>
    if val < min then { t with sizeUpdate := some (.one val) }
    else { t with sizeUpdate := some (.two min val) }
  | none => if val ≠ t.maxSize then { t with sizeUpdate := some (.one val) } else t

def encodeSizeUpdates (t : TableBound) : TableBound :=
  match t.sizeUpdate with
  | some (.one val) => ⟨val, none⟩
  | some (.two _ max) => ⟨max, none⟩
  | none => t

def size (t : TableBound) : Nat := t.encodeSizeUpdates.maxSize

@[simp] theorem size_updateMaxSize (t : TableBound) (val : Nat) : (t.updateMaxSize val).size = val := by
  obtain ⟨maxSize, _ | ⟨old⟩ | ⟨min, old⟩⟩ := t
  · simp only [updateMaxSize]
    split
    · rfl
    · rename_i h
      exact (not_not.mp h).symm
  · simp only [updateMaxSize]
    split
    · split <;> rfl
    · rfl
  · simp only [updateMaxSize]
    split <;> rfl

@[simp] theorem maxSize_updateMaxSize (t : TableBound) (val : Nat) :
    (t.updateMaxSize val).maxSize = t.maxSize := by
  obtain ⟨maxSize, _ | ⟨old⟩ | ⟨min, old⟩⟩ := t
  · simp only [updateMaxSize]
    split <;> rfl
  · simp only [updateMaxSize]
    split
    · split <;> rfl
    · rfl
  · simp only [updateMaxSize]
    split <;> rfl

@[simp] theorem size_encodeSizeUpdates (t : TableBound) : t.encodeSizeUpdates.size = t.size := by
  obtain ⟨maxSize, _ | ⟨old⟩ | ⟨min, old⟩⟩ := t <;> rfl

def announced (t : TableBound) : List Nat :=
  match t.sizeUpdate with
  | some (.one val) => [val]
  | some (.two min max) => [min, max]
  | none => []

theorem length_announced_le (t : TableBound) : t.announced.length ≤ 2 := by
  obtain ⟨maxSize, _ | ⟨val⟩ | ⟨low, val⟩⟩ := t <;> simp [announced]

theorem announced_eq_nil {t : TableBound} : t.announced = [] ↔ t.sizeUpdate = none := by
  obtain ⟨maxSize, _ | ⟨val⟩ | ⟨low, val⟩⟩ := t <;> simp [announced]

theorem mem_announced_updateMaxSize {t : TableBound} {val size : Nat}
    (h : size ∈ (t.updateMaxSize val).announced) : size = val ∨ size ∈ t.announced := by
  obtain ⟨maxSize, queue⟩ := t
  match queue with
  | none =>
    rw [updateMaxSize] at h
    dsimp only at h
    split at h
    · exact .inl (List.mem_singleton.mp h)
    · exact .inr h
  | some (.one old) =>
    rw [updateMaxSize] at h
    dsimp only at h
    split at h
    · split at h
      · exact .inl (List.mem_singleton.mp h)
      · rcases List.mem_cons.mp h with rfl | h
        · exact .inr List.mem_cons_self
        · exact .inl (List.mem_singleton.mp h)
    · exact .inl (List.mem_singleton.mp h)
  | some (.two low old) =>
    rw [updateMaxSize] at h
    dsimp only at h
    split at h
    · exact .inl (List.mem_singleton.mp h)
    · rcases List.mem_cons.mp h with rfl | h
      · exact .inr List.mem_cons_self
      · exact .inl (List.mem_singleton.mp h)

/-- The queue after updates to `vals`, on a table whose size was `max`: the lowest and the last
size count. -/
structure Coalesced (max : Nat) (vals : List Nat) (t : TableBound) : Prop where
  maxSize : t.maxSize = max
  unchanged : t.sizeUpdate = none → ∀ val ∈ vals, val = max
  lowest : t.announced.foldl min max = vals.foldl min max
  last : t.sizeUpdate ≠ none → t.announced.getLast? = vals.getLast?
  ordered : ∀ low val, t.sizeUpdate = some (.two low val) → low ≤ val
  announced : ∀ val ∈ t.announced, val ∈ vals

theorem Coalesced.update {max : Nat} {vals : List Nat} {t : TableBound} (h : Coalesced max vals t)
    (val : Nat) : Coalesced max (vals ++ [val]) (t.updateMaxSize val) := by
  obtain ⟨maxSize, queue⟩ := t
  obtain ⟨rfl, hunchanged, hlowest, -, hordered, hannounced⟩ := h
  have hold : ∀ v ∈ vals, v ∈ vals ++ [val] := fun v hv => List.mem_append_left _ hv
  have hnew : val ∈ vals ++ [val] := by simp
  dsimp only at *
  -- the queue holds one size, or two in order
  have hone : ∀ low, vals.foldl min maxSize = low → min low val = min maxSize val →
      Coalesced maxSize (vals ++ [val]) ⟨maxSize, some (.one val)⟩ := fun low hlow hmin => by
    refine ⟨rfl, nofun, ?_, fun _ => by simp [TableBound.announced], nofun, by simp [TableBound.announced]⟩
    rw [List.foldl_append, hlow]
    exact hmin.symm
  have htwo : ∀ low, low ∈ vals → vals.foldl min maxSize = min maxSize low → low ≤ val →
      Coalesced maxSize (vals ++ [val]) ⟨maxSize, some (.two low val)⟩ := fun low hmem hlow hle => by
    refine ⟨rfl, nofun, ?_, fun _ => by simp [TableBound.announced], ?_, ?_⟩
    · rw [List.foldl_append, hlow]
      rfl
    · intro low' val' heq
      cases heq
      exact hle
    · intro v hv
      rcases List.mem_cons.mp hv with rfl | hv
      · exact hold _ hmem
      · rw [List.mem_singleton.mp hv]
        exact hnew
  match queue with
  | none =>
    have hlow : vals.foldl min maxSize = maxSize := hlowest.symm
    rw [updateMaxSize]
    dsimp only
    split
    · exact hone maxSize hlow rfl
    · rename_i heq
      rw [not_not] at heq
      refine ⟨rfl, fun _ v hv => ?_, ?_, nofun, nofun, nofun⟩
      · rcases List.mem_append.mp hv with hv | hv
        · exact hunchanged rfl v hv
        · rw [List.mem_singleton.mp hv, heq]
      · rw [List.foldl_append, hlow, heq]
        exact (Nat.min_self maxSize).symm
  | some (.one old) =>
    have hlow : vals.foldl min maxSize = min maxSize old := hlowest.symm
    rw [updateMaxSize]
    dsimp only
    split
    · split
      · exact hone _ hlow (by omega)
      · exact htwo old (hannounced old List.mem_cons_self) hlow (by omega)
    · exact hone _ hlow (by omega)
  | some (.two low old) =>
    have hle := hordered low old rfl
    have hlow : vals.foldl min maxSize = min (min maxSize low) old := hlowest.symm
    rw [updateMaxSize]
    dsimp only
    split
    · exact hone _ hlow (by omega)
    · exact htwo low (hannounced low List.mem_cons_self) (by omega) (by omega)

theorem Coalesced.getLast {max : Nat} {vals : List Nat} {t : TableBound} (h : Coalesced max vals t) :
    t.announced.getLast?.getD max = vals.getLast?.getD max := by
  by_cases hnone : t.sizeUpdate = none
  · rw [announced_eq_nil.mpr hnone]
    rcases hlast : vals.getLast? with _ | val
    · rfl
    · exact (h.unchanged hnone val (List.mem_of_getLast? hlast)).symm
  · rw [h.last hnone]

theorem coalesced (t : TableBound) (h : t.sizeUpdate = none) (vals : List Nat) :
    Coalesced t.maxSize vals (vals.foldl updateMaxSize t) := by
  induction vals using List.reverseRecOn with
  | nil =>
    have hnil : t.announced = [] := by rw [announced, h]
    refine ⟨rfl, fun _ => nofun, by rw [List.foldl_nil, hnil], fun hne => absurd h hne, ?_, ?_⟩
    · intro low val heq
      cases h.symm.trans heq
    · rw [List.foldl_nil, hnil]
      exact nofun
  | append_singleton vals val ih =>
    rw [List.foldl_append]
    exact ih.update val

end TableBound

end TwoPlz
