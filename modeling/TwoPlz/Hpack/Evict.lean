import TwoPlz.Hpack.Probing
import TwoPlz.Lib.Budget
import TwoPlz.Lib.Chained

/-! The invariant of the table of the HPACK encoder, and what eviction does to it. -/

open RobinHood Budget

namespace TwoPlz.Hpack

theorem wrappingSub_inj {i j inserted : Nat} (hi : i < 2 ^ 64) (hj : j < 2 ^ 64)
    (hinserted : inserted < 2 ^ 64) (h : wrappingSub i inserted = wrappingSub j inserted) : i = j := by
  simp only [wrappingSub] at h
  omega

theorem wrappingAdd_wrappingSub {k inserted : Nat} (hk : k < 2 ^ 64) (hinserted : inserted < 2 ^ 64) :
    wrappingAdd (wrappingSub k inserted) inserted = k := by
  simp only [wrappingAdd, wrappingSub]
  omega

theorem wrappingSub_succ {k inserted : Nat} (hinserted : inserted < 2 ^ 64) :
    wrappingSub (k + 1) (wrappingAdd inserted 1) = wrappingSub k inserted := by
  simp only [wrappingAdd, wrappingSub]
  omega

section

variable {mask k : Nat} {indices : List (Option Pos)} {pos pos' : Pos}

def Table.Shrinks (mask : Nat) (indices indices' : List (Option Pos)) : Prop :=
  indices'.length = indices.length ∧ ∀ k b', cellAt indices' k = some b' → ∃ b, cellAt indices k = some b ∧
    disp indices.length (homeOf mask) k b' ≤ disp indices.length (homeOf mask) k b

theorem Table.Shrinks.refl (mask : Nat) (indices : List (Option Pos)) :
    Table.Shrinks mask indices indices := ⟨rfl, fun _ b hb => ⟨b, hb, Nat.le_refl _⟩⟩

theorem Table.Shrinks.trans {mask : Nat} {l₁ l₂ l₃ : List (Option Pos)} (h : Table.Shrinks mask l₁ l₂)
    (h' : Table.Shrinks mask l₂ l₃) : Table.Shrinks mask l₁ l₃ := by
  obtain ⟨hlen, hcells⟩ := h
  obtain ⟨hlen', hcells'⟩ := h'
  refine ⟨hlen'.trans hlen, fun k b'' hb'' => ?_⟩
  obtain ⟨b', hb', hle'⟩ := hcells' k b'' hb''
  obtain ⟨b, hb, hle⟩ := hcells k b' hb'
  rw [hlen] at hle'
  exact ⟨b, hb, Nat.le_trans hle' hle⟩

theorem Robin.replicate {n : Nat} (h : Masked mask n) : Robin mask (List.replicate n none) := by
  have hnone : cellAt (List.replicate n none) = fun _ => none := by
    funext k
    rw [cellAt, List.getElem?_replicate]
    split <;> rfl
  refine ⟨by rwa [List.length_replicate], ?_⟩
  rw [hnone]
  exact ⟨fun _ => rfl, fun _ _ hno => by cases hno⟩

theorem exists_cellAt (h : pos ∈ indices.reduceOption) : ∃ k, cellAt indices k = some pos := by
  obtain ⟨k, hk, hget⟩ := List.getElem_of_mem (List.reduceOption_mem_iff.mp h)
  exact ⟨k, by rw [cellAt, Nat.mod_eq_of_lt hk, List.getElem?_eq_getElem hk, hget]; rfl⟩

theorem mem_reduceOption_of_cellAt (hpos : 0 < indices.length) (h : cellAt indices k = some pos) :
    pos ∈ indices.reduceOption := by
  rw [List.reduceOption_mem_iff]
  exact List.mem_of_getElem? (getElem?_cellAt hpos k ▸ congrArg some h)

theorem homeOf_congr (hhash : pos'.hash = pos.hash) : homeOf mask pos' = homeOf mask pos := by
  rw [homeOf, homeOf, hhash]

theorem disp_hash_congr (hhash : pos'.hash = pos.hash) (n k : Nat) :
    disp n (homeOf mask) k pos' = disp n (homeOf mask) k pos := by
  rw [disp, disp, homeOf_congr hhash]

theorem Robin.replace (h : Robin mask indices) (ha : cellAt indices k = some pos)
    (hhash : pos'.hash = pos.hash) : Robin mask (indices.set (k % indices.length) (some pos')) ∧
      Table.Shrinks mask indices (indices.set (k % indices.length) (some pos')) := by
  have hn := h.length_pos
  have height := h.masked.eight_le
  have hmod : (k + (indices.length - 1) + 1) % indices.length = k % indices.length := by
    rw [Nat.add_assoc, Nat.sub_add_cancel hn, Nat.add_mod_right]
  have ha' : cellAt indices (k + (indices.length - 1) + 1) = some pos := by
    rw [cellAt_congr hmod, ha]
  have hput := h.ordered.put_some (p := k + (indices.length - 1)) (a := pos') (by omega)
    (by rw [disp_hash_congr hhash]; exact h.ordered.after _ _ ha') fun b hb => by
      cases ha'.symm.trans hb
      rw [disp_hash_congr hhash]
  rw [put_congr hmod] at hput
  refine ⟨h.set hput, List.length_set, fun j b hb => ?_⟩
  rw [cellAt_set (Nat.mod_lt k hn), put_congr (Nat.mod_mod _ _)] at hb
  by_cases hj : j % indices.length = k % indices.length
  · rw [put_self hj] at hb
    cases hb
    exact ⟨pos, by rw [cellAt_congr hj, ha], Nat.le_of_eq (disp_hash_congr hhash _ _)⟩
  · rw [put_of_ne hj] at hb
    exact ⟨b, hb, Nat.le_refl _⟩

theorem exists_empty_from (hroom : indices.reduceOption.length < indices.length) (k : Nat) :
    ∃ z < indices.length, cellAt indices (k + z) = none := by
  obtain ⟨e, he, hempty⟩ := exists_empty hroom
  have hn : 0 < indices.length := Nat.lt_of_le_of_lt (Nat.zero_le e) he
  have hle : k ≤ e + indices.length * k := Nat.le_trans (Nat.le_mul_of_pos_left _ hn) (Nat.le_add_left _ _)
  refine ⟨(e + indices.length * k - k) % indices.length, Nat.mod_lt _ hn, ?_⟩
  have hat : (k + (e + indices.length * k - k) % indices.length) % indices.length
      = e % indices.length := by
    rw [Nat.add_mod_mod, Nat.add_sub_cancel' hle, Nat.add_mul_mod_self_left]
  rw [cellAt_congr hat, hempty]

theorem Robin.remove (h : Robin mask indices) (hroom : indices.reduceOption.length < indices.length)
    (ha : cellAt indices k = some pos) :
    ∃ indices', Table.removeFrom mask indices.length (k % indices.length) (k % indices.length + 1)
        (indices.set (k % indices.length) none) = some indices' ∧ Robin mask indices' ∧
      Table.Shrinks mask indices indices' ∧ indices.reduceOption.Perm (pos :: indices'.reduceOption) := by
  have hn := h.length_pos
  have height := h.masked.eight_le
  generalize hp : k + (indices.length - 1) = p
  have hmod : (p + 1) % indices.length = k % indices.length := by
    rw [← hp, Nat.add_assoc, Nat.sub_add_cancel hn, Nat.add_mod_right]
  have ha' : cellAt indices (p + 1) = some pos := by rw [cellAt_congr hmod, ha]
  generalize hholed : indices.set (k % indices.length) none = holed
  have hlen : holed.length = indices.length := by rw [← hholed, List.length_set]
  have hcells : cellAt holed = put indices.length (cellAt indices) (p + 1) none := by
    rw [← hholed, cellAt_set (Nat.mod_lt k hn), put_congr ((Nat.mod_mod _ _).trans hmod.symm)]
  have hhole := h.ordered.hole (by omega) ha'
  rw [← hcells, ← hlen] at hhole
  -- another empty position, where the loop ends at the latest
  have hez : ∃ z, z + 1 < indices.length ∧ cellAt holed (p + 2 + z) = none := by
    obtain ⟨z, hz, hempty⟩ := exists_empty_from hroom (p + 2)
    have hne : (p + 2 + z) % indices.length ≠ (p + 1) % indices.length := fun heq => by
      rw [cellAt_congr heq, ha'] at hempty
      cases hempty
    refine ⟨z, ?_, by rw [hcells, put_of_ne hne, hempty]⟩
    by_contra hge
    refine hne ?_
    rw [show p + 2 + z = p + 1 + indices.length from by omega, Nat.add_mod_right]
  obtain ⟨z, hz, hznone⟩ := hez
  have hprobe : ProbesAt holed.length ((p + 1) % holed.length + 1) (p + 2) := ProbesAt.next (by omega) (p + 1)
  obtain ⟨indices', hrun, hrobin, hlen', hperm, hshrunk⟩ := removeFrom_some (by rw [hlen]; exact h.masked)
    hhole hprobe hznone (by omega) (by omega : z < holed.length)
  rw [hlen, hmod] at hrun
  rw [hlen] at hlen' hshrunk
  refine ⟨indices', hholed ▸ hrun, hrobin, ⟨hlen', fun j b' hb' => ?_⟩, ?_⟩
  · rcases hshrunk j b' hb' with ⟨b, hb, hle⟩ | ⟨hj, hle⟩
    · rw [hcells] at hb
      by_cases hj : j % indices.length = (p + 1) % indices.length
      · rw [put_self hj] at hb
        cases hb
      · rw [put_of_ne hj] at hb
        exact ⟨b, hb, hle⟩
    · refine ⟨pos, by rw [cellAt_congr hj, ha'], Nat.le_trans hle ?_⟩
      rw [disp_congr (a := pos) hj]
  · have hat : indices[k % indices.length]? = some (some pos) := by
      rw [getElem?_cellAt hn, ha]
    refine (List.reduceOption_set_none hat).trans ?_
    rw [hholed]
    exact hperm.symm.cons pos

end

variable [HeaderPlz]

/-- The slots with the indices that `Pos` and `next` have for them, the oldest one first. -/
def nodesFrom (inserted : Nat) : Nat → List Slot → List (Nat × Slot)
  | _, [] => []
  | k, slot :: slots => nodesFrom inserted (k + 1) slots ++ [(wrappingSub k inserted, slot)]

section

variable {inserted k : Nat} {slots newer older : List Slot} {slot : Slot} {n : Nat × Slot}

@[simp] theorem length_nodesFrom (inserted k : Nat) (slots : List Slot) :
    (nodesFrom inserted k slots).length = slots.length := by
  induction slots generalizing k with
  | nil => rfl
  | cons slot slots ih => simp [nodesFrom, ih]

theorem nodesFrom_append (inserted k : Nat) (newer older : List Slot) :
    nodesFrom inserted k (newer ++ older)
      = nodesFrom inserted (k + newer.length) older ++ nodesFrom inserted k newer := by
  induction newer generalizing k with
  | nil => simp [nodesFrom]
  | cons slot newer ih =>
    rw [List.cons_append, nodesFrom, ih, nodesFrom, List.length_cons, List.append_assoc]
    congr 2
    omega

theorem mem_nodesFrom : n ∈ nodesFrom inserted k slots ↔
    ∃ j, slots[j]? = some n.2 ∧ n.1 = wrappingSub (k + j) inserted := by
  induction slots generalizing k with
  | nil => simp [nodesFrom]
  | cons slot slots ih =>
    rw [nodesFrom, List.mem_append, ih, List.mem_singleton]
    constructor
    · rintro (⟨j, hj, hn⟩ | rfl)
      · exact ⟨j + 1, by simpa using hj, by rw [hn]; congr 1; omega⟩
      · exact ⟨0, rfl, rfl⟩
    · rintro ⟨_ | j, hj, hn⟩
      · rw [List.getElem?_cons_zero, Option.some.injEq] at hj
        exact .inr (Prod.ext hn hj.symm)
      · exact .inl ⟨j, by simpa using hj, by rw [hn]; congr 1; omega⟩

theorem nodesFrom_succ (hinserted : inserted < 2 ^ 64) (k : Nat) (slots : List Slot) :
    nodesFrom (wrappingAdd inserted 1) (k + 1) slots = nodesFrom inserted k slots := by
  induction slots generalizing k with
  | nil => rfl
  | cons slot slots ih => rw [nodesFrom, nodesFrom, ih, wrappingSub_succ hinserted]

theorem nodesFrom_split {l₁ l₂ : List (Nat × Slot)} (h : nodesFrom inserted k slots = l₁ ++ n :: l₂) :
    ∃ newer older, slots = newer ++ n.2 :: older ∧ n.1 = wrappingSub (k + newer.length) inserted ∧
      l₁ = nodesFrom inserted (k + newer.length + 1) older ∧ l₂ = nodesFrom inserted k newer := by
  have hlen : slots.length = l₁.length + (l₂.length + 1) := by
    have := congrArg List.length h
    simpa using this
  obtain ⟨slot, hslot⟩ : ∃ slot, slots[l₂.length]? = some slot :=
    ⟨_, List.getElem?_eq_getElem (by omega)⟩
  obtain ⟨hlt, hget⟩ := List.getElem?_eq_some_iff.mp hslot
  have hsplit : slots = slots.take l₂.length ++ slot :: slots.drop (l₂.length + 1) := by
    rw [← hget, ← List.drop_eq_getElem_cons hlt, List.take_append_drop]
  have htake : (slots.take l₂.length).length = l₂.length := List.length_take_of_le (by omega)
  rw [hsplit, nodesFrom_append, nodesFrom, htake, List.append_assoc, List.singleton_append] at h
  obtain ⟨hl₁, hcons⟩ := List.append_inj h (by simp; omega)
  obtain ⟨rfl, hl₂⟩ := List.cons.inj hcons
  exact ⟨_, _, hsplit, by rw [htake], by rw [htake, hl₁], hl₂.symm⟩

end

def nodeName (n : Nat × Slot) : Name := n.2.header.name

def posOf (n : Nat × Slot) : Pos := ⟨n.1, n.2.hash⟩

namespace Table

def nodes (t : Table) : List (Nat × Slot) := nodesFrom t.inserted 0 t.slots

def headers (t : Table) : List Header := t.slots.map Slot.header

/-- The invariant: the slots of each name are a chain, and the Robin Hood table has its head. -/
structure Sound (hash : Name → Nat) (t : Table) : Prop where
  inserted : t.inserted < 2 ^ 64
  few : t.slots.length ≤ 2 ^ 60
  room : t.slots.length ≤ t.capacity
  robin : t.indices = [] ∨ Robin t.mask t.indices
  heads : t.indices.reduceOption.Perm ((Chained.heads nodeName t.nodes).map posOf)
  linked : Chained.Linked Prod.fst nodeName (fun n => n.2.next) t.nodes
  hashes : ∀ slot ∈ t.slots, slot.hash = hash slot.header.name

end Table

theorem Header.len_ge (header : Header) : 32 ≤ header.len := by
  cases header <;> simp only [Header.len] <;> omega

theorem Header.len_pos (header : Header) : 0 < header.len := Nat.lt_of_lt_of_le (by decide) header.len_ge

def Header.LookedUp (header : Header) : Prop :=
  header.skipValueIndex = false ∧ ∀ n, indexStatic header ≠ some (n, true)

namespace Table

variable {hash : Name → Nat} {t : Table} {slots : List Slot} {last : Slot} {n n' : Nat × Slot}

namespace Sound

theorem of_empty {mask inserted size maxSize n : Nat} (hinserted : inserted < 2 ^ 64)
    (hmasked : n = 0 ∨ Masked mask n) :
    Sound hash ⟨mask, List.replicate n none, [], inserted, size, maxSize⟩ := by
  refine ⟨hinserted, Nat.zero_le _, Nat.zero_le _, ?_, ?_, trivial, nofun⟩
  · refine hmasked.imp (fun hzero => by rw [hzero]; rfl) fun hmasked => ?_
    exact .replicate hmasked
  · rw [List.reduceOption_replicate_none]
    exact .refl _

theorem resized (h : t.Sound hash) (size maxSize : Nat) :
    ({ t with size := size, maxSize := maxSize } : Table).Sound hash :=
  ⟨h.inserted, h.few, h.room, h.robin, h.heads, h.linked, h.hashes⟩

theorem lookup (h : t.Sound hash) (hn : n ∈ t.nodes) :
    ∃ k, t.slots[k]? = some n.2 ∧ n.1 = wrappingSub k t.inserted ∧ wrappingAdd n.1 t.inserted = k := by
  obtain ⟨k, hk, hident⟩ := mem_nodesFrom.mp hn
  obtain ⟨hlt, -⟩ := List.getElem?_eq_some_iff.mp hk
  have hfew := h.few
  rw [Nat.zero_add] at hident
  refine ⟨k, hk, hident, ?_⟩
  rw [hident]
  exact wrappingAdd_wrappingSub (by omega) h.inserted

theorem ident_inj (h : t.Sound hash) (hn : n ∈ t.nodes) (hn' : n' ∈ t.nodes) (hident : n.1 = n'.1) :
    n = n' := by
  obtain ⟨k, hk, -, hreal⟩ := h.lookup hn
  obtain ⟨k', hk', -, hreal'⟩ := h.lookup hn'
  rw [hident, hreal'] at hreal
  rw [← hreal, hk', Option.some.injEq] at hk
  exact Prod.ext hident hk.symm

theorem mem_iff (h : t.Sound hash) {pos : Pos} : pos ∈ t.indices.reduceOption ↔
    ∃ n ∈ Chained.heads nodeName t.nodes, posOf n = pos := by
  rw [h.heads.mem_iff, List.mem_map]

theorem robin_of_mem (h : t.Sound hash) {pos : Pos} (hpos : pos ∈ t.indices.reduceOption) :
    Robin t.mask t.indices := by
  rcases h.robin with hnil | hrobin
  · rw [hnil] at hpos
    cases hpos
  · exact hrobin

theorem length_heads_le (h : t.Sound hash) : t.indices.reduceOption.length ≤ t.slots.length := by
  have hle : (Chained.heads nodeName t.nodes).length ≤ t.nodes.length := (Chained.heads_sublist _).length_le
  have hnodes : t.nodes.length = t.slots.length := length_nodesFrom _ _ _
  have hheads := h.heads.length_eq
  rw [List.length_map] at hheads
  omega

theorem roomy (h : t.Sound hash) (hrobin : Robin t.mask t.indices) :
    t.indices.reduceOption.length < t.indices.length := by
  have hheads := h.length_heads_le
  have hroom := h.room
  have height := hrobin.masked.eight_le
  rw [capacity, usableCapacity] at hroom
  omega

theorem position_some (h : t.Sound hash) (hn : n ∈ Chained.heads nodeName t.nodes) :
    ∃ k, t.position n.1 t.indices.length (desiredPos t.mask n.2.hash)
        = some (k % t.indices.length, posOf n) ∧ cellAt t.indices k = some (posOf n) := by
  have hmem : posOf n ∈ t.indices.reduceOption := h.mem_iff.mpr ⟨n, hn, rfl⟩
  have hrobin := h.robin_of_mem hmem
  have hpos := hrobin.length_pos
  obtain ⟨k, hk⟩ := exists_cellAt hmem
  have hreach := fun j hj => hrobin.ordered.reach hpos hk (j := j) hj
  have hhome : cellAt t.indices (homeOf t.mask (posOf n)
      + disp t.indices.length (homeOf t.mask) k (posOf n)) = some (posOf n) := by
    rw [← hk]
    exact hrobin.ordered.congr (home_add_disp hpos k (posOf n))
  have hlt : disp t.indices.length (homeOf t.mask) k (posOf n) < t.indices.length := disp_lt hpos
  generalize disp t.indices.length (homeOf t.mask) k (posOf n) = d at hreach hhome hlt
  have hexists : ∃ j, ∃ b, cellAt t.indices (homeOf t.mask (posOf n) + j) = some b ∧ b.index = n.1 :=
    ⟨d, _, hhome, rfl⟩
  classical
  obtain ⟨b, hb, hident⟩ := Nat.find_spec hexists
  have hmin := fun j hj => Nat.find_min hexists (m := j) hj
  have hle : Nat.find hexists ≤ d := Nat.find_min' hexists ⟨_, hhome, rfl⟩
  generalize Nat.find hexists = j at hb hmin hle
  -- the index is in one place only
  obtain ⟨n', hn', rfl⟩ := h.mem_iff.mp (mem_reduceOption_of_cellAt hpos hb)
  have heq : n' = n := h.ident_inj ((Chained.heads_sublist _).subset hn')
    ((Chained.heads_sublist _).subset hn) hident
  rw [heq] at hb
  refine ⟨homeOf t.mask (posOf n) + j, ?_, hb⟩
  have hhomelt : desiredPos t.mask n.2.hash < t.indices.length := by
    rw [desiredPos, hrobin.masked.and_eq]
    exact Nat.mod_lt _ hpos
  refine Table.position_some hpos (k := homeOf t.mask (posOf n)) ⟨Nat.le_of_lt hhomelt, rfl⟩ hb rfl
    (fun i hi => ?_) (by omega)
  obtain ⟨b, hb, -⟩ := hreach i (by omega)
  exact ⟨b, hb, fun hident => hmin i hi ⟨b, hb, hident⟩⟩

theorem nodes_oldest (hslots : t.slots = slots ++ [last]) :
    t.nodes = (wrappingSub slots.length t.inserted, last) :: nodesFrom t.inserted 0 slots := by
  rw [nodes, hslots, nodesFrom_append, Nat.zero_add]
  rfl

end Sound

theorem position_congr {t' : Table} (h : t'.indices = t.indices) (posIdx rounds probe : Nat) :
    t'.position posIdx rounds probe = t.position posIdx rounds probe := by
  induction rounds generalizing probe with
  | zero => rfl
  | succ rounds ih => simp only [position, h, ih]

theorem evict_eq (hslots : t.slots = slots ++ [last]) (hlen : last.header.len ≤ t.size)
    {probe : Nat} {pos : Pos} (hposition : t.position (wrappingSub slots.length t.inserted)
      t.indices.length (desiredPos t.mask last.hash) = some (probe, pos)) (prevIdx : Option Nat) :
    t.evict prevIdx = (match last.next with
      | some idx => some { t with
          indices := t.indices.set probe (some { pos with index := idx }), slots := slots,
          size := t.size - last.header.len }
      | none =>
        if some pos.index = prevIdx then
          some { t with
            indices := t.indices.set probe
              (some { pos with index := wrappingSub 0 (wrappingAdd t.inserted 1) }),
            slots := slots, size := t.size - last.header.len }
        else removePhaseTwo { t with
          indices := t.indices.set probe none, slots := slots,
          size := t.size - last.header.len } probe) := by
  have hlast : t.slots.getLast? = some last := by rw [hslots, List.getLast?_concat]
  have hdrop : t.slots.dropLast = slots := by rw [hslots, List.dropLast_concat]
  have hcount : t.slots.length - 1 = slots.length := by
    rw [hslots, List.length_append, List.length_singleton, Nat.add_sub_cancel]
  have hposition' : ({ t with slots := slots, size := t.size - last.header.len } : Table).position
      (wrappingSub slots.length t.inserted) t.indices.length (desiredPos t.mask last.hash)
      = some (probe, pos) := by
    rw [← hposition]
    apply position_congr
    rfl
  rw [evict, hlast]
  simp only [Option.bind_eq_bind, Option.bind_some, hdrop, hcount, if_pos hlen]
  rw [hposition']
  rfl

theorem Sound.without_last (h : t.Sound hash) (hslots : t.slots = slots ++ [last])
    {indices : List (Option Pos)} (hlength : indices.length = t.indices.length)
    (hrobin : Robin t.mask indices)
    (hperm : indices.reduceOption.Perm ((Chained.heads nodeName (nodesFrom t.inserted 0 slots)).map posOf)) :
    Sound hash { t with indices := indices, slots := slots, size := t.size - last.header.len } := by
  have hfew := h.few
  have hroom := h.room
  have hcount : t.slots.length = slots.length + 1 := by rw [hslots, List.length_append]; rfl
  have hlinked := h.linked
  rw [Sound.nodes_oldest hslots] at hlinked
  refine ⟨h.inserted, by dsimp only; omega, ?_, .inr hrobin, hperm, hlinked.2, fun slot hslot => ?_⟩
  · dsimp only [capacity] at hroom ⊢
    rw [hlength]
    omega
  · exact h.hashes slot (by rw [hslots]; exact List.mem_append_left _ hslot)

/-- The next slot of a chain has the name of the last one, and so its hash. -/
theorem Sound.posOf_next (h : t.Sound hash) (hslots : t.slots = slots ++ [last]) {b : Nat × Slot}
    (hfind : (nodesFrom t.inserted 0 slots).find? (fun n => nodeName n = last.header.name) = some b) :
    posOf b = ⟨b.1, last.hash⟩ := by
  obtain ⟨j, hj, -⟩ := mem_nodesFrom.mp (List.mem_of_find?_eq_some hfind)
  have hname : nodeName b = last.header.name := by simpa using List.find?_some hfind
  have hhash := h.hashes b.2 (by
    rw [hslots]
    exact List.mem_append_left _ (List.mem_of_getElem? hj))
  have hhash' := h.hashes last (by rw [hslots]; simp)
  rw [posOf, hhash, hhash', ← hname]
  rfl

/-- The oldest slot is evicted: the next one of its chain becomes the head, if there is one. -/
theorem Sound.evict_some (h : t.Sound hash) (hslots : t.slots = slots ++ [last])
    (hlen : last.header.len ≤ t.size) :
    ∃ indices, t.evict none = some { t with
        indices := indices, slots := slots, size := t.size - last.header.len } ∧
      Sound hash { t with
        indices := indices, slots := slots, size := t.size - last.header.len } ∧
      Shrinks t.mask t.indices indices := by
  have hnodes := Sound.nodes_oldest hslots
  have hlast : t.slots.getLast? = some last := by rw [hslots, List.getLast?_concat]
  have hdrop : t.slots.dropLast = slots := by rw [hslots, List.dropLast_concat]
  have hcount : t.slots.length = slots.length + 1 := by rw [hslots, List.length_append]; rfl
  have hheads : Chained.heads nodeName t.nodes = (wrappingSub slots.length t.inserted, last) ::
      (Chained.heads nodeName (nodesFrom t.inserted 0 slots)).filter
        fun n => nodeName n ≠ last.header.name := by
    rw [hnodes]
    rfl
  obtain ⟨k, hposition, hcell⟩ := h.position_some (n := (wrappingSub slots.length t.inserted, last))
    (by rw [hheads]; exact List.mem_cons_self)
  have hrobin := h.robin_of_mem (mem_reduceOption_of_cellAt (k := k) (by
    by_contra hzero
    rw [cellAt, List.getElem?_eq_none (by omega)] at hcell
    cases hcell) hcell)
  have hlinked := h.linked
  rw [hnodes] at hlinked
  have hnext := hlinked.1
  change last.next = ((nodesFrom t.inserted 0 slots).find? fun n =>
    nodeName n = last.header.name).map Prod.fst at hnext
  have hperm := h.heads
  rw [hheads, List.map_cons] at hperm
  have hat : t.indices[k % t.indices.length]? = some (some ⟨wrappingSub slots.length t.inserted, last.hash⟩) := by
    rw [getElem?_cellAt hrobin.length_pos, hcell]
    rfl
  have hrest := (List.reduceOption_set_none hat).symm.trans hperm |>.cons_inv
  rw [evict_eq hslots hlen hposition]
  rcases hfollower : last.next with _ | idx
  · have hnone : (nodesFrom t.inserted 0 slots).find? (fun n => nodeName n = last.header.name) = none := by
      have := hnext.symm.trans hfollower
      simpa using this
    rw [Chained.filter_heads_none hnone] at hrest
    obtain ⟨indices, hremove, hrobin', hshrinks, hperm'⟩ := hrobin.remove (h.roomy hrobin) hcell
    refine ⟨indices, ?_, h.without_last hslots hshrinks.1 hrobin' ?_, hshrinks⟩
    · dsimp only
      rw [if_neg (by simp), removePhaseTwo]
      dsimp only
      rw [List.length_set, hremove]
      rfl
    · rw [Chained.filter_heads_none hnone] at hperm
      exact (hperm'.symm.trans hperm).cons_inv
  · obtain ⟨b, hfind, rfl⟩ : ∃ b, (nodesFrom t.inserted 0 slots).find?
        (fun n => nodeName n = last.header.name) = some b ∧ b.1 = idx := by
      have := hnext.symm.trans hfollower
      simpa using this
    obtain ⟨hrobin', hshrinks⟩ := hrobin.replace hcell (rfl : (⟨b.1, last.hash⟩ : Pos).hash = _)
    refine ⟨_, rfl, h.without_last hslots List.length_set hrobin' ?_, hshrinks⟩
    have hnew := (Chained.heads_perm hfind).map posOf
    rw [List.map_cons, h.posOf_next hslots hfind] at hnew
    have hset := List.reduceOption_set_some (l := t.indices.set (k % t.indices.length) none)
      (i := k % t.indices.length) (by simp [Nat.mod_lt _ hrobin.length_pos]) ⟨b.1, last.hash⟩
    rw [List.set_set] at hset
    exact hset.trans ((hrest.cons _).trans hnew.symm)

structure Left (t t' : Table) : Prop where
  mask : t'.mask = t.mask
  inserted : t'.inserted = t.inserted
  maxSize : t'.maxSize = t.maxSize
  slots : t'.slots <+: t.slots
  shrinks : Shrinks t.mask t.indices t'.indices

theorem Left.refl (t : Table) : t.Left t := ⟨rfl, rfl, rfl, List.prefix_rfl, .refl _ _⟩

theorem Left.trans {t₁ t₂ t₃ : Table} (h : t₁.Left t₂) (h' : t₂.Left t₃) : t₁.Left t₃ :=
  ⟨h'.mask.trans h.mask, h'.inserted.trans h.inserted, h'.maxSize.trans h.maxSize,
    h'.slots.trans h.slots, h.shrinks.trans (h.mask ▸ h'.shrinks)⟩

/-- Entries are evicted until the size is kept; `extra` is the size of what is not in yet. -/
theorem convergeFrom_some {extra : Nat} (rounds : Nat) (h : t.Sound hash)
    (hsize : t.size = total Header.len t.headers + extra)
    (hrounds : total Header.len (t.headers.take (t.slots.length - rounds)) + extra ≤ t.maxSize) :
    ∃ t', convergeFrom none rounds t = some t' ∧ t'.Sound hash ∧ t.Left t' ∧
      t'.size = total Header.len t'.headers + extra ∧ t'.size ≤ t.maxSize ∧
      t'.headers = fit Header.len (t.maxSize - extra) t.headers ∧ (t.size ≤ t.maxSize → t' = t) := by
  induction rounds generalizing t with
  | zero =>
    rw [Nat.sub_zero, headers, ← List.map_take, List.take_length] at hrounds
    have hle : t.size ≤ t.maxSize := hsize ▸ hrounds
    refine ⟨t, if_neg (Nat.not_lt.mpr hle), h, .refl t, hsize, hle, ?_, fun _ => rfl⟩
    rw [fit_of_total_le (by omega)]
  | succ rounds ih =>
    rw [convergeFrom]
    by_cases hover : t.size > t.maxSize
    · rw [if_pos hover]
      have hne : t.slots ≠ [] := fun hnil => by
        rw [headers, hnil] at hsize hrounds
        simp at hsize hrounds
        omega
      obtain ⟨slots, last, hslots⟩ : ∃ slots last, t.slots = slots ++ [last] :=
        ⟨_, _, (List.dropLast_concat_getLast hne).symm⟩
      have hheaders : t.headers = slots.map Slot.header ++ [last.header] := by
        rw [headers, hslots, List.map_append]
        rfl
      rw [hheaders, total_append, total_cons, total_nil, Nat.add_zero] at hsize
      obtain ⟨indices, hevict, hsound, hshrinks⟩ := h.evict_some hslots (by omega)
      have hcount : t.slots.length = slots.length + 1 := by rw [hslots, List.length_append]; rfl
      rw [hevict, Option.bind_some]
      generalize ht₁ : ({ t with
        indices := indices, slots := slots, size := t.size - last.header.len } : Table) = t₁ at hsound
      have hslots₁ : t₁.slots = slots := ht₁ ▸ rfl
      have hheaders₁ : t₁.headers = slots.map Slot.header := by rw [headers, hslots₁]
      have hleft : t.Left t₁ := by
        subst ht₁
        exact ⟨rfl, rfl, rfl, hslots ▸ List.prefix_append _ _, hshrinks⟩
      have hsize₁ : t₁.size = total Header.len t₁.headers + extra := by
        rw [hheaders₁, ← ht₁]
        dsimp only
        omega
      obtain ⟨t', hrun, hsound', hleft', hsize', hle', hheaders', -⟩ := ih hsound hsize₁ (by
        rw [hleft.maxSize, hslots₁, hheaders₁]
        rw [hheaders, hcount, Nat.add_sub_add_right, List.take_append_of_le_length
          (by rw [List.length_map]; omega)] at hrounds
        exact hrounds)
      rw [hleft.maxSize] at hle' hheaders'
      refine ⟨t', hrun, hsound', hleft.trans hleft', hsize', hle', ?_, fun hle => by omega⟩
      rw [hheaders', hheaders₁, hheaders, fit_append_singleton (by omega)]
    · rw [if_neg hover]
      refine ⟨t, rfl, h, .refl t, hsize, Nat.le_of_not_lt hover, ?_, fun _ => rfl⟩
      rw [fit_of_total_le (by omega)]

structure Inv (hash : Name → Nat) (t : Table) : Prop where
  sound : t.Sound hash
  size : t.size = total Header.len t.headers
  bound : t.size ≤ t.maxSize
  maxSize : t.maxSize < 2 ^ 64
  stored : ∀ header ∈ t.headers, header.LookedUp

theorem resize_some (h : t.Inv hash) {size : Nat} (hsize : size < 2 ^ 64) :
    ∃ t', t.resize size = some t' ∧ t'.Inv hash ∧ t'.maxSize = size ∧
      t'.headers = fit Header.len size t.headers := by
  rw [resize]
  split
  · rename_i hzero
    subst hzero
    have hlen : ∀ header ∈ t.headers, 0 < header.len := fun header _ => header.len_pos
    rw [List.map_const']
    refine ⟨_, rfl, ⟨Sound.of_empty (by decide) (h.sound.robin.imp ?_ Robin.masked), rfl,
      Nat.le_refl _, hsize, nofun⟩, rfl, (fit_zero hlen).symm⟩
    exact fun hnil => by rw [hnil]; rfl
  · generalize hresized : ({ t with maxSize := size } : Table) = t₁
    have hsound : t₁.Sound hash := hresized ▸ h.sound.resized t.size size
    have hmax : t₁.maxSize = size := hresized ▸ rfl
    have hheaders : t₁.headers = t.headers := hresized ▸ rfl
    have hsize₁ : t₁.size = total Header.len t₁.headers + 0 := hresized ▸ h.size
    obtain ⟨t', hrun, hsound', hleft, hsize', hle, hheaders', -⟩ :=
      convergeFrom_some t₁.slots.length hsound hsize₁ (by simp)
    have hmax' := hleft.maxSize.trans hmax
    rw [hmax, hheaders, Nat.sub_zero] at hheaders'
    refine ⟨t', ?_, ⟨hsound', hsize', hleft.maxSize ▸ hle, hmax' ▸ hsize, fun header hheader => ?_⟩,
      hmax', hheaders'⟩
    · rw [converge, hrun]
      rfl
    · rw [hheaders'] at hheader
      exact h.stored header ((fit_sublist _ _ _).subset hheader)

end Table

end TwoPlz.Hpack
