import TwoPlz.Hpack.Table
import TwoPlz.Lib.RobinHood

/-! The probe loops of the table of the HPACK encoder as Robin Hood hashing. -/

open RobinHood

namespace List

variable {α : Type}

theorem reduceOption_set_none {l : List (Option α)} {i : Nat} {a : α} (h : l[i]? = some (some a)) :
    l.reduceOption.Perm (a :: (l.set i none).reduceOption) := by
  induction l generalizing i with
  | nil => cases h
  | cons x l ih =>
    cases i with
    | zero =>
      cases h
      simp
    | succ i =>
      have hrec := ih (i := i) h
      cases x with
      | none => simpa using hrec
      | some x =>
        simp only [set_cons_succ, reduceOption_cons_of_some]
        exact (hrec.cons x).trans (.swap _ _ _)

theorem reduceOption_set_some {l : List (Option α)} {i : Nat} (h : l[i]? = some none) (a : α) :
    (l.set i (some a)).reduceOption.Perm (a :: l.reduceOption) := by
  obtain ⟨hlt, hnone⟩ := List.getElem?_eq_some_iff.mp h
  have hset := reduceOption_set_none (l := l.set i (some a)) (i := i) (a := a) (by simp [hlt])
  rwa [List.set_set, ← hnone, List.set_getElem_self] at hset

end List

namespace TwoPlz.Hpack

structure Masked (mask n : Nat) : Prop where
  pow : ∃ e, 3 ≤ e ∧ e ≤ 62 ∧ n = 2 ^ e
  mask : mask + 1 = n

namespace Masked

variable {mask n : Nat}

theorem eight_le (h : Masked mask n) : 8 ≤ n := by
  obtain ⟨e, he, -, rfl⟩ := h.pow
  exact Nat.pow_le_pow_right (n := 2) (by decide) he

theorem and_eq (h : Masked mask n) (x : Nat) : x &&& mask = x % n := by
  obtain ⟨e, -, -, hn⟩ := h.pow
  rw [hn, ← Nat.and_two_pow_sub_one_eq_mod, ← hn, ← h.mask, Nat.add_sub_cancel]

theorem wrappingSub_mod (h : Masked mask n) {a b : Nat} (hb : b ≤ n) :
    wrappingSub a b &&& mask = (a + (n - b)) % n := by
  obtain ⟨e, -, he, hn⟩ := h.pow
  have hdvd : n ∣ 2 ^ 64 := hn ▸ Nat.pow_dvd_pow 2 (by omega)
  obtain ⟨m, hm⟩ := hdvd
  have hpos : 0 < m := Nat.pos_of_ne_zero fun h0 => by
    rw [h0, Nat.mul_zero] at hm
    cases hm
  obtain ⟨m, rfl⟩ : ∃ k, m = k + 1 := ⟨m - 1, by omega⟩
  rw [h.and_eq, wrappingSub, Nat.mod_mod_of_dvd _ ⟨m + 1, hm⟩, hm, Nat.mul_succ,
    show a + (n * m + n) - b = a + (n - b) + n * m from by omega, Nat.add_mul_mod_self_left]

theorem double {newMask : Nat} (h : Masked mask n) (hn : n ≤ 2 ^ 61)
    (hmask : newMask + 1 = 2 * n) : Masked newMask (2 * n) := by
  obtain ⟨e, he, -, rfl⟩ := h.pow
  have hlt : e ≤ 61 := (Nat.pow_le_pow_iff_right (by decide)).mp hn
  exact ⟨⟨e + 1, by omega, by omega, by rw [Nat.pow_succ, Nat.mul_comm]⟩, hmask⟩

end Masked

def homeOf (mask : Nat) (pos : Pos) : Nat := desiredPos mask pos.hash

def cellAt (indices : List (Option Pos)) (k : Nat) : Option Pos :=
  (indices[k % indices.length]?).join

section

variable {mask : Nat} {indices : List (Option Pos)} {k p probe : Nat}

theorem probeDistance_eq (h : Masked mask indices.length) (pos : Pos) (k : Nat) :
    probeDistance mask pos.hash k = disp indices.length (homeOf mask) k pos := by
  have hlt : desiredPos mask pos.hash < indices.length := by
    rw [desiredPos, h.and_eq]
    exact Nat.mod_lt _ (Nat.lt_of_lt_of_le (by decide) h.eight_le)
  rw [probeDistance, h.wrappingSub_mod (Nat.le_of_lt hlt), disp, homeOf, Nat.mod_eq_of_lt hlt]

theorem cellAt_congr {k' : Nat} (h : k % indices.length = k' % indices.length) :
    cellAt indices k = cellAt indices k' := by rw [cellAt, h, cellAt]

theorem getElem?_cellAt (hpos : 0 < indices.length) (k : Nat) :
    indices[k % indices.length]? = some (cellAt indices k) := by
  rw [cellAt, List.getElem?_eq_getElem (Nat.mod_lt _ hpos), Option.join_some]

theorem cellAt_set (hp : p < indices.length) (v : Option Pos) :
    cellAt (indices.set p v) = put indices.length (cellAt indices) p v := by
  funext k
  have hpos : 0 < indices.length := Nat.lt_of_le_of_lt (Nat.zero_le p) hp
  rw [cellAt, List.length_set, put, Nat.mod_eq_of_lt hp]
  split
  · rename_i hk
    rw [hk, List.getElem?_set_self hp]
    rfl
  · rename_i hk
    rw [List.getElem?_set_ne fun h => hk h.symm]
    rfl

/-- The probe of a loop is the position `k`, or just behind the end of the table. -/
def ProbesAt (n probe k : Nat) : Prop := probe ≤ n ∧ probe % n = k % n

theorem ProbesAt.wrap {n : Nat} (h : ProbesAt n probe k) :
    wrapProbe n probe = k % n := by
  rw [wrapProbe]
  split
  · rename_i hlt
    rw [← h.2, Nat.mod_eq_of_lt hlt]
  · have heq : probe = n := by
      have := h.1
      omega
    rw [← h.2, heq, Nat.mod_self]

theorem ProbesAt.next {n : Nat} (hn : 0 < n) (k : Nat) : ProbesAt n (k % n + 1) (k + 1) :=
  ⟨Nat.mod_lt _ hn, Nat.mod_add_mod _ _ _⟩

end

structure Robin (mask : Nat) (indices : List (Option Pos)) : Prop where
  masked : Masked mask indices.length
  ordered : Ordered indices.length (homeOf mask) (cellAt indices)

section

variable {mask rounds probe k : Nat} {indices : List (Option Pos)} {pos : Pos}

theorem Robin.length_pos (h : Robin mask indices) : 0 < indices.length :=
  Nat.lt_of_lt_of_le (by decide) h.masked.eight_le

theorem Robin.set {v : Option Pos} (h : Robin mask indices)
    (ho : Ordered indices.length (homeOf mask) (put indices.length (cellAt indices) k v)) :
    Robin mask (indices.set (k % indices.length) v) := by
  have hset := cellAt_set (Nat.mod_lt k h.length_pos) v
  refine ⟨by rw [List.length_set]; exact h.masked, ?_⟩
  rw [hset, List.length_set, put_congr (Nat.mod_mod _ _)]
  exact ho

theorem reinsertFrom_some (hn : 0 < indices.length) {d : Nat}
    (hprobe : ProbesAt indices.length probe k) (hempty : cellAt indices (k + d) = none)
    (hfull : ∀ j < d, cellAt indices (k + j) ≠ none) (hrounds : d < rounds) :
    Table.reinsertFrom pos rounds probe indices =
      some (indices.set ((k + d) % indices.length) (some pos)) := by
  induction rounds generalizing probe k d with
  | zero => cases hrounds
  | succ rounds ih =>
    rw [Table.reinsertFrom, hprobe.wrap]
    rw [getElem?_cellAt hn]
    cases d with
    | zero =>
      rw [Nat.add_zero] at hempty
      rw [hempty]
      rfl
    | succ d =>
      obtain ⟨b, hb⟩ := Option.ne_none_iff_exists'.mp (hfull 0 (Nat.succ_pos d))
      rw [Nat.add_zero] at hb
      rw [hb]
      have hk : k + (d + 1) = k + 1 + d := by omega
      rw [hk] at hempty ⊢
      exact ih (ProbesAt.next hn k) hempty
        (fun j hj => by rw [Nat.add_assoc, Nat.add_comm 1]; exact hfull (j + 1) (by omega)) (by omega)

/-- The entry in hand goes to its position, and those behind it move on to the next empty one. -/
theorem shiftFrom_some (h : Robin mask indices) (hprobe : ProbesAt indices.length probe (k + 1))
    (hafter : After indices.length (homeOf mask) (cellAt indices) k
      (disp indices.length (homeOf mask) (k + 1) pos))
    (hbehind : ∀ b, cellAt indices (k + 1) = some b →
      disp indices.length (homeOf mask) (k + 1) b ≤ disp indices.length (homeOf mask) (k + 1) pos)
    {z : Nat} (hz : cellAt indices (k + 1 + z) = none) (hzlt : z < indices.length)
    (hrounds : z < rounds) :
    ∃ indices', Table.shiftFrom rounds pos probe indices = some indices' ∧ Robin mask indices' ∧
      indices'.length = indices.length ∧
      indices'.reduceOption.Perm (pos :: indices.reduceOption) := by
  have hn := h.length_pos
  have height := h.masked.eight_le
  induction rounds generalizing probe k z indices pos with
  | zero => cases hrounds
  | succ rounds ih =>
    rw [Table.shiftFrom, hprobe.wrap]
    rw [getElem?_cellAt hn]
    have hput := h.set (h.ordered.put_some (by omega) hafter hbehind)
    rcases hcell : cellAt indices (k + 1) with _ | b
    · refine ⟨_, rfl, hput, List.length_set, List.reduceOption_set_some ?_ _⟩
      rw [getElem?_cellAt hn, hcell]
    · cases z with
      | zero =>
        rw [Nat.add_zero, hcell] at hz
        cases hz
      | succ z =>
        have hlt := h.ordered.disp_lt_of_empty hn hz hcell
        obtain ⟨hafter', hbehind'⟩ := h.ordered.after_next (by omega) hcell hlt (hbehind b hcell)
        have hlen : (indices.set ((k + 1) % indices.length) (some pos)).length = indices.length :=
          List.length_set
        have hset : cellAt (indices.set ((k + 1) % indices.length) (some pos))
            = put indices.length (cellAt indices) (k + 1) (some pos) := by
          rw [cellAt_set (Nat.mod_lt _ hn), put_congr (Nat.mod_mod _ _)]
        have hz' : cellAt (indices.set ((k + 1) % indices.length) (some pos)) (k + 1 + 1 + z)
            = none := by
          rw [hset, show k + 1 + 1 + z = k + 1 + (z + 1) from by omega, put_of_ne, hz]
          exact add_mod_ne (Nat.succ_pos z) hzlt (k + 1)
        have hnext : After (indices.set ((k + 1) % indices.length) (some pos)).length (homeOf mask)
            (cellAt (indices.set ((k + 1) % indices.length) (some pos))) (k + 1)
            (disp (indices.set ((k + 1) % indices.length) (some pos)).length (homeOf mask) (k + 1 + 1) b) := by
          rw [hset, hlen]
          exact hafter'
        obtain ⟨indices', hrun, hrobin, hlen', hperm⟩ := ih hput
          (by rw [hlen]; exact ProbesAt.next hn (k + 1)) hnext (by rw [hset, hlen]; exact hbehind') hz'
          (by omega) (by omega) (by omega) (by omega)
        refine ⟨indices', hrun, hrobin, hlen'.trans hlen, hperm.trans ?_⟩
        have hold : indices[(k + 1) % indices.length]? = some (some b) := by
          rw [getElem?_cellAt hn, hcell]
        have hnew := List.reduceOption_set_some (l := indices.set ((k + 1) % indices.length) none)
          (i := (k + 1) % indices.length) (by simp [Nat.mod_lt _ hn]) pos
        rw [List.set_set] at hnew
        exact (hnew.cons b).trans ((List.Perm.swap _ _ _).trans
          ((List.reduceOption_set_none hold).symm.cons pos))

def moveBack (indices : List (Option Pos)) (p : Nat) (a : Pos) : List (Option Pos) :=
  (indices.set ((p + 2) % indices.length) none).set ((p + 1) % indices.length) (some a)

@[simp] theorem length_moveBack (p : Nat) (a : Pos) : (moveBack indices p a).length = indices.length := by
  rw [moveBack, List.length_set, List.length_set]

theorem cellAt_moveBack (hn : 0 < indices.length) (p : Nat) (a : Pos) :
    cellAt (moveBack indices p a) =
      put indices.length (put indices.length (cellAt indices) (p + 2) none) (p + 1) (some a) := by
  have hmod1 := Nat.mod_lt (p + 1) hn
  have hmod2 := Nat.mod_lt (p + 2) hn
  rw [moveBack, cellAt_set (by rwa [List.length_set]), cellAt_set hmod2, List.length_set,
    put_congr (Nat.mod_mod _ _), put_congr (Nat.mod_mod (p + 2) _)]

theorem cellAt_moveBack_some {p : Nat} {a b : Pos} (hn : 0 < indices.length)
    (h : cellAt (moveBack indices p a) k = some b) :
    (k % indices.length = (p + 1) % indices.length ∧ b = a) ∨ cellAt indices k = some b := by
  rw [cellAt_moveBack hn] at h
  by_cases hk1 : k % indices.length = (p + 1) % indices.length
  · rw [put_self hk1] at h
    exact .inl ⟨hk1, (Option.some.inj h).symm⟩
  · rw [put_of_ne hk1] at h
    by_cases hk2 : k % indices.length = (p + 2) % indices.length
    · rw [put_self hk2] at h
      cases h
    · rw [put_of_ne hk2] at h
      exact .inr h

theorem cellAt_moveBack_behind {z : Nat} (hz : z + 2 < indices.length) (p : Nat) (a : Pos) :
    cellAt (moveBack indices p a) (p + 3 + z) = cellAt indices (p + 3 + z) := by
  have h1 : (p + 3 + z) % indices.length ≠ (p + 1) % indices.length := by
    rw [show p + 3 + z = p + 1 + (z + 2) from by omega]
    exact add_mod_ne (by omega) hz (p + 1)
  have h2 : (p + 3 + z) % indices.length ≠ (p + 2) % indices.length := by
    rw [show p + 3 + z = p + 2 + (z + 1) from by omega]
    exact add_mod_ne (by omega) (by omega) (p + 2)
  rw [cellAt_moveBack (by omega), put_of_ne h1, put_of_ne h2]

theorem perm_moveBack {p : Nat} {a : Pos} (hn : 1 < indices.length) (hempty : cellAt indices (p + 1) = none)
    (ha : cellAt indices (p + 2) = some a) :
    (moveBack indices p a).reduceOption.Perm indices.reduceOption := by
  have hold : indices[(p + 2) % indices.length]? = some (some a) := by
    rw [getElem?_cellAt (by omega), ha]
  have hhole : (indices.set ((p + 2) % indices.length) none)[(p + 1) % indices.length]? = some none := by
    rw [List.getElem?_set_ne (succ_mod_ne hn (p + 1)), getElem?_cellAt (by omega), hempty]
  exact (List.reduceOption_set_some hhole a).trans (List.reduceOption_set_none hold).symm

/-- The hole is moved behind the entries that want to be nearer to their home. -/
theorem removeFrom_some (hm : Masked mask indices.length) {p m : Nat}
    (h : Hole indices.length (homeOf mask) (cellAt indices) p m)
    (hprobe : ProbesAt indices.length probe (p + 2)) {z : Nat}
    (hz : cellAt indices (p + 2 + z) = none) (hzlt : z + 1 < indices.length)
    (hrounds : z < rounds) :
    ∃ indices', Table.removeFrom mask rounds ((p + 1) % indices.length) probe indices = some indices' ∧
      Robin mask indices' ∧ indices'.length = indices.length ∧
      indices'.reduceOption.Perm indices.reduceOption ∧
      ∀ k b', cellAt indices' k = some b' →
        (∃ b, cellAt indices k = some b ∧ disp indices.length (homeOf mask) k b'
          ≤ disp indices.length (homeOf mask) k b) ∨
        (k % indices.length = (p + 1) % indices.length ∧
          disp indices.length (homeOf mask) k b' ≤ m) := by
  have height := hm.eight_le
  have hn : 0 < indices.length := by omega
  induction rounds generalizing probe p m z indices with
  | zero => cases hrounds
  | succ rounds ih =>
    rw [Table.removeFrom, hprobe.wrap, getElem?_cellAt hn]
    rcases hcell : cellAt indices (p + 2) with _ | a
    · exact ⟨indices, rfl, ⟨hm, h.close fun a ha => by cases hcell.symm.trans ha⟩, rfl, .refl _,
        fun k b hb => .inl ⟨b, hb, Nat.le_refl _⟩⟩
    · have hdist : probeDistance mask a.hash ((p + 2) % indices.length)
          = disp indices.length (homeOf mask) (p + 2) a := by
        rw [probeDistance_eq hm]
        exact disp_congr (Nat.mod_modEq _ _)
      dsimp only
      rw [hdist]
      by_cases hzero : disp indices.length (homeOf mask) (p + 2) a = 0
      · rw [if_neg (by omega)]
        refine ⟨indices, rfl, ⟨hm, h.close fun b hb => ?_⟩, rfl, .refl _,
          fun k b hb => .inl ⟨b, hb, Nat.le_refl _⟩⟩
        cases hcell.symm.trans hb
        exact hzero
      · rw [if_pos (Nat.pos_of_ne_zero hzero)]
        obtain ⟨z, rfl⟩ : ∃ y, z = y + 1 := ⟨z - 1, by
          rcases z with _ | z
          · cases hcell.symm.trans hz
          · rfl⟩
        have hlen : (moveBack indices p a).length = indices.length := length_moveBack p a
        have hmove := h.move (by omega) hcell hzero
        rw [← cellAt_moveBack hn, ← hlen] at hmove
        have hz' : cellAt (moveBack indices p a) (p + 1 + 2 + z) = none := by
          rw [cellAt_moveBack_behind (by omega), show p + 3 + z = p + 2 + (z + 1) from by omega, hz]
        obtain ⟨indices', hrun, hrobin, hlen', hperm, hshrunk⟩ := ih (by rwa [hlen]) hmove
          (by rw [hlen]; exact ProbesAt.next hn (p + 2)) hz' (by omega) (by omega) (by omega) (by omega)
        rw [hlen] at hrun hlen' hshrunk
        refine ⟨indices', hrun, hrobin, hlen', hperm.trans (perm_moveBack (by omega) h.empty hcell),
          fun k b' hb' => ?_⟩
        rcases hshrunk k b' hb' with ⟨b, hb, hle⟩ | ⟨hk, hle⟩
        · rcases cellAt_moveBack_some hn hb with ⟨hk, rfl⟩ | hb
          · refine .inr ⟨hk, Nat.le_trans hle ?_⟩
            rw [disp_congr hk]
            exact h.disp_le hn hcell hzero
          · exact .inl ⟨b, hb, hle⟩
        · refine .inl ⟨a, (cellAt_congr hk).trans hcell, ?_⟩
          rw [disp_congr hk] at hle
          rw [disp_congr hk, disp_congr (a := a) hk]
          exact hle

theorem exists_empty (hroom : indices.reduceOption.length < indices.length) :
    ∃ z < indices.length, cellAt indices z = none := by
  obtain ⟨z, hz, hnone⟩ := List.getElem_of_mem
    (List.reduceOption_length_lt_iff.mp hroom)
  exact ⟨z, hz, by rw [cellAt, Nat.mod_eq_of_lt hz, List.getElem?_eq_getElem hz, hnone]; rfl⟩

theorem reinsertAll_some {newMask f i : Nat} (h : Robin mask indices)
    (hf : Boundary indices.length (homeOf mask) (cellAt indices) f)
    (hnew : Masked newMask (2 * indices.length)) (l : List (Option Pos))
    (hl : ∀ k < l.length, l[k]? = some (cellAt indices (f + i + k))) (hi : i + l.length = indices.length)
    {new : List (Option Pos)} (hlen : new.length = 2 * indices.length)
    (hplaced : Placed indices.length (homeOf mask) (homeOf newMask) (cellAt indices) f i (cellAt new)) :
    ∃ new', l.foldlM (Table.reinsertEntryInOrder newMask) new = some new' ∧
      Robin newMask new' ∧ new'.length = 2 * indices.length ∧
      new'.reduceOption.Perm (new.reduceOption ++ l.reduceOption) := by
  have hn := h.length_pos
  have height := h.masked.eight_le
  induction l generalizing i new with
  | nil =>
    have hordered := hplaced.ordered
    rw [← hlen] at hordered
    exact ⟨new, rfl, ⟨hlen ▸ hnew, hordered⟩, hlen, by simp⟩
  | cons x l ih =>
    rw [List.length_cons] at hi
    have hx : x = cellAt indices (f + i) := by
      have := hl 0 (Nat.succ_pos _)
      simpa using this
    have hrest : ∀ k < l.length, l[k]? = some (cellAt indices (f + (i + 1) + k)) := by
      intro k hk
      have := hl (k + 1) (Nat.succ_lt_succ hk)
      rw [List.getElem?_cons_succ] at this
      rw [this, show f + i + (k + 1) = f + (i + 1) + k from by omega]
    rw [List.foldlM_cons]
    cases x with
    | none =>
      have hplaced' : Placed indices.length (homeOf mask) (homeOf newMask) (cellAt indices) f (i + 1)
          (cellAt new) :=
        ⟨hplaced.ordered, fun x b hfx hx hb => by
          obtain ⟨j, hj, hsource⟩ := hplaced.source x b hfx hx hb
          exact ⟨j, Nat.lt_succ_of_lt hj, hsource⟩⟩
      obtain ⟨new', hrun, hresult⟩ := ih hrest (by omega) hlen hplaced'
      exact ⟨new', by simpa [Table.reinsertEntryInOrder] using hrun, by simpa using hresult⟩
    | some pos =>
      have hhome : homeOf newMask pos ≡ homeOf mask pos [MOD indices.length] := by
        rw [homeOf, homeOf, desiredPos, desiredPos, hnew.and_eq, h.masked.and_eq]
        exact ((Nat.mod_modEq _ _).of_mul_left 2).trans (Nat.mod_modEq _ _).symm
      obtain ⟨d, hd, hempty, hfull, hplaced'⟩ :=
        hplaced.step (by omega) h.ordered hf (by omega) hx.symm hhome
      have hdlt : d < 2 * indices.length := by
        have : disp _ (homeOf mask) (f + i) pos < _ := disp_lt hn
        omega
      have hhomelt : homeOf newMask pos < 2 * indices.length := by
        rw [homeOf, desiredPos, hnew.and_eq]
        exact Nat.mod_lt _ (by omega)
      have hprobe : ProbesAt new.length (homeOf newMask pos) (homeOf newMask pos) := ⟨by omega, rfl⟩
      have hinsert : Table.reinsertFrom pos new.length (homeOf newMask pos) new =
          some (new.set ((homeOf newMask pos + d) % new.length) (some pos)) :=
        reinsertFrom_some (by omega) hprobe hempty hfull (by omega)
      have hset : cellAt (new.set ((homeOf newMask pos + d) % new.length) (some pos))
          = put (2 * indices.length) (cellAt new) (homeOf newMask pos + d) (some pos) := by
        rw [cellAt_set (Nat.mod_lt _ (by omega)), put_congr (Nat.mod_mod _ _), hlen]
      rw [← hset] at hplaced'
      obtain ⟨new', hrun, hrobin, hlen', hperm⟩ := ih hrest (by omega) (by rw [List.length_set, hlen])
        hplaced'
      refine ⟨new', ?_, hrobin, hlen', hperm.trans ?_⟩
      · rw [Table.reinsertEntryInOrder]
        change (Table.reinsertFrom pos new.length (homeOf newMask pos) new).bind _ = _
        rw [hinsert]
        exact hrun
      · have hat : new[(homeOf newMask pos + d) % new.length]? = some none := by
          rw [getElem?_cellAt (by omega), hempty]
        rw [List.reduceOption_cons_of_some]
        exact ((List.reduceOption_set_some hat pos).append_right _).trans
          List.perm_middle.symm

theorem Robin.boundary_zero (h : Robin mask indices)
    (hroom : indices.reduceOption.length < indices.length)
    (hideal : ∀ k a, cellAt indices k = some a → disp indices.length (homeOf mask) k a ≠ 0) :
    Boundary indices.length (homeOf mask) (cellAt indices) 0 := by
  obtain ⟨z, hz, hempty⟩ := exists_empty hroom
  intro a ha
  have hback : ∀ i ≤ indices.length, cellAt indices (indices.length - i) ≠ none := by
    intro i
    induction i with
    | zero =>
      intro _
      have hself : cellAt indices (indices.length - 0) = cellAt indices 0 :=
        cellAt_congr (by rw [Nat.sub_zero, Nat.mod_self, Nat.zero_mod])
      rw [hself, ha]
      exact Option.some_ne_none a
    | succ i ih =>
      intro hi
      obtain ⟨b, hb⟩ := Option.ne_none_iff_exists'.mp (ih (by omega))
      rw [show indices.length - i = indices.length - (i + 1) + 1 from by omega] at hb
      obtain ⟨b', hb', -⟩ := h.ordered.after _ b hb (hideal _ b hb)
      rw [hb']
      exact Option.some_ne_none b'
  have hat := hback (indices.length - z) (Nat.sub_le _ _)
  rw [Nat.sub_sub_self (Nat.le_of_lt hz)] at hat
  exact absurd hempty hat

end

section

variable [HeaderPlz] {t : Table}

theorem Table.firstIdeal_boundary (h : Robin t.mask t.indices)
    (hroom : t.indices.reduceOption.length < t.indices.length) :
    t.firstIdeal ≤ t.indices.length ∧
      Boundary t.indices.length (homeOf t.mask) (cellAt t.indices) t.firstIdeal := by
  rw [firstIdeal]
  generalize hfind : (t.indices.zipIdx.find? fun p =>
    p.1.any fun pos => probeDistance t.mask pos.hash p.2 == 0) = ideal
  rcases ideal with _ | ⟨x, i⟩
  · refine ⟨Nat.zero_le _, h.boundary_zero hroom fun k a ha hzero => ?_⟩
    have hlt := Nat.mod_lt k h.length_pos
    have hat : t.indices[k % t.indices.length]? = some (some a) := by
      rw [getElem?_cellAt h.length_pos, ha]
    have hmem : (some a, k % t.indices.length) ∈ t.indices.zipIdx :=
      List.mem_zipIdx_iff_getElem?.mpr hat
    have hnot := List.find?_eq_none.mp hfind _ hmem
    rw [Option.any_some, probeDistance_eq h.masked, disp_congr (Nat.mod_modEq _ _), hzero] at hnot
    exact hnot rfl
  · have hat := List.mem_zipIdx_iff_getElem?.mp (List.mem_of_find?_eq_some hfind)
    obtain ⟨hlt, -⟩ := List.getElem?_eq_some_iff.mp hat
    refine ⟨Nat.le_of_lt hlt, fun a ha => ?_⟩
    have hsome := List.find?_some hfind
    dsimp only [Option.elim_some] at hlt hat hsome ha ⊢
    have hxa : x = some a := by
      have := getElem?_cellAt h.length_pos i
      rw [Nat.mod_eq_of_lt hlt, hat, ha] at this
      exact Option.some.inj this
    rw [hxa, Option.any_some, beq_iff_eq, probeDistance_eq h.masked] at hsome
    exact hsome

theorem Table.grow_some (h : Robin t.mask t.indices)
    (hroom : t.indices.reduceOption.length < t.indices.length) (hn : t.indices.length ≤ 2 ^ 61) :
    ∃ mask indices, t.grow (t.indices.length <<< 1) = some { t with indices := indices, mask := mask } ∧
      Robin mask indices ∧ indices.length = 2 * t.indices.length ∧
      indices.reduceOption.Perm t.indices.reduceOption := by
  obtain ⟨hle, hf⟩ := Table.firstIdeal_boundary h hroom
  have height := h.masked.eight_le
  have hcap : t.indices.length <<< 1 = 2 * t.indices.length := by
    rw [Nat.shiftLeft_eq, Nat.mul_comm]
  have hmask : wrappingSub (2 * t.indices.length) 1 + 1 = 2 * t.indices.length := by
    rw [wrappingSub]
    omega
  generalize hl : t.indices.drop t.firstIdeal ++ t.indices.take t.firstIdeal = l
  have hlen : l.length = t.indices.length := by
    rw [← hl, List.length_append, List.length_drop, List.length_take]
    omega
  have hget : ∀ k < l.length, l[k]? = some (cellAt t.indices (t.firstIdeal + 0 + k)) := by
    intro k hk
    rw [Nat.add_zero, ← getElem?_cellAt h.length_pos, ← hl]
    by_cases hwrap : k < t.indices.length - t.firstIdeal
    · rw [List.getElem?_append_left (by rwa [List.length_drop]), List.getElem?_drop,
        Nat.mod_eq_of_lt (by omega)]
    · rw [List.getElem?_append_right (by rw [List.length_drop]; omega), List.length_drop,
        List.getElem?_take_of_lt (by omega)]
      congr 1
      rw [show t.firstIdeal + k = k - (t.indices.length - t.firstIdeal) + t.indices.length from by
        omega, Nat.add_mod_right, Nat.mod_eq_of_lt (by omega)]
  have hempty : cellAt (List.replicate (2 * t.indices.length) none) = fun _ => none := by
    funext k
    rw [cellAt, List.getElem?_replicate]
    split <;> rfl
  obtain ⟨indices, hrun, hrobin, hlen', hperm⟩ := reinsertAll_some h hf
    (h.masked.double hn hmask) l hget (by omega)
    (List.length_replicate : (List.replicate (2 * t.indices.length) none).length = _)
    (by rw [hempty]; exact Placed.new _ _ _ _ _)
  refine ⟨_, indices, ?_, hrobin, hlen', hperm.trans ?_⟩
  · rw [Table.grow, hcap, hl, hrun]
    rfl
  · rw [List.reduceOption_replicate_none, List.nil_append, ← hl, List.reduceOption_append]
    exact List.perm_append_comm.trans (by
      rw [← List.reduceOption_append, List.take_append_drop])

theorem Table.position_some (hn : 0 < t.indices.length) {posIdx rounds probe k d : Nat} {pos : Pos}
    (hprobe : ProbesAt t.indices.length probe k) (hpos : cellAt t.indices (k + d) = some pos)
    (hidx : pos.index = posIdx)
    (hbefore : ∀ j < d, ∃ b, cellAt t.indices (k + j) = some b ∧ b.index ≠ posIdx)
    (hrounds : d < rounds) :
    t.position posIdx rounds probe = some ((k + d) % t.indices.length, pos) := by
  induction rounds generalizing probe k d with
  | zero => cases hrounds
  | succ rounds ih =>
    rw [Table.position, hprobe.wrap]
    rw [getElem?_cellAt hn]
    cases d with
    | zero =>
      rw [Nat.add_zero] at hpos ⊢
      rw [hpos]
      exact if_pos hidx
    | succ d =>
      obtain ⟨b, hb, hne⟩ := hbefore 0 (Nat.succ_pos d)
      rw [Nat.add_zero] at hb
      rw [hb]
      dsimp only
      rw [if_neg hne, show k + (d + 1) = k + 1 + d from by omega]
      exact ih (ProbesAt.next hn k) (by rwa [show k + 1 + d = k + (d + 1) from by omega])
        (fun j hj => by rw [Nat.add_assoc, Nat.add_comm 1]; exact hbefore (j + 1) (by omega))
        (by omega)

/-- Where an entry that is `dist` away from `home` can be put, once back as far as there is room. -/
structure Table.Place (t : Table) (home dist : Nat) : Prop where
  behind : ∀ b, cellAt t.indices (home + dist) = some b →
    disp t.indices.length (homeOf t.mask) (home + dist) b < dist
  after : ∀ e, dist = e + 1 → ∃ b, cellAt t.indices (home + e) = some b ∧
    dist ≤ disp t.indices.length (homeOf t.mask) (home + e) b + 1

theorem Table.backFrom_some (h : Robin t.mask t.indices) {home dist : Nat}
    (hbehind : ∀ b, cellAt t.indices (home + dist) = some b →
      disp t.indices.length (homeOf t.mask) (home + dist) b < dist) :
    ∃ dist' ≤ dist, t.backFrom dist ((home + dist) % t.indices.length)
      = some ((home + dist') % t.indices.length) ∧ t.Place home dist' := by
  have hn := h.length_pos
  induction dist with
  | zero => exact ⟨0, Nat.le_refl _, rfl, hbehind, fun e he => by cases he⟩
  | succ dist ih =>
    have hback : wrappingSub ((home + (dist + 1)) % t.indices.length) 1 &&& t.mask
        = (home + dist) % t.indices.length := by
      rw [h.masked.wrappingSub_mod hn, Nat.mod_add_mod,
        show home + (dist + 1) + (t.indices.length - 1) = home + dist + t.indices.length from by omega,
        Nat.add_mod_right]
    rw [Table.backFrom, hback]
    rw [getElem?_cellAt hn]
    rcases hcell : cellAt t.indices (home + dist) with _ | b
    · obtain ⟨dist', hle, hrun, hplace⟩ := ih fun b hb => by cases hcell.symm.trans hb
      exact ⟨dist', Nat.le_succ_of_le hle, hrun, hplace⟩
    · dsimp only
      have hdist : probeDistance t.mask b.hash ((home + dist) % t.indices.length)
          = disp t.indices.length (homeOf t.mask) (home + dist) b := by
        rw [probeDistance_eq h.masked]
        exact disp_congr (Nat.mod_modEq _ _)
      rw [hdist]
      by_cases hlt : disp t.indices.length (homeOf t.mask) (home + dist) b < dist
      · rw [if_pos hlt]
        obtain ⟨dist', hle, hrun, hplace⟩ := ih fun b' hb' => by
          cases hcell.symm.trans hb'
          exact hlt
        exact ⟨dist', Nat.le_succ_of_le hle, hrun, hplace⟩
      · rw [if_neg hlt]
        refine ⟨dist + 1, Nat.le_refl _, rfl, hbehind, fun e he => ?_⟩
        cases he
        exact ⟨b, hcell, by omega⟩

def Table.Matches (t : Table) (hash : Nat) (name : Name) (pos : Pos) : Prop :=
  pos.hash = hash ∧ ∃ slot, t.slots[wrappingAdd pos.index t.inserted]? = some slot ∧
    slot.header.name = name

def Table.Found (t : Table) (hash : Nat) (name : Name) : Probed → Prop
  | .vacant dist probe => dist < t.indices.length ∧
      probe = (desiredPos t.mask hash + dist) % t.indices.length ∧
      (∀ b, cellAt t.indices (desiredPos t.mask hash + dist) = some b →
        disp t.indices.length (homeOf t.mask) (desiredPos t.mask hash + dist) b < dist) ∧
      ∀ j < dist, ∃ b, cellAt t.indices (desiredPos t.mask hash + j) = some b ∧
        j ≤ disp t.indices.length (homeOf t.mask) (desiredPos t.mask hash + j) b ∧
        ¬t.Matches hash name b
  | .occupied index => ∃ k pos, cellAt t.indices k = some pos ∧ pos.index = index ∧
      t.Matches hash name pos

theorem Table.probeFrom_some (h : Robin t.mask t.indices) {header : Header} {hash : Nat}
    (hslots : ∀ k pos, cellAt t.indices k = some pos → pos.hash = hash →
      ∃ slot, t.slots[wrappingAdd pos.index t.inserted]? = some slot)
    {dist z rounds probe : Nat} (hz : cellAt t.indices (desiredPos t.mask hash + dist + z) = none)
    (hzlt : dist + z < t.indices.length)
    (hprobe : ProbesAt t.indices.length probe (desiredPos t.mask hash + dist))
    (hpassed : ∀ j < dist, ∃ b, cellAt t.indices (desiredPos t.mask hash + j) = some b ∧
      j ≤ disp t.indices.length (homeOf t.mask) (desiredPos t.mask hash + j) b ∧
      ¬t.Matches hash header.name b) (hrounds : z < rounds) :
    ∃ r, t.probeFrom header hash rounds probe dist = some r ∧ t.Found hash header.name r := by
  have hn := h.length_pos
  induction rounds generalizing probe dist z with
  | zero => cases hrounds
  | succ rounds ih =>
    rw [Table.probeFrom, hprobe.wrap]
    rw [getElem?_cellAt hn]
    rcases hcell : cellAt t.indices (desiredPos t.mask hash + dist) with _ | b
    · exact ⟨_, rfl, by omega, rfl, fun b hb => (by cases hcell.symm.trans hb), hpassed⟩
    dsimp only
    have hdist : probeDistance t.mask b.hash ((desiredPos t.mask hash + dist) % t.indices.length)
        = disp t.indices.length (homeOf t.mask) (desiredPos t.mask hash + dist) b := by
      rw [probeDistance_eq h.masked]
      exact disp_congr (Nat.mod_modEq _ _)
    rw [hdist]
    by_cases hlt : disp t.indices.length (homeOf t.mask) (desiredPos t.mask hash + dist) b < dist
    · rw [if_pos hlt]
      refine ⟨_, rfl, by omega, rfl, fun b' hb' => ?_, hpassed⟩
      cases hcell.symm.trans hb'
      exact hlt
    rw [if_neg hlt]
    obtain ⟨z, rfl⟩ : ∃ y, z = y + 1 := ⟨z - 1, by
      rcases z with _ | z
      · cases hcell.symm.trans hz
      · rfl⟩
    have hnext : ¬t.Matches hash header.name b →
        ∃ r, t.probeFrom header hash rounds
          ((desiredPos t.mask hash + dist) % t.indices.length + 1) (dist + 1) = some r ∧
          t.Found hash header.name r := fun hnot => by
      refine ih (z := z) (by rwa [show desiredPos t.mask hash + (dist + 1) + z
        = desiredPos t.mask hash + dist + (z + 1) from by omega]) (by omega)
        (ProbesAt.next hn _) (fun j hj => ?_) (by omega)
      rcases Nat.lt_succ_iff_lt_or_eq.mp hj with hj | rfl
      · exact hpassed j hj
      · exact ⟨b, hcell, Nat.le_of_not_lt hlt, hnot⟩
    by_cases hhash : b.hash = hash
    · rw [if_pos hhash]
      obtain ⟨slot, hslot⟩ := hslots _ b hcell hhash
      rw [hslot]
      simp only [Option.bind_eq_bind, Option.bind_some]
      by_cases hname : slot.header.name = header.name
      · rw [if_pos hname]
        exact ⟨_, rfl, _, b, hcell, rfl, hhash, slot, hslot, hname⟩
      · rw [if_neg hname]
        refine hnext fun ⟨_, slot', hslot', hname'⟩ => ?_
        cases hslot.symm.trans hslot'
        exact hname hname'
    · rw [if_neg hhash]
      exact hnext fun hm => hhash hm.1

end

end TwoPlz.Hpack
