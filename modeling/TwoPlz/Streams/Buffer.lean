import TwoPlz.Lib.Segment
import TwoPlz.Lib.Slab
import TwoPlz.Lib.Threaded

/-! The frames of all streams in one slab (`proto/streams/buffer.rs`): each `Deque` is a list of its
own.  A panic is `none`. -/

namespace TwoPlz

structure Slot (α : Type) where
  value : α
  next : Option Nat
  deriving DecidableEq

structure Deque.Indices where
  head : Nat
  tail : Nat
  deriving DecidableEq

structure Deque where
  indices : Option Deque.Indices
  deriving DecidableEq

section

variable {α : Type} (C : SlabCrate (Slot α))

abbrev Buffer := C.Slab

namespace Deque

def new : Deque := ⟨none⟩

def isEmpty (d : Deque) : Bool := d.indices.isNone

variable {C}

def pushBack (d : Deque) (buf : Buffer C) (value : α) : Option (Deque × Buffer C) :=
  let (key, buf) := C.insert buf ⟨value, none⟩
  match d.indices with
  | some idxs => do
    let slot ← C.index buf idxs.tail
    some (⟨some { idxs with tail := key }⟩, C.assign buf idxs.tail { slot with next := some key })
  | none => some (⟨some ⟨key, key⟩⟩, buf)

def pushFront (d : Deque) (buf : Buffer C) (value : α) : Option (Deque × Buffer C) :=
  let (key, buf) := C.insert buf ⟨value, none⟩
  match d.indices with
  | some idxs => do
    let slot ← C.index buf key
    some (⟨some { idxs with head := key }⟩, C.assign buf key { slot with next := some idxs.head })
  | none => some (⟨some ⟨key, key⟩⟩, buf)

/-- The assertion and the `unwrap` are the two ways to fail once the slot has been removed. -/
def popFront (d : Deque) (buf : Buffer C) : Option (Option α × Deque × Buffer C) :=
  match d.indices with
  | some idxs => do
    let (slot, buf) ← C.remove buf idxs.head
    if idxs.head = idxs.tail then
      if slot.next.isNone then some (some slot.value, ⟨none⟩, buf) else none
    else do
      let head ← slot.next
      some (some slot.value, ⟨some { idxs with head := head }⟩, buf)
  | none => some (none, d, buf)

end Deque

inductive DequeCall (n : Nat) (α : Type) : Type
  | pushBack (i : Fin n) (value : α)
  | pushFront (i : Fin n) (value : α)
  | popFront (i : Fin n)

structure Deques (n : Nat) where
  buf : Buffer C
  deque : Fin n → Deque

namespace Deques

variable {C} {n : Nat}

def new : Deques C n := ⟨C.new, fun _ => .new⟩

def call (s : Deques C n) : DequeCall n α → Option (Option α × Deques C n)
  | .pushBack i value => do
    let (d, buf) ← (s.deque i).pushBack s.buf value
    some (none, ⟨buf, Function.update s.deque i d⟩)
  | .pushFront i value => do
    let (d, buf) ← (s.deque i).pushFront s.buf value
    some (none, ⟨buf, Function.update s.deque i d⟩)
  | .popFront i => do
    let (value, d, buf) ← (s.deque i).popFront s.buf
    some (value, ⟨buf, Function.update s.deque i d⟩)

def calls (s : Deques C n) : List (DequeCall n α) → Option (List (Option α) × Deques C n)
  | [] => some ([], s)
  | c :: cs => do
    let (value, s) ← s.call c
    let (values, s) ← calls s cs
    some (value :: values, s)

end Deques

/-- What the deques are for: a list each. -/
def listCall {n : Nat} (lists : Fin n → List α) : DequeCall n α → Option α × (Fin n → List α)
  | .pushBack i value => (none, Function.update lists i (lists i ++ [value]))
  | .pushFront i value => (none, Function.update lists i (value :: lists i))
  | .popFront i => ((lists i).head?, Function.update lists i (lists i).tail)

def listCalls {n : Nat} (lists : Fin n → List α) :
    List (DequeCall n α) → List (Option α) × (Fin n → List α)
  | [] => ([], lists)
  | c :: cs =>
    let (value, lists) := listCall lists c
    let (values, lists) := listCalls lists cs
    (value :: values, lists)

variable {C}

def Buffer.heap (C : SlabCrate (Slot α)) (buf : Buffer C) (key : Nat) : Option (α × Option Nat) :=
  (C.index buf key).map fun slot => (slot.value, slot.next)

theorem Buffer.index_of_heap {buf : Buffer C} {key : Nat} {value : α} {next : Option Nat}
    (h : Buffer.heap C buf key = some (value, next)) : C.index buf key = some ⟨value, next⟩ := by
  obtain ⟨⟨value', next'⟩, hslot, heq⟩ := Option.map_eq_some_iff.mp h
  cases heq
  exact hslot

namespace Deque

structure Holds (buf : Buffer C) (d : Deque) (cells : List (Nat × α)) : Prop where
  segment : Segment (Buffer.heap C buf) none cells
  ends : (d.indices.map fun idxs => (idxs.head, idxs.tail)) = (cells.map Prod.fst).ends
  nodup : (cells.map Prod.fst).Nodup

variable {buf : Buffer C} {d : Deque} {cells : List (Nat × α)}

theorem Holds.eq_nil (h : d.Holds buf cells) (hd : d.indices = none) : cells = [] := by
  have hends := h.ends
  cases cells with
  | nil => rfl
  | cons c cells =>
    rw [hd, List.map_cons, List.ends_cons] at hends
    cases hends

theorem Holds.eq_some {idxs : Indices} (h : d.Holds buf cells) (hd : d.indices = some idxs) :
    some (idxs.head, idxs.tail) = (cells.map Prod.fst).ends := by
  rw [← h.ends, hd]
  rfl

theorem pushBack_some (hC : C.Documented) (h : d.Holds buf cells) (value : α) :
    ∃ key d' buf', d.pushBack buf value = some (d', buf') ∧ Buffer.heap C buf key = none ∧
      d'.Holds buf' (cells ++ [(key, value)]) ∧ C.len buf' = C.len buf + 1 ∧
      ∀ k, k ≠ key → k ∉ cells.map Prod.fst → Buffer.heap C buf' k = Buffer.heap C buf k := by
  obtain ⟨hvacant, hindex, hlen⟩ := hC.insert buf ⟨value, none⟩
  rw [pushBack]
  generalize C.insert buf ⟨value, none⟩ = inserted at hvacant hindex hlen ⊢
  obtain ⟨key, buf₁⟩ := inserted
  dsimp only at hvacant hindex hlen ⊢
  have hfree : Buffer.heap C buf key = none := by rw [Buffer.heap, hvacant]; rfl
  have hfresh : key ∉ cells.map Prod.fst := fun hmem => h.segment.occupied hmem hfree
  have hnodup : ((cells ++ [(key, value)]).map Prod.fst).Nodup := by
    rw [List.map_append]
    refine List.nodup_append.mpr ⟨h.nodup, List.nodup_singleton _, fun a ha b hb hab => hfresh ?_⟩
    have hkey : b = key := List.mem_singleton.mp hb
    rwa [← hkey, ← hab]
  have hheap : ∀ k, k ≠ key → Buffer.heap C buf₁ k = Buffer.heap C buf k := fun k hk => by
    rw [Buffer.heap, hindex, if_neg hk]
    rfl
  have hnew : Buffer.heap C buf₁ key = some (value, none) := by
    rw [Buffer.heap, hindex, if_pos rfl]
    rfl
  match hd : d.indices with
  | none =>
    obtain rfl := h.eq_nil hd
    exact ⟨key, _, buf₁, rfl, hfree, ⟨⟨hnew, trivial⟩, rfl, hnodup⟩, hlen, fun k hk _ => hheap k hk⟩
  | some idxs =>
    -- the last cell gets a successor, the other cells are as before
    have hends := h.eq_some hd
    obtain ⟨hlast, -⟩ := List.getLast?_of_ends hends
    rcases List.eq_nil_or_concat cells with rfl | ⟨front, ⟨tail, last⟩, rfl⟩
    · cases hlast
    rw [List.concat_eq_append] at *
    obtain rfl : tail = idxs.tail := by simpa using hlast
    obtain ⟨hfront, hheaptail, -⟩ := Segment.append.mp h.segment
    have hmem : idxs.tail ∈ (front ++ [(idxs.tail, last)]).map Prod.fst := by simp
    have htail : idxs.tail ≠ key := fun heq => hfresh (heq ▸ hmem)
    have hindextail := Buffer.index_of_heap ((hheap _ htail).trans hheaptail)
    obtain ⟨hassign, hlen'⟩ := hC.assign buf₁ idxs.tail _ ⟨last, some key⟩ hindextail
    have hheap' : ∀ k, k ≠ idxs.tail →
        Buffer.heap C (C.assign buf₁ idxs.tail ⟨last, some key⟩) k = Buffer.heap C buf₁ k := fun k hk => by
      rw [Buffer.heap, hassign, if_neg hk]
      rfl
    have hheaptail' : Buffer.heap C (C.assign buf₁ idxs.tail ⟨last, some key⟩) idxs.tail
        = some (last, some key) := by
      rw [Buffer.heap, hassign, if_pos rfl]
      rfl
    have hapart : ∀ c ∈ front, c.1 ≠ idxs.tail ∧ c.1 ≠ key := fun c hc => by
      have hcmem : c.1 ∈ front.map Prod.fst := List.mem_map_of_mem hc
      have hsplit := h.nodup
      rw [List.map_append] at hsplit
      exact ⟨(List.nodup_append.mp hsplit).2.2 _ hcmem _ (by simp),
        fun heq => hfresh (by rw [List.map_append]; exact List.mem_append_left _ (heq ▸ hcmem))⟩
    refine ⟨key, _, _, by dsimp only; rw [hindextail]; rfl, hfree, ⟨?_, ?_, hnodup⟩, hlen'.trans hlen,
      fun k hk hkmem => ?_⟩
    · rw [List.append_assoc]
      refine Segment.append.mpr ⟨hfront.congr fun c hc => ?_, hheaptail', ?_, trivial⟩
      · rw [hheap' _ (hapart c hc).1, hheap _ (hapart c hc).2]
      · exact (hheap' _ htail.symm).trans hnew
    · rw [List.map_append]
      exact (List.ends_concat_of_ends hends).symm
    · rw [hheap' k fun heq => hkmem (heq ▸ hmem), hheap k hk]

theorem pushFront_some (hC : C.Documented) (h : d.Holds buf cells) (value : α) :
    ∃ key d' buf', d.pushFront buf value = some (d', buf') ∧ Buffer.heap C buf key = none ∧
      d'.Holds buf' ((key, value) :: cells) ∧ C.len buf' = C.len buf + 1 ∧
      ∀ k, k ≠ key → k ∉ cells.map Prod.fst → Buffer.heap C buf' k = Buffer.heap C buf k := by
  obtain ⟨hvacant, hindex, hlen⟩ := hC.insert buf ⟨value, none⟩
  rw [pushFront]
  generalize C.insert buf ⟨value, none⟩ = inserted at hvacant hindex hlen ⊢
  obtain ⟨key, buf₁⟩ := inserted
  dsimp only at hvacant hindex hlen ⊢
  have hfree : Buffer.heap C buf key = none := by rw [Buffer.heap, hvacant]; rfl
  have hfresh : key ∉ cells.map Prod.fst := fun hmem => h.segment.occupied hmem hfree
  have hnodup : (((key, value) :: cells).map Prod.fst).Nodup := List.nodup_cons.mpr ⟨hfresh, h.nodup⟩
  have hheap : ∀ k, k ≠ key → Buffer.heap C buf₁ k = Buffer.heap C buf k := fun k hk => by
    rw [Buffer.heap, hindex, if_neg hk]
    rfl
  have hindexkey : C.index buf₁ key = some ⟨value, none⟩ := by rw [hindex, if_pos rfl]
  match hd : d.indices with
  | none =>
    obtain rfl := h.eq_nil hd
    have hnew : Buffer.heap C buf₁ key = some (value, none) := by rw [Buffer.heap, hindexkey]; rfl
    exact ⟨key, _, buf₁, rfl, hfree, ⟨⟨hnew, trivial⟩, rfl, hnodup⟩, hlen, fun k hk _ => hheap k hk⟩
  | some idxs =>
    have hends := h.eq_some hd
    obtain ⟨hassign, hlen'⟩ := hC.assign buf₁ key _ ⟨value, some idxs.head⟩ hindexkey
    have hheap' : ∀ k, k ≠ key →
        Buffer.heap C (C.assign buf₁ key ⟨value, some idxs.head⟩) k = Buffer.heap C buf k := fun k hk => by
      rw [← hheap k hk, Buffer.heap, hassign, if_neg hk]
      rfl
    have hentry : some idxs.head = Segment.entry none cells := by
      cases cells with
      | nil => cases hends
      | cons c cells =>
        rw [List.map_cons, List.ends_cons, Option.some.injEq, Prod.mk.injEq] at hends
        rw [hends.1]
        rfl
    have hnew : Buffer.heap C (C.assign buf₁ key ⟨value, some idxs.head⟩) key
        = some (value, Segment.entry none cells) := by
      rw [Buffer.heap, hassign, if_pos rfl, ← hentry]
      rfl
    refine ⟨key, _, _, by dsimp only; rw [hindexkey]; rfl, hfree, ⟨⟨hnew, h.segment.congr fun c hc => ?_⟩, ?_, hnodup⟩,
      hlen'.trans hlen, fun k hk _ => hheap' k hk⟩
    · exact hheap' _ fun heq => hfresh (heq ▸ List.mem_map_of_mem hc)
    · exact (List.ends_cons_of_ends hends).symm

theorem popFront_some (hC : C.Documented) {c : Nat × α} (h : d.Holds buf (c :: cells)) :
    ∃ d' buf', d.popFront buf = some (some c.2, d', buf') ∧ d'.Holds buf' cells ∧
      C.len buf = C.len buf' + 1 ∧ ∀ k, k ≠ c.1 → Buffer.heap C buf' k = Buffer.heap C buf k := by
  obtain ⟨hfresh, hnodup⟩ := List.nodup_cons.mp h.nodup
  obtain ⟨hhead, hsegment⟩ := h.segment
  obtain ⟨buf', hremove, hindex, hlen⟩ := hC.remove buf c.1 _ (Buffer.index_of_heap hhead)
  have hheap : ∀ k, k ≠ c.1 → Buffer.heap C buf' k = Buffer.heap C buf k := fun k hk => by
    rw [Buffer.heap, hindex, if_neg hk]
    rfl
  have hsegment' : Segment (Buffer.heap C buf') none cells := hsegment.congr fun c' hc' =>
    hheap _ fun heq => hfresh (heq ▸ List.mem_map_of_mem hc')
  have hends := h.ends
  rw [List.map_cons, List.ends_cons] at hends
  obtain ⟨⟨head, tail⟩, hidxs, heq⟩ := Option.map_eq_some_iff.mp hends
  obtain ⟨rfl, htail⟩ := Prod.mk.inj heq
  rw [popFront, hidxs, Option.bind_eq_bind]
  dsimp only
  rw [hremove, Option.bind_some]
  dsimp only
  cases cells with
  | nil =>
    obtain rfl : tail = c.1 := htail
    rw [if_pos rfl]
    exact ⟨_, buf', rfl, ⟨trivial, rfl, List.nodup_nil⟩, hlen, hheap⟩
  | cons next cells =>
    -- the tail is the key of a later cell
    have hlast : tail ∈ (next :: cells).map Prod.fst := by
      subst htail
      rw [List.map_cons, List.getLast_cons (List.cons_ne_nil _ _)]
      exact List.getLast_mem _
    rw [if_neg fun heq : c.1 = tail => hfresh (heq ▸ hlast)]
    refine ⟨_, buf', rfl, ⟨hsegment', ?_, hnodup⟩, hlen, hheap⟩
    subst htail
    rw [List.map_cons, List.ends_cons]
    simp

end Deque

namespace Deques

variable {n : Nat} {s : Deques C n} {cells : Fin n → List (Nat × α)}

/-- No slot is in two deques, and each occupied slot is in one. -/
structure Inv (s : Deques C n) (cells : Fin n → List (Nat × α)) : Prop where
  holds : ∀ i, (s.deque i).Holds s.buf (cells i)
  apart : ∀ i j, i ≠ j → ((cells i).map Prod.fst).Disjoint ((cells j).map Prod.fst)
  len : C.len s.buf = ∑ i, (cells i).length

theorem new_inv (hC : C.Documented) : (new : Deques C n).Inv fun _ => [] where
  holds _ := ⟨trivial, rfl, List.nodup_nil⟩
  apart _ _ _ := List.disjoint_nil_left _
  len := by
    rw [show C.len (new : Deques C n).buf = 0 from hC.new.2]
    simp

/-- What a call does to one deque leaves the others alone: the keys that it puts into the deque were
vacant, and the slots that are not in the deque are as before. -/
theorem Inv.update (h : s.Inv cells) {i : Fin n} {d : Deque} {buf : Buffer C} {cells' : List (Nat × α)}
    (hd : d.Holds buf cells')
    (hkeys : ∀ k ∈ cells'.map Prod.fst, k ∈ (cells i).map Prod.fst ∨ Buffer.heap C s.buf k = none)
    (hheap : ∀ k, Buffer.heap C s.buf k ≠ none → k ∉ (cells i).map Prod.fst → Buffer.heap C buf k =
      Buffer.heap C s.buf k)
    (hlen : C.len buf + (cells i).length = C.len s.buf + cells'.length) :
    Inv ⟨buf, Function.update s.deque i d⟩ (Function.update cells i cells') := by
  have hapart : ∀ j, j ≠ i → (cells'.map Prod.fst).Disjoint ((cells j).map Prod.fst) := by
    intro j hj k hk hkj
    rcases hkeys k hk with hki | hvacant
    · exact h.apart i j hj.symm hki hkj
    · exact (h.holds j).segment.occupied hkj hvacant
  refine ⟨fun j => ?_, fun j k hjk => ?_, ?_⟩
  · change Deque.Holds buf (Function.update s.deque i d j) (Function.update cells i cells' j)
    by_cases hj : j = i
    · subst hj
      rw [Function.update_self, Function.update_self]
      exact hd
    · rw [Function.update_of_ne hj, Function.update_of_ne hj]
      obtain ⟨hsegment, hends, hnodup⟩ := h.holds j
      refine ⟨hsegment.congr fun c hc => ?_, hends, hnodup⟩
      have hmem := List.mem_map_of_mem (f := Prod.fst) hc
      exact hheap c.1 (hsegment.occupied hmem) fun hci => h.apart i j (Ne.symm hj) hci hmem
  · by_cases hj : j = i
    · subst hj
      rw [Function.update_self, Function.update_of_ne hjk.symm]
      exact hapart k hjk.symm
    · rw [Function.update_of_ne hj]
      by_cases hk : k = i
      · subst hk
        rw [Function.update_self]
        exact (hapart j hj).symm
      · rw [Function.update_of_ne hk]
        exact h.apart j k hjk
  · have hrest : ∑ j ∈ Finset.univ.erase i, (Function.update cells i cells' j).length =
        ∑ j ∈ Finset.univ.erase i, (cells j).length :=
      Finset.sum_congr rfl fun j hj => by rw [Function.update_of_ne (Finset.ne_of_mem_erase hj)]
    have hold := h.len
    rw [← Finset.add_sum_erase _ _ (Finset.mem_univ i)] at hold ⊢
    rw [Function.update_self, hrest]
    dsimp only at hlen ⊢
    omega

theorem call_some (hC : C.Documented) (h : s.Inv cells) (c : DequeCall n α) :
    ∃ value s' cells', s.call c = some (value, s') ∧ s'.Inv cells' ∧
      (value, fun i => (cells' i).map Prod.snd) = listCall (fun i => (cells i).map Prod.snd) c := by
  have hlists : ∀ (i : Fin n) (cells' : List (Nat × α)),
      (fun j => (Function.update cells i cells' j).map Prod.snd) =
        Function.update (fun j => (cells j).map Prod.snd) i (cells'.map Prod.snd) := fun i cells' =>
    funext fun j => Function.apply_update (fun _ l => l.map Prod.snd) cells i cells' j
  cases c with
  | pushBack i value =>
    obtain ⟨key, d, buf, hrun, hfree, hd, hlen, hheap⟩ := Deque.pushBack_some hC (h.holds i) value
    refine ⟨none, _, _, by rw [call, hrun]; rfl, h.update hd ?_ ?_ ?_, ?_⟩
    · intro k hk
      rw [List.map_append, List.mem_append] at hk
      exact hk.imp_right fun hk => by
        obtain rfl : k = key := List.mem_singleton.mp hk
        exact hfree
    · exact fun k hk hki => hheap k (fun heq => hk (heq ▸ hfree)) hki
    · rw [hlen, List.length_append]
      simp only [List.length_singleton]
      omega
    · rw [hlists, List.map_append]
      rfl
  | pushFront i value =>
    obtain ⟨key, d, buf, hrun, hfree, hd, hlen, hheap⟩ := Deque.pushFront_some hC (h.holds i) value
    refine ⟨none, _, _, by rw [call, hrun]; rfl, h.update hd ?_ ?_ ?_, ?_⟩
    · intro k hk
      rcases List.mem_cons.mp hk with rfl | hk
      · exact .inr hfree
      · exact .inl hk
    · exact fun k hk hki => hheap k (fun heq => hk (heq ▸ hfree)) hki
    · rw [hlen, List.length_cons]
      omega
    · rw [hlists]
      rfl
  | popFront i =>
    match hcells : cells i with
    | [] =>
      have hnone : (s.deque i).indices = none := by
        have hends := (h.holds i).ends
        rw [hcells] at hends
        exact Option.map_eq_none_iff.mp hends
      refine ⟨none, s, cells, ?_, h, ?_⟩
      · rw [call, Deque.popFront, hnone]
        simp [Function.update_eq_self]
      · rw [listCall]
        simp [hcells]
    | c :: rest =>
      obtain ⟨d, buf, hrun, hd, hlen, hheap⟩ := Deque.popFront_some hC (hcells ▸ h.holds i)
      refine ⟨some c.2, _, _, by rw [call, hrun]; rfl, h.update hd ?_ ?_ ?_, ?_⟩
      · exact fun k hk => .inl (by rw [hcells]; exact List.mem_cons_of_mem _ hk)
      · exact fun k _ hki => hheap k fun heq => hki (by rw [hcells, heq]; exact List.mem_cons_self)
      · rw [hcells, List.length_cons]
        omega
      · rw [hlists, listCall]
        simp [hcells]

theorem calls_some (hC : C.Documented) (h : s.Inv cells) (cs : List (DequeCall n α)) :
    ∃ values s' cells', s.calls cs = some (values, s') ∧ s'.Inv cells' ∧
      (values, fun i => (cells' i).map Prod.snd) = listCalls (fun i => (cells i).map Prod.snd) cs := by
  induction cs generalizing s cells with
  | nil => exact ⟨[], s, cells, rfl, h, rfl⟩
  | cons c cs ih =>
    obtain ⟨value, s₁, cells₁, hcall, h₁, hlist⟩ := call_some hC h c
    obtain ⟨values, s', cells', hcalls, h', hlists⟩ := ih h₁
    refine ⟨value :: values, s', cells', ?_, h', ?_⟩
    · rw [calls, hcall, Option.bind_eq_bind, Option.bind_some]
      dsimp only
      rw [hcalls]
      rfl
    · rw [listCalls, ← hlist]
      dsimp only
      rw [← hlists]

/-- The deques of a buffer behave as lists, and no call on them panics. -/
theorem calls_lists (hC : C.Documented) (n : Nat) (cs : List (DequeCall n α)) :
    ∃ values s, (new : Deques C n).calls cs = some (values, s) ∧
      values = (listCalls (fun _ => []) cs).1 ∧
      (∀ i, (s.deque i).isEmpty = ((listCalls (fun _ => []) cs).2 i).isEmpty) ∧
      C.len s.buf = ∑ i, ((listCalls (fun _ => []) cs).2 i).length := by
  obtain ⟨values, s, cells, hcalls, h, hlists⟩ := calls_some hC (new_inv (n := n) hC) cs
  rw [show (fun _ => ([] : List (Nat × α)).map Prod.snd) = fun _ : Fin n => ([] : List α) from rfl]
    at hlists
  rw [← hlists]
  refine ⟨values, s, hcalls, rfl, fun i => ?_, ?_⟩
  · have hends := (h.holds i).ends
    match hcells : cells i with
    | [] =>
      rw [hcells] at hends
      simp [Deque.isEmpty, Option.map_eq_none_iff.mp hends, hcells]
    | c :: rest =>
      rw [hcells, List.map_cons, List.ends_cons] at hends
      obtain ⟨idxs, hidxs, -⟩ := Option.map_eq_some_iff.mp hends
      simp [Deque.isEmpty, hidxs, hcells]
  · simp only [List.length_map]
    exact h.len

end Deques

end

section

theorem calls_lists_two : ∃ values s,
    (Deques.new : Deques (plainSlab (Slot Nat)) 2).calls
      [.pushBack 0 1, .pushBack 0 2, .popFront 0, .pushFront 1 3, .pushBack 0 4, .popFront 0, .popFront 1]
        = some (values, s) ∧
      values = [none, none, some 1, none, none, some 2, some 3] ∧ (plainSlab (Slot Nat)).len s.buf = 1 := by
  obtain ⟨values, s, hcalls, hvalues, -, hlen⟩ := Deques.calls_lists plainSlab_documented 2
    [.pushBack 0 1, .pushBack 0 2, .popFront 0, .pushFront 1 3, .pushBack 0 4, .popFront 0, .popFront 1]
  exact ⟨values, s, hcalls, hvalues.trans (by decide), hlen.trans (by decide)⟩

end

end TwoPlz
