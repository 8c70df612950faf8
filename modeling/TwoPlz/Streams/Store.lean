import TwoPlz.Lib.IndexMap
import TwoPlz.Lib.Slab
import TwoPlz.Streams.Stream

namespace TwoPlz

/-- The crates that hold the streams: `slab` for the streams and `indexmap` for their ids. -/
class StoreCrates [HeaderPlz] where
  slab : SlabCrate Stream
  /-- `vacant_key`: the key of the next entry, whatever it is. -/
  vacantKey : slab.Slab → Nat
  ids : IndexMapCrate Nat Nat
  slab_documented : slab.Documented
  insert_key : ∀ s st, (slab.insert s st).1 = vacantKey s
  /-- The second of two writes to an entry is what stays. -/
  assign_assign : ∀ s key st st' st'', slab.index s key = some st →
    slab.assign (slab.assign s key st') key st'' = slab.assign s key st''
  ids_documented : ids.Documented

variable [HeaderPlz] [StoreCrates]

/-- `ids` maps the stream ids to slab indices. -/
structure Store where
  slab : StoreCrates.slab.Slab
  ids : StoreCrates.ids.Map

namespace Store

def new : Store := ⟨StoreCrates.slab.new, StoreCrates.ids.new⟩

def entries (s : Store) : List (Nat × Nat) := StoreCrates.ids.iter s.ids

/-- `Index<Key>`: `none` is the panic on a dangling key. -/
def get (s : Store) (k : Key) : Option Stream :=
  match StoreCrates.slab.index s.slab k.index with
  | some st => if st.id = k.streamId then some st else none
  | none => none

def set (s : Store) (k : Key) (st : Stream) : Store :=
  { s with slab := StoreCrates.slab.assign s.slab k.index st }

/-- `Store::insert` and `VacantEntry::insert`; the id is not yet in the map. -/
def insert (s : Store) (id : Nat) (st : Stream) : Key × Store :=
  let (index, slab) := StoreCrates.slab.insert s.slab st
  (⟨index, id⟩, ⟨slab, StoreCrates.ids.insert s.ids id index⟩)

def find (s : Store) (id : Nat) : Option Key :=
  (StoreCrates.ids.get s.ids id).map fun index => ⟨index, id⟩

def unlink (s : Store) (k : Key) : Store := { s with ids := StoreCrates.ids.swapRemove s.ids k.streamId }

/-- `Ptr::remove`: `none` is a failed assertion. -/
def remove (s : Store) (debug : Bool) (k : Key) : Option Store :=
  if debug && (StoreCrates.ids.get s.ids k.streamId).isSome then none
  else do
    let (st, slab) ← StoreCrates.slab.remove s.slab k.index
    if st.id = k.streamId then some { s with slab := slab } else none

theorem get_eq_some {s : Store} {k : Key} {st : Stream} :
    s.get k = some st ↔ StoreCrates.slab.index s.slab k.index = some st ∧ st.id = k.streamId := by
  unfold get
  split
  · rename_i st' heq
    rw [heq]
    split <;> grind
  · rename_i hno
    rw [hno]
    simp

@[simp] theorem get_new (k : Key) : new.get k = none := by
  obtain ⟨hvacant, -⟩ := StoreCrates.slab_documented.new
  simp only [new, get, hvacant]

@[simp] theorem entries_new : new.entries = [] := StoreCrates.ids_documented.new

theorem get_id {s : Store} {k : Key} {st : Stream} (h : s.get k = some st) : st.id = k.streamId :=
  (get_eq_some.mp h).2

theorem get_congr {s s' : Store} {k : Key}
    (h : StoreCrates.slab.index s'.slab k.index = StoreCrates.slab.index s.slab k.index) : s'.get k = s.get k := by
  simp only [get, h]

theorem get_other {s : Store} {k j : Key} {st : Stream} (h : StoreCrates.slab.index s.slab j.index = some st)
    (hid : st.id = k.streamId) (hidx : j.index = k.index) (hne : j ≠ k) : s.get j = none := by
  have hstream : st.id ≠ j.streamId := by
    intro heq
    apply hne
    cases j
    cases k
    simp_all
  simp only [get, h, if_neg hstream]

theorem get_set_self {s : Store} {k : Key} {st st' : Stream} (h : s.get k = some st)
    (hid : st'.id = st.id) : (s.set k st').get k = some st' := by
  obtain ⟨hslab, hkey⟩ := get_eq_some.mp h
  obtain ⟨hassign, -⟩ := StoreCrates.slab_documented.assign s.slab k.index st st' hslab
  exact get_eq_some.mpr ⟨(hassign k.index).trans (if_pos rfl), hid.trans hkey⟩

theorem get_set_ne {s : Store} {k j : Key} {st st' : Stream} (h : s.get k = some st)
    (hid : st'.id = st.id) (hne : j ≠ k) : (s.set k st').get j = s.get j := by
  obtain ⟨hslab, hkey⟩ := get_eq_some.mp h
  obtain ⟨hassign, -⟩ := StoreCrates.slab_documented.assign s.slab k.index st st' hslab
  by_cases hidx : j.index = k.index
  · rw [get_other ((hassign j.index).trans (if_pos hidx)) (hid.trans hkey) hidx hne,
      get_other (hidx ▸ hslab) hkey hidx hne]
  · exact get_congr ((hassign j.index).trans (if_neg hidx))

@[simp] theorem set_ids (s : Store) (k : Key) (st : Stream) : (s.set k st).ids = s.ids := rfl

theorem set_set {s : Store} {k : Key} {st : Stream} (h : s.get k = some st) (st' st'' : Stream) :
    (s.set k st').set k st'' = s.set k st'' := by
  simp only [set, StoreCrates.assign_assign _ _ _ _ _ (get_eq_some.mp h).1]

theorem insert_fst (s : Store) (id : Nat) (st : Stream) :
    (s.insert id st).1 = ⟨StoreCrates.vacantKey s.slab, id⟩ := by
  simp only [insert, StoreCrates.insert_key]

theorem get_insert_self (s : Store) (st : Stream) :
    (s.insert st.id st).2.get ⟨StoreCrates.vacantKey s.slab, st.id⟩ = some st := by
  obtain ⟨-, hinsert, -⟩ := StoreCrates.slab_documented.insert s.slab st
  rw [StoreCrates.insert_key] at hinsert
  exact get_eq_some.mpr ⟨(hinsert _).trans (if_pos rfl), rfl⟩

theorem get_vacantKey (s : Store) (id : Nat) : s.get ⟨StoreCrates.vacantKey s.slab, id⟩ = none := by
  obtain ⟨hvacant, -, -⟩ := StoreCrates.slab_documented.insert s.slab (Stream.new id 0 0)
  rw [StoreCrates.insert_key] at hvacant
  simp only [get, hvacant]

theorem get_insert_ne {s : Store} {st : Stream} {id : Nat} {j : Key}
    (hne : j ≠ ⟨StoreCrates.vacantKey s.slab, id⟩) (hid : st.id = id) : (s.insert id st).2.get j = s.get j := by
  obtain ⟨hvacant, hinsert, -⟩ := StoreCrates.slab_documented.insert s.slab st
  rw [StoreCrates.insert_key] at hvacant hinsert
  by_cases hidx : j.index = StoreCrates.vacantKey s.slab
  · have hold : s.get j = none := by simp only [get, hidx, hvacant]
    have hnew : StoreCrates.slab.index (s.insert id st).2.slab j.index = some st :=
      (hinsert j.index).trans (if_pos hidx)
    rw [hold, get_other (k := ⟨_, id⟩) hnew hid hidx hne]
  · exact get_congr ((hinsert j.index).trans (if_neg hidx))

def vacate (s : Store) (k : Key) : Store :=
  { s with slab := ((StoreCrates.slab.remove s.slab k.index).map Prod.snd).getD s.slab }

theorem index_vacate {s : Store} {k : Key} {st : Stream} (h : s.get k = some st) (index : Nat) :
    StoreCrates.slab.index (s.vacate k).slab index =
      if index = k.index then none else StoreCrates.slab.index s.slab index := by
  obtain ⟨slab, hremove, hindex, -⟩ := StoreCrates.slab_documented.remove s.slab k.index st (get_eq_some.mp h).1
  simp only [vacate, hremove, Option.map_some, Option.getD_some, hindex]

theorem remove_eq_some {s s' : Store} {debug : Bool} {k : Key} (h : s.remove debug k = some s') :
    s' = s.vacate k := by
  unfold remove at h
  split at h
  · cases h
  · obtain ⟨⟨st, slab⟩, hremove, h⟩ := Option.bind_eq_some_iff.mp h
    obtain ⟨-, h⟩ := Option.ite_none_right_eq_some.mp h
    cases h
    simp only [vacate, hremove, Option.map_some, Option.getD_some]

theorem get_vacate_ne {s : Store} {k j : Key} {st : Stream} (h : s.get k = some st) (hne : j ≠ k) :
    (s.vacate k).get j = s.get j := by
  obtain ⟨hslab, hkey⟩ := get_eq_some.mp h
  by_cases hidx : j.index = k.index
  · have hvacant := (index_vacate h j.index).trans (if_pos hidx)
    have hnone : (s.vacate k).get j = none := by simp only [get, hvacant]
    rw [hnone, get_other (hidx ▸ hslab) hkey hidx hne]
  · exact get_congr ((index_vacate h j.index).trans (if_neg hidx))

theorem get_vacate_self {s : Store} {k : Key} {st : Stream} (h : s.get k = some st) :
    (s.vacate k).get k = none := by
  simp only [get, index_vacate h, if_pos]

theorem entries_congr {s s' : Store} (h : s'.ids = s.ids) : s'.entries = s.entries := by rw [entries, h, entries]

theorem getIndex_ids (s : Store) (i : Nat) : StoreCrates.ids.getIndex s.ids i = s.entries[i]? :=
  StoreCrates.ids_documented.getIndex ..

theorem len_ids (s : Store) : StoreCrates.ids.len s.ids = s.entries.length := StoreCrates.ids_documented.len _

theorem entries_insert {s : Store} {id : Nat} (h : s.find id = none) (st : Stream) :
    (s.insert id st).2.entries = s.entries ++ [(id, StoreCrates.vacantKey s.slab)] := by
  rw [← StoreCrates.insert_key s.slab st]
  exact StoreCrates.ids_documented.insert _ _ _ (Option.map_eq_none_iff.mp h)

end Store

omit [StoreCrates] in
@[reducible] def plainCrates : StoreCrates where
  slab := plainSlab Stream
  vacantKey s := s.findIdx Option.isNone
  ids := plainIndexMap Nat Nat
  slab_documented := plainSlab_documented
  insert_key _ _ := rfl
  assign_assign _ _ _ _ _ _ := List.set_set ..
  ids_documented := plainIndexMap_documented

structure Indices where
  head : Key
  tail : Key
  deriving DecidableEq

structure Queue where
  indices : Option Indices
  deriving DecidableEq

namespace Queue

def new : Queue := ⟨none⟩

def isEmpty (q : Queue) : Bool := q.indices.isNone

/-- The common part of `push` and `push_front`: the queued flag is set, with the debug assertions
on the flags and on the link of the stream. -/
def enqueue (n : Next) (debug : Bool) (now : Instant) (store : Store) (k : Key) : Option Store := do
  let st ← store.get k
  if debug && !st.setQueuedAssert n true then none
  else
    let st := st.setQueued n now true
    if debug && (st.next n).isSome then none else some (store.set k st)

/-- `false` when the stream was already queued. -/
def push (n : Next) (q : Queue) (debug : Bool) (now : Instant) (store : Store) (k : Key) :
    Option (Bool × Queue × Store) := do
  let st ← store.get k
  if st.isQueued n then some (false, q, store)
  else
    let store ← enqueue n debug now store k
    match q.indices with
    | some idxs =>
      let tail ← store.get idxs.tail
      some (true, ⟨some ⟨idxs.head, k⟩⟩, store.set idxs.tail (tail.setNext n (some k)))
    | none => some (true, ⟨some ⟨k, k⟩⟩, store)

def pushFront (n : Next) (q : Queue) (debug : Bool) (now : Instant) (store : Store) (k : Key) :
    Option (Bool × Queue × Store) := do
  let st ← store.get k
  if st.isQueued n then some (false, q, store)
  else
    let store ← enqueue n debug now store k
    match q.indices with
    | some idxs =>
      let st ← store.get k
      some (true, ⟨some ⟨k, idxs.tail⟩⟩, store.set k (st.setNext n (some idxs.head)))
    | none => some (true, ⟨some ⟨k, k⟩⟩, store)

/-- The queue and the stream after the head has been taken off; `none` is a failed assertion on the
link. -/
def takeHead (n : Next) (idxs : Indices) (st : Stream) : Option (Queue × Stream) :=
  if idxs.head = idxs.tail then
    if (st.next n).isSome then none else some (Queue.new, st)
  else (st.next n).map fun next => (⟨some ⟨next, idxs.tail⟩⟩, st.setNext n none)

def pop (n : Next) (q : Queue) (debug : Bool) (now : Instant) (store : Store) :
    Option (Option Key × Queue × Store) :=
  match q.indices with
  | none => some (none, q, store)
  | some idxs => do
    let st ← store.get idxs.head
    let r ← takeHead n idxs st
    if debug && !r.2.isQueued n then none
    else some (some idxs.head, r.1, store.set idxs.head (r.2.setQueued n now false))

/-- `pop_if`: the head is popped only if it satisfies `f`. -/
def popIf (n : Next) (q : Queue) (debug : Bool) (now : Instant) (store : Store)
    (f : Stream → Bool) : Option (Option Key × Queue × Store) :=
  match q.indices with
  | none => some (none, q, store)
  | some idxs => do
    let st ← store.get idxs.head
    if f st then q.pop n debug now store else some (none, q, store)

end Queue

end TwoPlz
