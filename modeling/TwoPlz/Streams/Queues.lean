import TwoPlz.Lib.Threaded
import TwoPlz.Streams.Linking

/-! The queues as lists of streams. -/

namespace TwoPlz

variable [HeaderPlz] [StoreCrates]

namespace Inner

def nextOf (s : Inner) (n : Next) (k : Key) : Option Key := (s.get? k).bind (Stream.next n)

def isQueued (s : Inner) (n : Next) (k : Key) : Prop := ∃ st, s.get? k = some st ∧ st.isQueued n = true

def endsOf (s : Inner) (n : Next) : Option (Key × Key) :=
  (s.queue n).indices.map fun idxs => (idxs.head, idxs.tail)

/-- Queue `n` is the list `l`: its members are exactly the streams that have its flag. -/
def Thread (s : Inner) (n : Next) (l : List Key) : Prop :=
  Threaded (s.nextOf n) (s.isQueued n) (s.endsOf n) l

end Inner

section

variable {s s' : Inner} {n : Next} {k : Key} {st : Stream}

theorem nextOf_set {st' : Stream} (m : Next) (j : Key) (hk : s.get? k = some st)
    (hid : st'.id = st.id) (hs : s'.store = s.store.set k st') :
    s'.nextOf m j = if j = k then st'.next m else s.nextOf m j := by
  unfold Inner.nextOf Inner.get?
  rw [hs]
  by_cases hj : j = k
  · subst hj
    rw [Store.get_set_self hk hid]
    simp
  · rw [Store.get_set_ne hk hid hj]
    simp [hj]

theorem isQueued_set {st' : Stream} (m : Next) (j : Key) (hk : s.get? k = some st)
    (hid : st'.id = st.id) (hs : s'.store = s.store.set k st') :
    s'.isQueued m j ↔ if j = k then st'.isQueued m = true else s.isQueued m j := by
  unfold Inner.isQueued Inner.get?
  rw [hs]
  by_cases hj : j = k
  · subst hj
    rw [Store.get_set_self hk hid]
    simp
  · rw [Store.get_set_ne hk hid hj]
    simp [hj]

theorem isQueued_self (hk : s.get? k = some st) : s.isQueued n k ↔ st.isQueued n = true := by
  unfold Inner.isQueued
  simp [hk]

theorem nextOf_self (hk : s.get? k = some st) : s.nextOf n k = st.next n := by
  simp [Inner.nextOf, hk]

namespace Inner.Thread

variable {l : List Key}

theorem congr (h : s.Thread n l) (hqueue : s'.queue n = s.queue n)
    (hq : ∀ j, s'.isQueued n j ↔ s.isQueued n j) (hn : ∀ j, s'.nextOf n j = s.nextOf n j) :
    s'.Thread n l := by
  unfold Inner.Thread at h ⊢
  rw [show s'.endsOf n = s.endsOf n by simp only [Inner.endsOf, hqueue]]
  exact Threaded.congr h hq hn

theorem set (h : s.Thread n l) {st' : Stream} (hk : s.get? k = some st) (hid : st'.id = st.id)
    (hs : s'.store = s.store.set k st') (hqueue : s'.queue n = s.queue n)
    (hq : st'.isQueued n = st.isQueued n) (hn : st'.next n = st.next n) : s'.Thread n l := by
  refine h.congr hqueue (fun j => ?_) (fun j => ?_)
  · rw [isQueued_set n j hk hid hs]
    split
    · rename_i hj
      rw [hj, isQueued_self hk, hq]
    · rfl
  · rw [nextOf_set n j hk hid hs]
    split
    · rename_i hj
      rw [hj, nextOf_self hk, hn]
    · rfl

end Inner.Thread

theorem Flagged.other {val : Bool} {m : Next} (h : Flagged n k val s s') (hm : m ≠ n) (j : Key) :
    s'.queue m = s.queue m ∧ (s'.isQueued m j ↔ s.isQueued m j) ∧ s'.nextOf m j = s.nextOf m j := by
  obtain ⟨link, hlink⟩ := h.get
  refine ⟨?_, ?_, ?_⟩
  · rw [h.conn, Inner.queue_setQueue_ne _ _ hm]
    cases m <;> rfl
  · unfold Inner.isQueued
    rw [hlink j]
    cases hj : s.get? j with
    | none => simp
    | some st => by_cases hjk : j = k <;> simp [hjk, hm]
  · unfold Inner.nextOf
    rw [hlink j]
    cases hj : s.get? j with
    | none => simp
    | some st => by_cases hjk : j = k <;> simp [hjk, hm]

theorem Flagged.isQueued_iff {val : Bool} (h : Flagged n k val s s') (hk : s.get? k = some st)
    (j : Key) : s'.isQueued n j ↔ if j = k then val = true else s.isQueued n j := by
  obtain ⟨link, hlink⟩ := h.get
  unfold Inner.isQueued
  rw [hlink j]
  by_cases hjk : j = k
  · subst hjk
    simp [hk]
  · cases hj : s.get? j with
    | none => simp [hjk]
    | some st => simp [hjk]

theorem Flagged.thread {val : Bool} {m : Next} {l : List Key} (h : Flagged n k val s s') (hm : m ≠ n)
    (hthread : s.Thread m l) : s'.Thread m l :=
  hthread.congr (h.other hm k).1 (fun j => (h.other hm j).2.1) fun j => (h.other hm j).2.2

theorem nextOf_setQueued {now : Instant} {val : Bool} (hk : s.get? k = some st)
    (hs : s'.store = s.store.set k (st.setQueued n now val)) (j : Key) :
    s'.nextOf n j = s.nextOf n j := by
  rw [nextOf_set n j hk (by simp) hs]
  split
  · rename_i hj
    rw [hj, nextOf_self hk, Stream.next_setQueued]
  · rfl

theorem of_setQueue {store : Store} {q : Queue} (h : { s with store := store }.setQueue n q = s') :
    s'.store = store ∧ s'.queue n = q := by
  rw [← h]
  simp

theorem M.push_thread {l : List Key} (hthread : s.Thread n l) (h : M.push n k s = some (true, s')) :
    s'.Thread n (l ++ [k]) := by
  obtain ⟨st, hk, ⟨hfalse, -⟩ | ⟨-, hq, hf⟩⟩ := M.push_some h
  · cases hfalse
  have hno : ¬s.isQueued n k := by
    rw [isQueued_self hk]
    simp [hq]
  have hflags : ∀ j, s'.isQueued n j ↔ j = k ∨ s.isQueued n j := by
    intro j
    rw [hf.isQueued_iff hk]
    by_cases hj : j = k <;> simp [hj]
  unfold Inner.Thread at hthread ⊢
  -- what the push does to the links
  obtain ⟨⟨b', q, store⟩, hpush, heq⟩ := Option.map_eq_some_iff.mp h
  simp only [Queue.push, bind, Option.bind_eq_some_iff] at hpush
  obtain ⟨st', hst', hpush⟩ := hpush
  cases hk.symm.trans hst'
  rw [if_neg (by simp [hq])] at hpush
  obtain ⟨store₁, henq, hpush⟩ := Option.bind_eq_some_iff.mp hpush
  obtain ⟨st', hst', rfl, -⟩ := enqueue_some henq
  cases hk.symm.trans hst'
  split at hpush
  · rename_i idxs hidx
    obtain ⟨tail, htail, hpush⟩ := Option.bind_eq_some_iff.mp hpush
    cases hpush
    obtain ⟨hstore, hqueue⟩ := of_setQueue (Prod.mk.inj heq).2
    have hends : s.endsOf n = some (idxs.head, idxs.tail) := by simp [Inner.endsOf, hidx]
    have hlast := List.getLast?_of_ends (hends.symm.trans hthread.ends_eq)
    have hnext : ∀ j, s'.nextOf n j = if j = idxs.tail then some k else s.nextOf n j := by
      intro j
      rw [nextOf_set (s := { s with store := s.store.set k (st.setQueued n s.now true) }) n j htail
        (by simp) hstore, Stream.next_setNext, nextOf_setQueued hk rfl]
    have hends' : s'.endsOf n = (l ++ [k]).ends := by
      rw [List.ends_concat_of_ends (hends.symm.trans hthread.ends_eq)]
      simp [Inner.endsOf, hqueue]
    rw [hends']
    refine hthread.pushBack hno hflags (fun j hj => ?_) (fun j hj => ?_)
    · rw [hnext, if_pos (Option.some.inj (hj.symm.trans hlast.1))]
    · rw [hnext, if_neg (fun hjt : j = idxs.tail => hj (by rw [hjt]; exact hlast.1))]
  · rename_i hidx
    cases hpush
    obtain ⟨hstore, hqueue⟩ := of_setQueue (Prod.mk.inj heq).2
    have hends : s.endsOf n = none := by simp [Inner.endsOf, hidx]
    rw [hends] at hthread
    obtain rfl := hthread.eq_nil
    have hends' : s'.endsOf n = ([] ++ [k]).ends := by
      simp [Inner.endsOf, hqueue, List.ends]
    rw [hends']
    refine hthread.pushBack hno hflags (by simp) (fun j _ => ?_)
    exact nextOf_setQueued hk hstore j

theorem M.pushFront_thread {l : List Key} (hthread : s.Thread n l)
    (h : M.pushFront n k s = some (true, s')) : s'.Thread n (k :: l) := by
  obtain ⟨st, hk, ⟨hfalse, -⟩ | ⟨-, hq, hf⟩⟩ := M.pushFront_some h
  · cases hfalse
  have hno : ¬s.isQueued n k := by
    rw [isQueued_self hk]
    simp [hq]
  have hflags : ∀ j, s'.isQueued n j ↔ j = k ∨ s.isQueued n j := by
    intro j
    rw [hf.isQueued_iff hk]
    by_cases hj : j = k <;> simp [hj]
  unfold Inner.Thread at hthread ⊢
  obtain ⟨⟨b', q, store⟩, hpush, heq⟩ := Option.map_eq_some_iff.mp h
  simp only [Queue.pushFront, bind, Option.bind_eq_some_iff] at hpush
  obtain ⟨st', hst', hpush⟩ := hpush
  cases hk.symm.trans hst'
  rw [if_neg (by simp [hq])] at hpush
  obtain ⟨store₁, henq, hpush⟩ := Option.bind_eq_some_iff.mp hpush
  obtain ⟨st', hst', rfl, -⟩ := enqueue_some henq
  cases hk.symm.trans hst'
  split at hpush
  · rename_i idxs hidx
    obtain ⟨self, hself, hpush⟩ := Option.bind_eq_some_iff.mp hpush
    cases hpush
    obtain ⟨hstore, hqueue⟩ := of_setQueue (Prod.mk.inj heq).2
    have hends : s.endsOf n = some (idxs.head, idxs.tail) := by simp [Inner.endsOf, hidx]
    have hlast := List.getLast?_of_ends (hends.symm.trans hthread.ends_eq)
    have hnext : ∀ j, s'.nextOf n j = if j = k then some idxs.head else s.nextOf n j := by
      intro j
      rw [nextOf_set (s := { s with store := s.store.set k (st.setQueued n s.now true) }) n j hself
        (by simp) hstore, Stream.next_setNext, nextOf_setQueued hk rfl]
    have hends' : s'.endsOf n = (k :: l).ends := by
      rw [List.ends_cons_of_ends (hends.symm.trans hthread.ends_eq)]
      simp [Inner.endsOf, hqueue]
    rw [hends']
    refine hthread.pushFront hno hflags ?_ (fun j hj => ?_)
    · rw [hnext, if_pos rfl, hlast.2]
    · rw [hnext, if_neg hj]
  · rename_i hidx
    cases hpush
    obtain ⟨hstore, hqueue⟩ := of_setQueue (Prod.mk.inj heq).2
    have hends : s.endsOf n = none := by simp [Inner.endsOf, hidx]
    rw [hends] at hthread
    obtain rfl := hthread.eq_nil
    have hends' : s'.endsOf n = [k].ends := by
      simp [Inner.endsOf, hqueue, List.ends]
    rw [hends']
    refine hthread.pushFront hno hflags ?_ (fun j _ => nextOf_setQueued hk hstore j)
    rw [nextOf_setQueued hk hstore, hthread.unlinked k (by simp)]
    rfl

theorem M.pop_thread {l : List Key} (hthread : s.Thread n l) (h : M.pop n s = some (some k, s')) :
    ∃ rest, l = k :: rest ∧ s'.Thread n rest := by
  rcases M.pop_some h with ⟨hno, -⟩ | ⟨k', st, tail, hsome, hk, hidx, hf⟩
  · cases hno
  cases hsome
  have hends : s.endsOf n = some (k, tail) := by simp [Inner.endsOf, hidx]
  unfold Inner.Thread at hthread
  rw [hends] at hthread
  have hlast := hthread.next_last
  obtain ⟨rest, rfl, -, -⟩ := hthread.eq_cons
  have hflags : ∀ j, s'.isQueued n j ↔ j ≠ k ∧ s.isQueued n j := by
    intro j
    rw [hf.isQueued_iff hk]
    by_cases hj : j = k <;> simp [hj]
  refine ⟨rest, rfl, ?_⟩
  unfold Inner.Thread
  obtain ⟨⟨o', q, store⟩, hpop, heq⟩ := Option.map_eq_some_iff.mp h
  simp only [Queue.pop, hidx, bind, Option.bind_eq_some_iff] at hpop
  obtain ⟨st', hst', ⟨q', st''⟩, htake, hpop⟩ := hpop
  cases hk.symm.trans hst'
  split at hpop
  · cases hpop
  cases hpop
  obtain ⟨hstore, hqueue⟩ := of_setQueue (Prod.mk.inj heq).2
  have hhead : s.nextOf n k = rest.head? := by
    rw [hthread.link 0 k rfl, List.head?_eq_getElem?]
    rfl
  rw [nextOf_self hk] at hhead
  -- the link of the popped stream, and the new ends
  have htaken : st''.id = st.id ∧ st''.next n = none ∧
      (q'.indices.map fun idxs => (idxs.head, idxs.tail)) = rest.ends := by
    unfold Queue.takeHead at htake
    split at htake
    · rename_i heq
      split at htake
      · cases htake
      · rename_i hnone
        cases htake
        have hnil : st.next n = none := by simpa using hnone
        rw [hnil] at hhead
        have hrest : rest = [] := List.head?_eq_none_iff.mp hhead.symm
        exact ⟨rfl, hnil, by rw [hrest]; rfl⟩
    · rename_i hne
      obtain ⟨next, hnext, heq⟩ := Option.map_eq_some_iff.mp htake
      cases heq
      refine ⟨by simp, by simp, ?_⟩
      rw [hnext] at hhead
      have hk' := List.getLast?_of_ends hthread.ends_eq
      cases rest with
      | nil => cases hhead
      | cons x rest =>
        cases hhead
        rw [List.ends_cons]
        have htl := hk'.1
        rw [List.getLast?_eq_getLast_of_ne_nil (by simp), List.getLast_cons (by simp)] at htl
        simp [Option.some.inj htl]
  obtain ⟨hid, hnone, hends'⟩ := htaken
  have hnext : ∀ j, s'.nextOf n j = if j = k then none else s.nextOf n j := by
    intro j
    rw [nextOf_set n j hk (by simpa using hid) hstore, Stream.next_setQueued, hnone]
  rw [show s'.endsOf n = rest.ends by rw [← hends']; simp [Inner.endsOf, hqueue]]
  refine hthread.pop hflags ?_ (fun j hj => ?_)
  · rw [hnext, if_pos rfl]
  · rw [hnext, if_neg hj]

theorem Inner.Thread.vacate {l : List Key} (h : s.Thread n l) (hk : s.get? k = some st)
    (hq : st.isQueued n = false) (hs : s'.store.slab = (s.store.vacate k).slab)
    (hqueue : s'.queue n = s.queue n) : s'.Thread n l := by
  have hget : ∀ j, s'.get? j = if j = k then none else s.get? j := by
    intro j
    have hsame : s'.store.get j = (s.store.vacate k).get j := by simp only [Store.get, hs]
    unfold Inner.get?
    rw [hsame]
    by_cases hj : j = k
    · subst hj
      simp [Store.get_vacate_self hk]
    · simp [hj, Store.get_vacate_ne hk hj]
  have hno : ¬s.isQueued n k := by
    rw [isQueued_self hk]
    simp [hq]
  refine h.congr hqueue (fun j => ?_) (fun j => ?_)
  · by_cases hj : j = k
    · subst hj
      simp only [Inner.isQueued, hget, if_true, reduceCtorEq, false_and, exists_false, false_iff,
        not_exists, not_and]
      intro st' hst'
      cases hk.symm.trans hst'
      simp [hq]
    · simp [Inner.isQueued, hget, hj]
  · by_cases hj : j = k
    · subst hj
      have hmem : j ∉ l := fun hmem => hno ((Threaded.queued_iff h j).mpr hmem)
      rw [Threaded.unlinked h j hmem]
      simp [Inner.nextOf, hget]
    · simp [Inner.nextOf, hget, hj]

omit [StoreCrates] in
theorem isQueued_released (h : st.isReleased = true) (m : Next) : st.isQueued m = false := by
  simp only [Stream.isReleased, Bool.and_eq_true, Bool.not_eq_true'] at h
  obtain ⟨⟨⟨⟨⟨⟨⟨-, -⟩, hsend⟩, hcap⟩, hopen⟩, haccept⟩, hcomplete⟩, hreset⟩ := h
  cases m <;> simp_all [Stream.isQueued]

theorem Inner.Thread.insert {l : List Key} (h : s.Thread n l) {id : Nat} (hid : st.id = id)
    (hq : st.isQueued n = false) (hn : st.next n = none)
    (hs : s'.store = (s.store.insert id st).2) (hqueue : s'.queue n = s.queue n) :
    s'.Thread n l := by
  subst hid
  generalize hfresh : (⟨StoreCrates.vacantKey s.store.slab, st.id⟩ : Key) = fresh
  have hget : ∀ j, s'.get? j = if j = fresh then some st else s.get? j := by
    intro j
    unfold Inner.get?
    rw [hs]
    by_cases hj : j = fresh
    · rw [if_pos hj, hj, ← hfresh]
      exact Store.get_insert_self _ _
    · rw [if_neg hj]
      exact Store.get_insert_ne (hfresh ▸ hj) rfl
  have hnone : s.get? fresh = none := hfresh ▸ s.store.get_vacantKey st.id
  refine h.congr hqueue (fun j => ?_) (fun j => ?_)
  · by_cases hj : j = fresh
    · subst hj
      simp [Inner.isQueued, hget, hnone, hq]
    · simp [Inner.isQueued, hget, hj]
  · by_cases hj : j = fresh
    · subst hj
      simp [Inner.nextOf, hget, hnone, hn]
    · simp [Inner.nextOf, hget, hj]

end

end TwoPlz
