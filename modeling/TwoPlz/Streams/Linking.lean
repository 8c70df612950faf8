import TwoPlz.Streams.Inner

/-! What the operations of a queue do to the streams. -/

namespace TwoPlz

variable [HeaderPlz] [StoreCrates]

/-- The flag of `k` for queue `n` was set to `val`, and links of that queue may have changed. -/
structure Flagged (n : Next) (k : Key) (val : Bool) (s s' : Inner) : Prop where
  conn : s' = { s with store := s'.store }.setQueue n (s'.queue n)
  ids : s'.store.ids = s.store.ids
  get : ∃ link : Key → Option Key, ∀ j, s'.get? j = (s.get? j).map fun st =>
    (if j = k then st.setQueued n s.now val else st).setNext n (link j)

namespace Flagged

variable {n : Next} {k : Key} {val : Bool} {s s' : Inner}

theorem get_self {st : Stream} (h : Flagged n k val s s') (hk : s.get? k = some st) :
    ∃ key, s'.get? k = some ((st.setQueued n s.now val).setNext n key) := by
  obtain ⟨link, hlink⟩ := h.get
  exact ⟨link k, by simp [hlink, hk]⟩

theorem get_ne {j : Key} {st : Stream} (h : Flagged n k val s s') (hj : s.get? j = some st)
    (hne : j ≠ k) : ∃ key, s'.get? j = some (st.setNext n key) := by
  obtain ⟨link, hlink⟩ := h.get
  exact ⟨link j, by simp [hlink, hj, hne]⟩

theorem get_inv {j : Key} {st' : Stream} (h : Flagged n k val s s') (hj : s'.get? j = some st') :
    ∃ st key, s.get? j = some st ∧
      st' = (if j = k then st.setQueued n s.now val else st).setNext n key := by
  obtain ⟨link, hlink⟩ := h.get
  rw [hlink, Option.map_eq_some_iff] at hj
  obtain ⟨st, hst, rfl⟩ := hj
  exact ⟨st, link j, hst, rfl⟩

end Flagged

section

variable {n : Next} {k : Key} {s : Store} {st : Stream}

theorem get_set_setNext (now : Instant) (val : Bool) (key : Option Key) (hk : s.get k = some st) :
    ∃ link : Key → Option Key, ∀ j, (s.set k ((st.setQueued n now val).setNext n key)).get j =
      (s.get j).map fun st => (if j = k then st.setQueued n now val else st).setNext n (link j) := by
  refine ⟨fun j => if j = k then key else (s.get j).bind (Stream.next n), fun j => ?_⟩
  by_cases hj : j = k
  · subst hj
    rw [Store.get_set_self hk (by simp)]
    simp [hk]
  · rw [Store.get_set_ne hk (by simp) hj]
    cases hget : s.get j with
    | none => simp
    | some st' => simp [hj, hget]

theorem get_relink {s₁ : Store} {t : Key} {tst : Stream} {now : Instant} {val : Bool}
    (key : Option Key) (ht : s₁.get t = some tst)
    (h : ∃ link : Key → Option Key, ∀ j, s₁.get j =
      (s.get j).map fun st => (if j = k then st.setQueued n now val else st).setNext n (link j)) :
    ∃ link : Key → Option Key, ∀ j, (s₁.set t (tst.setNext n key)).get j =
      (s.get j).map fun st => (if j = k then st.setQueued n now val else st).setNext n (link j) := by
  obtain ⟨link, hlink⟩ := h
  refine ⟨fun j => if j = t then key else link j, fun j => ?_⟩
  by_cases hj : j = t
  · subst hj
    rw [Store.get_set_self ht (by simp)]
    rw [hlink, Option.map_eq_some_iff] at ht
    obtain ⟨st', hst', rfl⟩ := ht
    simp [hst']
  · rw [Store.get_set_ne ht (by simp) hj, hlink]
    simp [hj]

theorem enqueue_some {debug : Bool} {now : Instant} {s' : Store}
    (h : Queue.enqueue n debug now s k = some s') :
    ∃ st, s.get k = some st ∧ s' = s.set k (st.setQueued n now true) ∧
      (debug = true → st.setQueuedAssert n true = true) := by
  simp only [Queue.enqueue, bind, Option.bind_eq_some_iff] at h
  obtain ⟨st, hst, h⟩ := h
  split at h
  · cases h
  · rename_i hassert
    split at h
    · cases h
    · cases h
      exact ⟨st, hst, rfl, by simpa using hassert⟩

end

namespace M

variable {n : Next} {k : Key} {s s' : Inner}

theorem push_some {b : Bool} (h : push n k s = some (b, s')) :
    ∃ st, s.get? k = some st ∧ ((b = false ∧ st.isQueued n = true ∧ s' = s) ∨
      (b = true ∧ st.isQueued n = false ∧ Flagged n k true s s')) := by
  obtain ⟨⟨b', q, store⟩, hpush, heq⟩ := Option.map_eq_some_iff.mp h
  simp only [Queue.push, bind, Option.bind_eq_some_iff] at hpush
  obtain ⟨st, hst, hpush⟩ := hpush
  refine ⟨st, hst, ?_⟩
  split at hpush
  · rename_i hq
    cases hpush
    cases heq
    exact Or.inl ⟨rfl, hq, by simp⟩
  · rename_i hq
    obtain ⟨store₁, henq, hpush⟩ := Option.bind_eq_some_iff.mp hpush
    obtain ⟨st', hst', rfl, -⟩ := enqueue_some henq
    cases hst.symm.trans hst'
    have hget := get_set_setNext (n := n) s.now true (st.next n) hst
    have hset : (st.setQueued n s.now true).setNext n (st.next n) = st.setQueued n s.now true := by
      cases n <;> rfl
    rw [hset] at hget
    split at hpush
    · rename_i idxs hidx
      obtain ⟨tail, htail, hpush⟩ := Option.bind_eq_some_iff.mp hpush
      cases hpush
      cases heq
      refine Or.inr ⟨rfl, by simpa using hq, ⟨?_, ?_, ?_⟩⟩
      · cases n <;> rfl
      · simp
      · simpa [Inner.get?] using get_relink (some k) htail hget
    · cases hpush
      cases heq
      refine Or.inr ⟨rfl, by simpa using hq, ⟨?_, ?_, ?_⟩⟩
      · cases n <;> rfl
      · simp
      · simpa [Inner.get?] using hget

theorem pushFront_some {b : Bool} (h : pushFront n k s = some (b, s')) :
    ∃ st, s.get? k = some st ∧ ((b = false ∧ st.isQueued n = true ∧ s' = s) ∨
      (b = true ∧ st.isQueued n = false ∧ Flagged n k true s s')) := by
  obtain ⟨⟨b', q, store⟩, hpush, heq⟩ := Option.map_eq_some_iff.mp h
  simp only [Queue.pushFront, bind, Option.bind_eq_some_iff] at hpush
  obtain ⟨st, hst, hpush⟩ := hpush
  refine ⟨st, hst, ?_⟩
  split at hpush
  · rename_i hq
    cases hpush
    cases heq
    exact Or.inl ⟨rfl, hq, by simp⟩
  · rename_i hq
    obtain ⟨store₁, henq, hpush⟩ := Option.bind_eq_some_iff.mp hpush
    obtain ⟨st', hst', rfl, -⟩ := enqueue_some henq
    cases hst.symm.trans hst'
    have hget := get_set_setNext (n := n) s.now true (st.next n) hst
    have hset : (st.setQueued n s.now true).setNext n (st.next n) = st.setQueued n s.now true := by
      cases n <;> rfl
    rw [hset] at hget
    split at hpush
    · rename_i idxs hidx
      obtain ⟨self, hself, hpush⟩ := Option.bind_eq_some_iff.mp hpush
      cases hpush
      cases heq
      refine Or.inr ⟨rfl, by simpa using hq, ⟨?_, ?_, ?_⟩⟩
      · cases n <;> rfl
      · simp
      · simpa [Inner.get?] using get_relink (some idxs.head) hself hget
    · cases hpush
      cases heq
      refine Or.inr ⟨rfl, by simpa using hq, ⟨?_, ?_, ?_⟩⟩
      · cases n <;> rfl
      · simp
      · simpa [Inner.get?] using hget

theorem push_asserted {st : Stream} (h : push n k s = some (true, s')) (hk : s.get? k = some st)
    (hdebug : s.debugAssertions = true) : st.setQueuedAssert n true = true := by
  obtain ⟨⟨b', q, store⟩, hpush, heq⟩ := Option.map_eq_some_iff.mp h
  simp only [Queue.push, bind, Option.bind_eq_some_iff] at hpush
  obtain ⟨st', hst', hpush⟩ := hpush
  cases hk.symm.trans hst'
  split at hpush
  · cases hpush
    cases heq
  · obtain ⟨store₁, henq, -⟩ := Option.bind_eq_some_iff.mp hpush
    obtain ⟨st', hst', -, hassert⟩ := enqueue_some henq
    cases hk.symm.trans hst'
    exact hassert hdebug

theorem pop_some {o : Option Key} (h : pop n s = some (o, s')) :
    (o = none ∧ (s.queue n).indices = none ∧ s' = s) ∨
      ∃ k st tail, o = some k ∧ s.get? k = some st ∧ (s.queue n).indices = some ⟨k, tail⟩ ∧
        Flagged n k false s s' := by
  obtain ⟨⟨o', q, store⟩, hpop, heq⟩ := Option.map_eq_some_iff.mp h
  unfold Queue.pop at hpop
  split at hpop
  · rename_i hnone
    cases hpop
    cases heq
    exact Or.inl ⟨rfl, hnone, by simp⟩
  · rename_i idxs hidx
    simp only [bind, Option.bind_eq_some_iff] at hpop
    obtain ⟨st, hst, ⟨q', st'⟩, hnext, hpop⟩ := hpop
    have hlink : ∃ key, st' = st.setNext n key := by
      unfold Queue.takeHead at hnext
      split at hnext
      · split at hnext
        · cases hnext
        · cases hnext
          exact ⟨st.next n, by simp⟩
      · obtain ⟨key, _, hkey⟩ := Option.map_eq_some_iff.mp hnext
        cases hkey
        exact ⟨none, rfl⟩
    obtain ⟨key, rfl⟩ := hlink
    have hcomm : (st.setNext n key).setQueued n s.now false =
        (st.setQueued n s.now false).setNext n key := by
      cases n <;> rfl
    split at hpop
    · cases hpop
    · cases hpop
      cases heq
      refine Or.inr ⟨idxs.head, st, idxs.tail, rfl, hst, hidx, ⟨?_, ?_, ?_⟩⟩
      · cases n <;> rfl
      · simp
      · simpa [Inner.get?, hcomm] using get_set_setNext (n := n) s.now false key hst

theorem pop_asserted {st : Stream} (h : pop n s = some (some k, s')) (hk : s.get? k = some st)
    (hdebug : s.debugAssertions = true) : st.isQueued n = true := by
  rcases pop_some h with ⟨hno, -⟩ | ⟨_, _, _, hsome, -, hidx, -⟩
  · cases hno
  cases hsome
  obtain ⟨⟨o', q, store⟩, hpop, -⟩ := Option.map_eq_some_iff.mp h
  simp only [Queue.pop, hidx, bind, Option.bind_eq_some_iff] at hpop
  obtain ⟨st', hst', ⟨q', st''⟩, hnext, hpop⟩ := hpop
  cases hk.symm.trans hst'
  have hsame : st''.isQueued n = st.isQueued n := by
    unfold Queue.takeHead at hnext
    split at hnext
    · split at hnext
      · cases hnext
      · cases hnext
        rfl
    · obtain ⟨key, -, hkey⟩ := Option.map_eq_some_iff.mp hnext
      cases hkey
      exact Stream.isQueued_setNext _ _ _ _
  split at hpop
  · cases hpop
  · rename_i hassert
    simpa [hdebug, hsame] using hassert

theorem popIf_some {o : Option Key} {f : Stream → Bool} (h : popIf n f s = some (o, s')) :
    (o = none ∧ s' = s ∧ ∀ idxs, (s.queue n).indices = some idxs →
        ∃ st, s.get? idxs.head = some st ∧ f st = false) ∨
      ∃ k st tail, o = some k ∧ s.get? k = some st ∧ f st = true ∧
        (s.queue n).indices = some ⟨k, tail⟩ ∧ pop n s = some (some k, s') := by
  obtain ⟨⟨o', q, store⟩, hpop, heq⟩ := Option.map_eq_some_iff.mp h
  unfold Queue.popIf at hpop
  split at hpop
  · rename_i hnone
    cases hpop
    cases heq
    exact Or.inl ⟨rfl, by simp, by simp [hnone]⟩
  · rename_i idxs hidx
    simp only [bind, Option.bind_eq_some_iff] at hpop
    obtain ⟨st, hst, hpop⟩ := hpop
    split at hpop
    · rename_i hf
      have hp : pop n s = some (o, s') := by
        simp only [pop, hpop, Option.map_some]
        exact congrArg some heq
      rcases pop_some hp with ⟨rfl, hnone, _⟩ | ⟨k, st', tail, rfl, hk, hends, _⟩
      · rw [hidx] at hnone
        cases hnone
      · rw [hidx, Option.some.injEq] at hends
        subst hends
        exact Or.inr ⟨k, st, tail, rfl, hst, hf, hidx, hp⟩
    · rename_i hf
      cases hpop
      cases heq
      refine Or.inl ⟨rfl, by simp, fun idxs' hidx' => ?_⟩
      rw [hidx, Option.some.injEq] at hidx'
      subst hidx'
      exact ⟨st, hst, by simpa using hf⟩

/-! The counters are beside the queues. -/

theorem push_counts {b : Bool} (h : push n k s = some (b, s')) : s'.counts = s.counts := by
  obtain ⟨r, -, heq⟩ := Option.map_eq_some_iff.mp h
  cases heq
  cases n <;> rfl

theorem pop_counts {o : Option Key} (h : pop n s = some (o, s')) : s'.counts = s.counts := by
  obtain ⟨r, -, heq⟩ := Option.map_eq_some_iff.mp h
  cases heq
  cases n <;> rfl

theorem push_with_counts {b : Bool} {counts : Counts}
    (h : push n k { s with counts := counts } = some (b, s')) :
    ∃ s₁, push n k s = some (b, s₁) ∧ s' = { s₁ with counts := counts } := by
  obtain ⟨r, hpush, heq⟩ := Option.map_eq_some_iff.mp h
  have hqueue : Inner.queue { s with counts := counts } n = s.queue n := by cases n <;> rfl
  rw [hqueue] at hpush
  have hsome : push n k s = some (r.1, { s with store := r.2.2 }.setQueue n r.2.1) :=
    Option.map_eq_some_iff.mpr ⟨r, hpush, rfl⟩
  cases heq
  refine ⟨_, hsome, ?_⟩
  cases n <;> rfl

end M

end TwoPlz
