import TwoPlz.Lib.IndexMap
import TwoPlz.Streams.Move

/-! The ids of the streams: an open stream is found under its id, and no other one has it. -/

namespace TwoPlz

variable [HeaderPlz] [StoreCrates]

namespace Store

variable {s : Store} {k : Key} {id : Nat}

theorem mem_unlink (h : (s.entries.map Prod.fst).Nodup) (k : Key) :
    ((s.unlink k).entries.map Prod.fst).Nodup ∧ ∀ p, p ∈ (s.unlink k).entries ↔ p ∈ s.entries ∧ p.1 ≠ k.streamId :=
  StoreCrates.ids_documented.mem_swapRemove h k.streamId

theorem find_iff (h : (s.entries.map Prod.fst).Nodup) :
    s.find k.streamId = some k ↔ (k.streamId, k.index) ∈ s.entries := by
  rw [entries, ← StoreCrates.ids_documented.get_eq_some_iff h]
  constructor
  · intro hfind
    obtain ⟨index, hget, hk⟩ := Option.map_eq_some_iff.mp hfind
    rw [hget, ← hk]
  · intro hget
    simp [find, hget]

theorem find_none (h : s.find id = none) {p : Nat × Nat} (hp : p ∈ s.entries) : p.1 ≠ id := by
  have hget := Option.map_eq_none_iff.mp h
  rw [StoreCrates.ids_documented.get] at hget
  have hne : (id != p.1) = true := List.lookup_eq_none_iff.mp hget p hp
  exact Ne.symm (bne_iff_ne.mp hne)

end Store

def Stream.Live (st : Stream) (opens : Prop) : Prop :=
  st.state.isClosed = false ∧ (st.state ≠ .idle ∨ opens)

structure Inner.Tidy (s : Inner) (opens : Key → Prop) : Prop where
  nodup : (s.store.entries.map Prod.fst).Nodup
  linked : ∀ k st, s.get? k = some st → st.Live (opens k) → s.store.find k.streamId = some k
  alone : ∀ k j st st', s.get? k = some st → st.Live (opens k) → s.get? j = some st' →
    j.streamId = k.streamId → j = k
  reserved : ∀ k j st, opens k → s.get? j = some st → j.streamId = k.streamId → j = k

def Scope.Single (K : Scope) : Prop := ∀ k j, K.opens k → K.born j → j.streamId = k.streamId → j = k

section

variable {K : Scope} {s s' : Inner} {k : Key} {st st' : Stream} {opens : Key → Prop}

theorem Inner.Tidy.of_old (h : s.Tidy opens) (hnodup : (s'.store.entries.map Prod.fst).Nodup)
    (hold : ∀ j stj, s'.get? j = some stj →
      ∃ stj', s.get? j = some stj' ∧ (stj.Live (opens j) → stj'.Live (opens j)))
    (hfind : ∀ j stj, s'.get? j = some stj → stj.Live (opens j) →
      s.store.find j.streamId = some j → s'.store.find j.streamId = some j) : s'.Tidy opens where
  nodup := hnodup
  linked j stj hj hlive := by
    obtain ⟨stj', hj', hwas⟩ := hold j stj hj
    exact hfind j stj hj hlive (h.linked j stj' hj' (hwas hlive))
  alone j i stj sti hj hlive hi hsame := by
    obtain ⟨stj', hj', hwas⟩ := hold j stj hj
    obtain ⟨sti', hi', -⟩ := hold i sti hi
    exact h.alone j i stj' sti' hj' (hwas hlive) hi' hsame
  reserved j i sti hopens hi hsame := by
    obtain ⟨sti', hi', -⟩ := hold i sti hi
    exact h.reserved j i sti' hopens hi' hsame

theorem Inner.Tidy.counts (h : s.Tidy opens) (counts : Counts) :
    Inner.Tidy { s with counts := counts } opens :=
  h.of_old h.nodup (fun _ stj hj => ⟨stj, hj, fun hlive => hlive⟩) fun _ _ _ _ hfind => hfind

theorem Inner.Tidy.flagged {n : Next} {val : Bool} (h : s.Tidy opens) (hf : Flagged n k val s s') :
    s'.Tidy opens := by
  refine h.of_old (by simpa only [Store.entries, hf.ids] using h.nodup) (fun j stj hj => ?_)
    fun j _ _ _ hfind => ?_
  · obtain ⟨stj', key, hj', rfl⟩ := hf.get_inv hj
    refine ⟨stj', hj', ?_⟩
    split <;> cases n <;> exact fun hlive => hlive
  · simpa only [Store.find, hf.ids] using hfind

theorem Inner.Tidy.forget (h : s.Tidy opens) (hk : s.get? k = some st) :
    Inner.Tidy { s with store := (s.store.unlink k).vacate k } opens := by
  obtain ⟨hnodup, hmem⟩ := Store.mem_unlink h.nodup k
  have hold : ∀ j stj, Inner.get? { s with store := (s.store.unlink k).vacate k } j = some stj →
      s.get? j = some stj := fun j stj hj => Inner.get?_vacate hk rfl hj
  refine h.of_old hnodup (fun j stj hj => ⟨stj, hold j stj hj, fun hlive => hlive⟩)
    fun j stj hj hlive hfind => ?_
  rw [Store.find_iff h.nodup] at hfind
  refine (Store.find_iff (s := (s.store.unlink k).vacate k) hnodup).mpr ((hmem _).mpr ⟨hfind, fun hsame => ?_⟩)
  obtain rfl : k = j := h.alone j k stj st (hold j stj hj) hlive hk hsame.symm
  have hnone : (s.store.vacate k).get k = none := Store.get_vacate_self hk
  cases hnone.symm.trans hj

theorem Inner.Tidy.unlink (h : s.Tidy opens) (hk : s.get? k = some st) (hclosed : st.state.isClosed = true) :
    Inner.Tidy { s with store := s.store.unlink k } opens := by
  obtain ⟨hnodup, hmem⟩ := Store.mem_unlink h.nodup k
  refine h.of_old hnodup (fun j stj hj => ⟨stj, hj, fun hlive => hlive⟩) fun j stj hj hlive hfind => ?_
  rw [Store.find_iff hnodup]
  rw [Store.find_iff h.nodup] at hfind
  refine (hmem _).mpr ⟨hfind, fun hsame => ?_⟩
  obtain rfl : k = j := h.alone j k stj st hj hlive hk hsame.symm
  cases hk.symm.trans hj
  cases hlive.1.symm.trans hclosed

theorem Inner.Tidy.insert (h : s.Tidy opens) (hidle : st.state = .idle) (hfree : s.store.find st.id = none)
    (halone : ∀ j, opens j → st.id = j.streamId → s.freshKey st.id = j) :
    Inner.Tidy { s with store := (s.store.insert st.id st).2 } opens := by
  have hentries := Store.entries_insert hfree st
  have hnodup : ((s.store.insert st.id st).2.entries.map Prod.fst).Nodup := by
    rw [hentries, List.map_append, List.nodup_append]
    refine ⟨h.nodup, by simp, fun a ha b hb => ?_⟩
    rintro rfl
    simp only [List.map_cons, List.map_nil, List.mem_singleton] at hb
    subst hb
    obtain ⟨p, hp, hpid⟩ := List.mem_map.mp ha
    exact Store.find_none hfree hp hpid
  -- a live stream under the id would be found
  have hdead : ∀ j stj, s.get? j = some stj → stj.Live (opens j) → j.streamId ≠ st.id := by
    intro j stj hj hlive hsame
    rw [← hsame] at hfree
    have hfind := h.linked j stj hj hlive
    cases hfree.symm.trans hfind
  refine ⟨hnodup, fun j stj hj hlive => ?_, fun j i stj sti hj hlive hi hsame => ?_,
    fun j i sti hopens hi hsame => ?_⟩
  · rw [Store.find_iff hnodup, hentries]
    obtain ⟨rfl, rfl⟩ | hold := Inner.get?_insert rfl rfl hj
    · exact List.mem_append_right _ (List.mem_singleton_self _)
    · have hfind := h.linked j stj hold hlive
      rw [Store.find_iff h.nodup] at hfind
      exact List.mem_append_left _ hfind
  · obtain ⟨rfl, rfl⟩ | hold := Inner.get?_insert rfl rfl hj
    · have hopens : opens _ := hlive.2.resolve_left (fun hno => hno hidle)
      obtain ⟨rfl, rfl⟩ | hold' := Inner.get?_insert rfl rfl hi
      · rfl
      · exact h.reserved _ i sti hopens hold' hsame
    · obtain ⟨rfl, rfl⟩ | hold' := Inner.get?_insert rfl rfl hi
      · exact absurd hsame.symm (hdead j stj hold hlive)
      · exact h.alone j i stj sti hold hlive hold' hsame
  · obtain ⟨rfl, rfl⟩ | hold := Inner.get?_insert rfl rfl hi
    · exact halone j hopens hsame
    · exact h.reserved j i sti hopens hold hsame

omit [StoreCrates] in
theorem Turn.live {role : Role} {kind : Kind} (h : Turn K role k kind st st') (hlive : st'.Live (K.opens k)) :
    st.Live (K.opens k) := by
  have hclosed : st.state.isClosed = false := by
    by_contra hno
    have hyes := h.closed (by simpa using hno)
    rw [hlive.1] at hyes
    cases hyes
  refine ⟨hclosed, ?_⟩
  by_cases hidle : st.state = .idle
  · refine Or.inr ?_
    cases h with
    | sendOpen _ _ _ _ fresh => exact fresh hidle
    | recvOpen _ _ _ _ _ fresh => exact fresh hidle
    | schedule => exact absurd hlive.1 (by simp [State.isClosed])
    | reset => exact absurd hlive.1 (by simp [Stream.setReset, Stream.notifyRecv, State.setReset, State.isClosed])
    | remoteReset => exact absurd hlive.1 (by simp [State.isClosed_recvReset])
    | fail => exact absurd hlive.1 (by simp [State.isClosed_handleError])
    | eof => exact absurd hlive.1 (by simp [Stream.notifyRecv, State.isClosed_recvEof])
    | sendClose _ _ hclose =>
      rw [hidle] at hclose
      cases hclose
    | recvClose _ _ hclose =>
      rw [hidle] at hclose
      cases hclose
    | _ => exact hlive.2.resolve_left (fun hno => hno hidle)
  · exact Or.inl hidle

theorem Move.tidy (hK : K.Single) (h : Move K s s') (hs : s.Tidy K.opens) : s'.Tidy K.opens := by
  cases h with
  | aside h =>
    refine hs.of_old (h.store ▸ hs.nodup) (fun j stj hj => ⟨stj, ?_, fun hlive => hlive⟩) fun j _ _ _ hfind => ?_
    · simpa only [Inner.get?, h.store] using hj
    · simpa only [h.store] using hfind
  | limit => exact hs.of_old hs.nodup (fun j stj hj => ⟨stj, hj, fun hlive => hlive⟩) fun _ _ _ _ hfind => hfind
  | process => exact hs.of_old hs.nodup (fun j stj hj => ⟨stj, hj, fun hlive => hlive⟩) fun _ _ _ _ hfind => hfind
  | @turn k st st' _ _ hk h =>
    refine hs.of_old hs.nodup (fun j stj hj => ?_) fun j _ _ _ hfind => hfind
    by_cases hjk : j = k
    · subst hjk
      have hself := Inner.get?_put hk st' h.id
      cases hself.symm.trans hj
      exact ⟨st, hk, h.live⟩
    · have hother := Inner.get?_put_ne hk h.id hjk
      exact ⟨stj, hother.symm.trans hj, fun hlive => hlive⟩
  | push h =>
    obtain ⟨_, _, ⟨-, -, rfl⟩ | ⟨-, -, hf⟩⟩ := M.push_some h
    · exact (hs : Inner.Tidy _ K.opens).counts _
    · exact (hs.flagged hf).counts _
  | pushFront _ h =>
    obtain ⟨_, _, ⟨-, -, rfl⟩ | ⟨-, -, hf⟩⟩ := M.pushFront_some h
    · exact hs
    · exact hs.flagged hf
  | pop h =>
    rcases M.pop_some h with ⟨-, -, rfl⟩ | ⟨_, _, _, -, -, -, hf⟩
    · exact (hs : Inner.Tidy _ K.opens).counts _
    · exact (hs.flagged hf).counts _
  | enlist _ _ _ _ _ _ h =>
    obtain ⟨_, _, ⟨-, -, rfl⟩ | ⟨-, -, hf⟩⟩ := M.push_some h
    · exact hs
    · exact hs.flagged hf
  | offer _ _ _ hpop hpush =>
    rcases M.pop_some hpop with ⟨hno, -⟩ | ⟨_, _, _, -, -, -, hf⟩
    · cases hno
    obtain ⟨_, _, ⟨hno, -⟩ | ⟨-, -, hf'⟩⟩ := M.push_some hpush
    · cases hno
    exact (hs.flagged hf).flagged hf'
  | insert id initSend initRecv len hborn unlinked known =>
    have hidle : ({ Stream.new id initSend initRecv with contentLength := len } : Stream).state = .idle := rfl
    exact hs.insert hidle unlinked fun j hopens hsame => hK j _ hopens hborn hsame
  | unlink hk closed unqueued uncounted =>
    simp only [Stream.isClosed, Bool.and_eq_true] at closed
    exact hs.unlink hk closed.1.1
  | remove hk => exact hs.forget hk
  | discard hopens hk => exact hs.forget hk

theorem Moves.tidy (hK : K.Single) (h : Moves K s s') (hs : s.Tidy K.opens) : s'.Tidy K.opens :=
  h.invariant (fun _ _ hmove => hmove.tidy hK) hs

end

end TwoPlz
