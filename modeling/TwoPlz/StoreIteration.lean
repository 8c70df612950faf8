import TwoPlz.Plain
import TwoPlz.Settled
import TwoPlz.Streams.Visitors

/-! The loops over the store in the runs of a connection. -/

namespace TwoPlz

section

variable [HeaderPlz] [StoreCrates]

namespace Connection

variable {c c' : Connection} {e : Event}

theorem Settled.present_next (hc : c.Settled) (hs : c.streams.Present) (h : c.next e = some c') :
    c'.streams.Present :=
  (hc.moves h).present (c.scope_single e) (hc.tidy_start e) hs

theorem indexed {role : Role} {config : ConnectionConfig} {debug : Bool} {events : List Event}
    (h : (Connection.new role config debug).after events = some c) :
    c.streams.store.Distinct ∧ c.streams.Present := by
  have hnew : (Connection.new role config debug).streams.Present := by
    intro k hk
    simp [Connection.new, Inner.new, Store.keys] at hk
  obtain ⟨hc, hs⟩ := after_invariant (Settled.new role config debug) hnew
    (fun c e c' hc hs hnext => hc.present_next hs hnext) h
  exact ⟨hc.tidy.nodup, hs⟩

end Connection

/-- `try_for_each` calls its closure once on each stream that is linked, up to the first error, and its
assertion holds, as long as the closure unlinks only the stream it is called on; the closures of the
streams layer do, also where they hand capacity to other streams. -/
theorem store_iteration :
    (∀ (ε α : Type) (f : α → Key → M (Except ε α)), OnlyUnlinks f → ∀ s : Inner, s.store.Distinct → ∀ a,
      (∀ visited len i a' s', Reaches f a s visited len i a' s' →
        visited.Nodup ∧ (i = len → visited.Perm s.store.keys) ∧
        (i < len → ∃ k, s'.store.entries[i]? = some (k.streamId, k.index) ∧ k ∈ s.store.keys ∧ k ∉ visited ∧
          ((s.get? k).isSome = true → (s'.get? k).isSome = true) ∧
          ∀ r s'', f a' k s' = some (r, s'') → s''.store.entries.length < len → s''.store.entries.length = len - 1)) ∧
      ∃ visited len i a' s', Reaches f a s visited len i a' s' ∧ Outcome f len i a' s' (tryForEach f a s)) ∧
    (∀ dec, OnlyUnlinks (Send.decreaseWindow dec)) ∧ (∀ inc, OnlyUnlinks (Send.increaseWindow inc)) ∧
    (∀ adjust, OnlyUnlinks (Recv.adjustWindow adjust)) ∧
    (∀ err lastStreamId, OnlyUnlinks (forEachClosure fun k => do
      let st ← M.resolve k
      M.when (st.id > lastStreamId) (Inner.failStream err k))) ∧
    (∀ err, OnlyUnlinks (forEachClosure (Inner.failStream err))) ∧
    OnlyUnlinks (forEachClosure fun k => Counts.transition k do
      Recv.recvEof k
      Send.handleError k) ∧
    Keeps Frozen Send.assignConnectionCapacity ∧
    ∀ role config debug events c, (Connection.new role config debug).after events = some c →
      c.streams.store.Distinct ∧ c.streams.Present := by
  refine ⟨fun ε α f hf s hs a => ⟨fun visited len i a' s' hreach => ?_, ?_⟩,
    fun dec => .of_stays (Stays.decreaseWindow dec), fun inc => .of_stays (Stays.increaseWindow inc),
    fun adjust => .of_stays (Stays.adjustWindow adjust),
    fun err last => .of_forEach (OnlyUnlinks.recvGoAwayStream err last),
    fun err => .of_forEach (OnlyUnlinks.failStream err), .of_forEach OnlyUnlinks.recvEofStream,
    Frozen.assignConnectionCapacity, fun role config debug events c h => Connection.indexed h⟩
  · have hunvisited := hreach.unvisited hf hs
    refine ⟨hunvisited.nodup hs, hunvisited.all, fun hi => ?_⟩
    obtain ⟨k, hk, hlinked, hfresh, hkept⟩ := hunvisited.next hs hi
    exact ⟨k, hk, hlinked, hfresh, hkept, fun r s'' hcall hless => ((hunvisited.call hf hi hk hcall).1 hless).1⟩
  · have hstart : Reaches f a s [] (0 + StoreCrates.ids.len s.store.ids) 0 a s := by
      rw [Nat.zero_add, Store.len_ids]
      exact .start
    exact Reaches.runs hf hs _ hstart

end

section

attribute [local instance] plain plainCrates

theorem store_iteration_requests : ∃ c, (Connection.new .client plainConfig true).after
      [.sendRequest (plainRequest none), .sendRequest (plainRequest none)] = some c ∧
    c.streams.store.entries = [(1, 0), (3, 1)] ∧
    ∃ visited len i a s, Reaches (forEachClosure (Inner.failStream (.libraryGoAway Reason.PROTOCOL_ERROR))) ()
      c.streams visited len i a s ∧
      Outcome (forEachClosure (Inner.failStream (.libraryGoAway Reason.PROTOCOL_ERROR))) len i a s
        (tryForEach (forEachClosure (Inner.failStream (.libraryGoAway Reason.PROTOCOL_ERROR))) () c.streams) := by
  have hrun : ((Connection.new .client plainConfig true).after
      [.sendRequest (plainRequest none), .sendRequest (plainRequest none)]).map (·.streams.store.entries) =
        some [(1, 0), (3, 1)] := by
    decide +kernel
  obtain ⟨c, hc, hids⟩ := Option.map_eq_some_iff.mp hrun
  obtain ⟨hloop, -, -, -, -, hfail, -, -, hindexed⟩ := store_iteration
  exact ⟨c, hc, hids, (hloop _ _ _ (hfail _) c.streams (hindexed _ _ _ _ c hc).1 ()).2⟩

end

end TwoPlz
