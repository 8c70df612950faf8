import TwoPlz.Streams.Actions
import TwoPlz.Streams.Iteration

/-! The loops over the store unlink only the stream they are at, also where they hand capacity to others. -/

namespace TwoPlz

variable [HeaderPlz] [StoreCrates]

def Leaves {β : Type} (g : Stream → β) (s s' : Inner) : Prop :=
  s'.store.ids = s.store.ids ∧ ∀ j st, s.get? j = some st → ∃ st', s'.get? j = some st' ∧ g st' = g st

theorem leaves {β : Type} (g : Stream → β) : Chains (Leaves g) where
  refl _ := ⟨rfl, fun _ st hj => ⟨st, hj, rfl⟩⟩
  trans s₁ s₂ s₃ h h' := by
    refine ⟨h'.1.trans h.1, fun j st hj => ?_⟩
    obtain ⟨st', hj', hg'⟩ := h.2 j st hj
    obtain ⟨st'', hj'', hg''⟩ := h'.2 j st' hj'
    exact ⟨st'', hj'', hg''.trans hg'⟩

def QueueFree {β : Type} (g : Stream → β) : Prop :=
  ∀ (n : Next) (st : Stream) (now : Instant) (val : Bool) (key : Option Key),
    g (st.setQueued n now val) = g st ∧ g (st.setNext n key) = g st

namespace Leaves

open M

variable {β α : Type} {g : Stream → β} {s s' : Inner} {k : Key} {n : Next}

theorem of_store (h : s'.store = s.store) : Leaves g s s' := by
  refine ⟨by rw [h], fun j st hj => ⟨st, ?_, rfl⟩⟩
  simpa only [Inner.get?, h] using hj

theorem put {st st' : Stream} (hk : s.get? k = some st) (hid : st'.id = st.id) (hg : g st' = g st) :
    Leaves g s (s.put k st') := by
  refine ⟨rfl, fun j stj hj => ?_⟩
  by_cases hjk : j = k
  · subst hjk
    cases hk.symm.trans hj
    exact ⟨st', Inner.get?_put hk st' hid, hg⟩
  · exact ⟨stj, (Inner.get?_put_ne hk hid hjk).trans hj, rfl⟩

theorem update {f : Stream → Stream} (hf : ∀ st, (f st).id = st.id ∧ g (f st) = g st) :
    Keeps (Leaves g) (M.update k f) := by
  intro s u s' h
  obtain ⟨st, hk, rfl⟩ := update_some.mp h
  exact put hk (hf st).1 (hf st).2

theorem flagged {val : Bool} (hg : QueueFree g) (h : Flagged n k val s s') : Leaves g s s' := by
  refine ⟨h.ids, fun j st hj => ?_⟩
  by_cases hjk : j = k
  · subst hjk
    obtain ⟨key, hj'⟩ := h.get_self hj
    exact ⟨_, hj', (hg n _ s.now val key).2.trans (hg n st s.now val key).1⟩
  · obtain ⟨key, hj'⟩ := h.get_ne hj hjk
    exact ⟨_, hj', (hg n st s.now val key).2⟩

theorem push (hg : QueueFree g) : Keeps (Leaves g) (M.push n k) := by
  intro s b s' h
  obtain ⟨_, _, ⟨-, -, rfl⟩ | ⟨-, -, hf⟩⟩ := push_some h
  · exact (leaves g).refl _
  · exact flagged hg hf

theorem pop (hg : QueueFree g) : Keeps (Leaves g) (M.pop n) := by
  intro s o s' h
  rcases pop_some h with ⟨-, -, rfl⟩ | ⟨_, _, _, -, -, -, hf⟩
  · exact (leaves g).refl _
  · exact flagged hg hf

theorem modify {f : Inner → Inner} (hf : ∀ s, (f s).store = s.store) : Keeps (Leaves g) (modify f : M PUnit) :=
  .modify fun s => of_store (hf s)

end Leaves

theorem transitionAfter_open {s s' : Inner} {k : Key} {st : Stream} {u : Unit} {b : Bool}
    (hk : s.get? k = some st) (hopen : st.state.isClosed = false)
    (h : Counts.transitionAfter k b s = some (u, s')) : s' = s := by
  have hclosed : st.isClosed = false := by simp [Stream.isClosed, hopen]
  have hreleased : st.isReleased = false := by simp [Stream.isReleased, hclosed]
  obtain ⟨_, _, hresolve, h⟩ := bind_eq_some h
  obtain ⟨hst, rfl⟩ := M.resolve_some.mp hresolve
  cases hk.symm.trans hst
  obtain ⟨_, s₁, hretire, h⟩ := bind_eq_some h
  rcases M.when_some.mp hretire with ⟨hyes, -⟩ | ⟨-, rfl⟩
  · rw [hclosed] at hyes
    cases hyes
  obtain ⟨_, _, hresolve, h⟩ := bind_eq_some h
  obtain ⟨hst, rfl⟩ := M.resolve_some.mp hresolve
  cases hk.symm.trans hst
  rcases M.when_some.mp h with ⟨hyes, -⟩ | ⟨-, rfl⟩
  · rw [hreleased] at hyes
    cases hyes
  · rfl

/-! The capacity of the connection goes to streams that are open, and none of them goes away. -/

abbrev Frozen : Inner → Inner → Prop := Leaves Stream.state

theorem frozen : Chains Frozen := leaves Stream.state

omit [StoreCrates] in
theorem state_queueFree : QueueFree Stream.state := by
  intro n st now val key
  cases n <;> exact ⟨rfl, rfl⟩

namespace Frozen

open M

theorem allocate (k : Key) (allocated : Nat) : Keeps Frozen (Send.allocate k allocated) :=
  frozen.bind (frozen.resolve _) fun _ => frozen.bind (frozen.addU32 _ _) fun _ =>
    frozen.bind (Leaves.update fun _ => ⟨rfl, rfl⟩) fun _ => Leaves.modify fun _ => rfl

theorem tryAssignCapacity (k : Key) : Keeps Frozen (Send.tryAssignCapacity k) := by
  refine frozen.bind (frozen.resolve _) fun st => frozen.bind frozen.get fun s => ?_
  dsimp only
  refine .ite (frozen.pure _) (.ite (frozen.bind (Leaves.push state_queueFree) fun _ => frozen.pure _) ?_)
  split
  · exact frozen.pure _
  · exact frozen.bind (Leaves.push state_queueFree) fun _ => .ite (frozen.pure _) (allocate _ _)

theorem assignTo {s : Inner} {k : Key} {st : Stream} (hk : s.get? k = some st)
    (hst : st.state.isSendStreaming = true) :
    KeepsAt Frozen s (Counts.transition k (Send.tryAssignCapacity k)) := by
  refine Chains.resolve_bind fun _ _ => fun u s' h => ?_
  obtain ⟨_, s₁, hassign, h⟩ := bind_eq_some h
  obtain ⟨_, s₂, hafter, hpure⟩ := bind_eq_some h
  cases hpure
  have hfrozen := tryAssignCapacity k _ _ _ hassign
  obtain ⟨st₁, hk₁, hstate⟩ := hfrozen.2 k st hk
  have hopen : st₁.state.isClosed = false := by
    rw [hstate]
    by_contra hno
    rw [Bool.not_eq_false] at hno
    rcases State.isSendStreaming_cases hst with ⟨_, hst⟩ | hst <;> simp [hst, State.isClosed] at hno
  obtain rfl := transitionAfter_open hk₁ hopen hafter
  exact hfrozen

theorem assignConnectionCapacityLoop (n : Nat) : Keeps Frozen (Send.assignConnectionCapacityLoop n) := by
  induction n with
  | zero => exact Chains.abort
  | succ n ih =>
    refine frozen.bind frozen.get fun s => .ite ?_ (frozen.pure _)
    refine frozen.bind (Leaves.pop state_queueFree) fun o => ?_
    split
    · exact frozen.pure _
    · intro s₁
      refine Chains.resolve_bind fun st hk => ?_
      split
      · exact ih s₁
      · rename_i hstreaming
        have hst : st.state.isSendStreaming = true := by
          rw [Bool.or_eq_true, not_or] at hstreaming
          simpa using hstreaming.1
        exact KeepsAt.bind frozen.trans (assignTo hk hst) fun _ => ih

theorem assignConnectionCapacity : Keeps Frozen Send.assignConnectionCapacity :=
  frozen.bind frozen.get fun _ => assignConnectionCapacityLoop _

theorem recvConnectionWindowUpdate (inc : Nat) : Keeps Frozen (Send.recvConnectionWindowUpdate inc) := by
  refine Keeps.get_bind fun s => ?_
  split
  · exact frozen.pure _ s
  · refine KeepsAt.bind frozen.trans (KeepsAt.set (Leaves.of_store rfl)) fun _ => ?_
    exact frozen.bind assignConnectionCapacity fun _ => frozen.pure _

theorem reclaimAllCapacity (k : Key) : Keeps Frozen (Send.reclaimAllCapacity k) :=
  frozen.bind (frozen.resolve _) fun _ => frozen.when _
    (frozen.bind (recvConnectionWindowUpdate _) fun _ => frozen.pure _)

end Frozen

/-! The closures. -/

abbrev Stays : Inner → Inner → Prop := Leaves fun _ => ()

theorem stays : Chains Stays := leaves fun _ => ()

omit [StoreCrates] in
theorem unit_queueFree : QueueFree fun _ => () := fun _ _ _ _ _ => ⟨rfl, rfl⟩

namespace Stays

open M

variable {s s' : Inner} {k : Key}

theorem of_frozen (h : Frozen s s') : Stays s s' := by
  refine ⟨h.1, fun j st hj => ?_⟩
  obtain ⟨st', hj', -⟩ := h.2 j st hj
  exact ⟨st', hj', rfl⟩

theorem visits (h : Stays s s') (k : Key) : Visits k s s' := by
  refine ⟨Or.inl h.1, fun j _ hj => ?_⟩
  obtain ⟨st, hst⟩ := Option.isSome_iff_exists.mp hj
  obtain ⟨st', hst', -⟩ := h.2 j st hst
  exact Option.isSome_iff_exists.mpr ⟨st', hst'⟩

theorem frozen {α : Type} {m : M α} (h : Keeps Frozen m) : Keeps Stays m := fun s a s' hm => of_frozen (h s a s' hm)

theorem clearStreamQueue (k : Key) : Keeps Stays (Send.clearStreamQueue k) :=
  stays.bind (stays.bind (stays.resolve _) fun _ => stays.bind (Leaves.update fun _ => ⟨rfl, rfl⟩) fun _ =>
    Leaves.modify fun _ => rfl) fun _ => Leaves.update fun _ => ⟨rfl, rfl⟩

theorem drainRecv (k : Key) : Keeps Stays (M.drainRecv k) :=
  stays.bind (stays.resolve _) fun _ => stays.bind (Leaves.update fun _ => ⟨rfl, rfl⟩) fun _ =>
    stays.bind (Leaves.modify fun _ => rfl) fun _ => stays.pure _

theorem recvHandleError (err : ProtoError) (k : Key) : Keeps Stays (Recv.handleError err k) := by
  refine stays.bind (Leaves.update fun _ => ⟨rfl, rfl⟩) fun _ => stays.bind ?_ fun _ =>
    Leaves.update fun _ => ⟨rfl, rfl⟩
  exact stays.bind (stays.resolve _) fun _ => stays.when _ (stays.bind (drainRecv k) fun _ => stays.pure _)

theorem sendHandleError (k : Key) : Keeps Stays (Send.handleError k) :=
  stays.bind (clearStreamQueue k) fun _ => frozen (Frozen.reclaimAllCapacity k)

theorem scheduleSend (k : Key) : Keeps Stays (Send.scheduleSend k) :=
  stays.bind (stays.resolve _) fun _ => stays.when _
    (stays.bind (Leaves.push unit_queueFree) fun _ => Leaves.modify fun _ => rfl)

theorem queueFrame (frame : Frame) (k : Key) : Keeps Stays (Send.queueFrame frame k) :=
  stays.bind (stays.bind (Leaves.update fun _ => ⟨rfl, rfl⟩) fun _ => Leaves.modify fun _ => rfl) fun _ =>
    scheduleSend k

theorem sendReset (reason : Nat) (initiator : Initiator) (k : Key) :
    Keeps Stays (Send.sendReset reason initiator k) := by
  refine stays.bind (stays.resolve _) fun st => .ite (stays.pure _) ?_
  refine stays.bind (Leaves.update fun _ => ⟨rfl, rfl⟩) fun _ => .ite (stays.pure _) ?_
  exact stays.bind (clearStreamQueue k) fun _ => stays.bind (queueFrame _ k) fun _ =>
    frozen (Frozen.reclaimAllCapacity k)

theorem recvStreamWindowUpdate (sz : Nat) (k : Key) : Keeps Stays (Send.recvStreamWindowUpdate sz k) := by
  refine stays.bind (stays.resolve _) fun st => .ite (stays.pure _) ?_
  refine stays.bind (Leaves.modify fun _ => rfl) fun _ => ?_
  split
  · exact stays.bind (sendReset _ _ k) fun _ => stays.pure _
  · exact stays.bind (Leaves.update fun _ => ⟨rfl, rfl⟩) fun _ =>
      stays.bind (frozen (Frozen.tryAssignCapacity k)) fun _ => stays.pure _

theorem decreaseWindow (dec total : Nat) (k : Key) : Keeps Stays (Send.decreaseWindow dec total k) := by
  refine stays.bind (stays.resolve _) fun st => .ite (stays.pure _) ?_
  split
  · exact stays.pure _
  · refine stays.bind (Leaves.update fun _ => ⟨rfl, rfl⟩) fun _ => .ite ?_ (stays.pure _)
    exact stays.bind (stays.addU32 _ _) fun _ => stays.bind (Leaves.update fun _ => ⟨rfl, rfl⟩) fun _ =>
      stays.pure _

theorem increaseWindow (inc : Nat) (u : Unit) (k : Key) : Keeps Stays (Send.increaseWindow inc u k) :=
  stays.bind (recvStreamWindowUpdate inc k) fun _ => stays.pure _

theorem adjustWindow (g : FlowControl → Except Nat FlowControl) (u : Unit) (k : Key) :
    Keeps Stays (Recv.adjustWindow g u k) := by
  refine stays.bind (stays.resolve _) fun st => ?_
  split
  · exact stays.pure _
  · exact stays.bind (Leaves.update fun _ => ⟨rfl, rfl⟩) fun _ => stays.pure _

end Stays

section

variable {s s' : Inner} {k : Key} {st : Stream}

theorem retire_ends (hk : s.get? k = some st) (b : Bool) :
    Ends s (Counts.retire k b) fun _ s' => ∃ t : Inner, Leaves Stream.resetAt t s' ∧ t.store.slab = s.store.slab ∧
      (t.store.ids = (s.store.unlink k).ids ∨ st.resetAt.isSome = true ∧ t.store.ids = s.store.ids) := by
  refine Ends.resolve_bind fun _ hst => Ends.bind fun u s₁ hunlink => fun u s' hcount => ?_
  cases hk.symm.trans hst
  have hcounted : Leaves Stream.resetAt s₁ s' := by
    have hR := leaves Stream.resetAt
    refine hR.when _ (m := Counts.decNumStreams k) ?_ _ _ _ hcount
    refine hR.bind (hR.resolve _) fun _ => hR.bind (hR.assert _) fun _ => hR.bind (hR.isLocalInit _) fun isLocal =>
      hR.bind ?_ fun _ => Leaves.update fun _ => ⟨rfl, rfl⟩
    cases isLocal with
    | true => exact Chains.checked fun s => Leaves.of_store rfl
    | false => exact Chains.checked fun s => Leaves.of_store rfl
  rcases M.when_some.mp hunlink with ⟨-, hunlink⟩ | ⟨hpending, rfl⟩
  · obtain ⟨_, t, hmodify, hreset⟩ := bind_eq_some hunlink
    cases hmodify
    have hR := leaves Stream.resetAt
    have hreset : Leaves Stream.resetAt _ s₁ :=
      hR.when _ (m := Counts.decNumResetStreams) (Chains.checked fun s => Leaves.of_store rfl) _ _ _ hreset
    exact ⟨_, hR.trans _ _ _ hreset hcounted, rfl, Or.inl rfl⟩
  · refine ⟨s, hcounted, rfl, Or.inr ⟨?_, rfl⟩⟩
    simpa [Stream.isPendingResetExpiration] using hpending

theorem transitionAfter_visits (hs : s.store.Distinct) (b : Bool) :
    Ends s (Counts.transitionAfter k b) fun _ s' => Visits k s s' := by
  refine Ends.resolve_bind fun st hk => Ends.bind fun u s₁ hretire => Ends.resolve_bind fun st₁ hk₁ => ?_
  -- up to the removal no stream leaves the slab
  have hfirst : (∀ j stj, s.get? j = some stj → (s₁.get? j).isSome = true) ∧
      (s₁.store.ids = (s.store.unlink k).ids ∨
        s₁.store.ids = s.store.ids ∧ st₁.isReleased = false) := by
    rcases M.when_some.mp hretire with ⟨-, hretire⟩ | ⟨hopen, rfl⟩
    · obtain ⟨t, ⟨hids, hget⟩, hslab, hlinked⟩ := retire_ends hk b _ _ hretire
      have hsame : ∀ j, t.get? j = s.get? j := fun j => by simp only [Inner.get?, Store.get, hslab]
      refine ⟨fun j stj hj => ?_, ?_⟩
      · obtain ⟨stj', hj', -⟩ := hget j stj ((hsame j).trans hj)
        exact Option.isSome_iff_exists.mpr ⟨stj', hj'⟩
      · rcases hlinked with hlinked | ⟨hreset, hlinked⟩
        · exact Or.inl (hids.trans hlinked)
        · obtain ⟨st₁', hk₁', hat⟩ := hget k st ((hsame k).trans hk)
          cases hk₁'.symm.trans hk₁
          rw [← hat] at hreset
          refine Or.inr ⟨hids.trans hlinked, ?_⟩
          cases hrel : st₁.isReleased with
          | false => rfl
          | true => simp [Stream.isReleased, Option.isSome_iff_ne_none.mp hreset] at hrel
    · cases hk.symm.trans hk₁
      refine ⟨fun j stj hj => by simp [hj], Or.inr ⟨rfl, ?_⟩⟩
      simp [Stream.isReleased, hopen]
  intro u s' hremove
  rcases M.when_some.mp hremove with ⟨hreleased, hremove⟩ | ⟨-, rfl⟩
  · obtain ⟨store, hstore, heq⟩ := Option.map_eq_some_iff.mp hremove
    cases heq
    obtain rfl := Store.remove_eq_some hstore
    have hids := hfirst.2.resolve_right (by
      rintro ⟨_, hno⟩
      simp [hreleased] at hno)
    refine ⟨Or.inr hids, fun j hj hold => ?_⟩
    obtain ⟨stj, hstj⟩ := Option.isSome_iff_exists.mp hold
    have hne : j ≠ k := by
      rintro rfl
      obtain ⟨p, hp, hpk⟩ := List.mem_map.mp hj
      have hp' : p ∈ (s.store.unlink j).entries := Store.entries_congr hids ▸ hp
      exact ((Store.mem_unlink hs j).2 p |>.mp hp').2 (congrArg Key.streamId hpk)
    have hsame : Store.get (s₁.store.vacate k) j = s₁.store.get j := Store.get_vacate_ne hk₁ hne
    exact (congrArg Option.isSome hsame).trans (hfirst.1 j stj hstj)
  · refine ⟨?_, fun j _ hold => ?_⟩
    · rcases hfirst.2 with hids | ⟨hids, -⟩
      · exact Or.inr hids
      · exact Or.inl hids
    · obtain ⟨stj, hstj⟩ := Option.isSome_iff_exists.mp hold
      exact hfirst.1 j stj hstj

theorem transition_visits {α : Type} {m : M α} (hm : Keeps Stays m) (hs : s.store.Distinct) :
    Ends s (Counts.transition k m) fun _ s' => Visits k s s' := by
  refine Ends.resolve_bind fun st hk => Ends.bind fun a s₁ hrun => Ends.bind fun u s₂ hafter => Ends.pure ?_
  have hstays := hm _ _ _ hrun
  have hs₁ : s₁.store.Distinct := by
    rw [Store.Distinct, Store.entries_congr hstays.1]
    exact hs
  obtain ⟨hids, hkept⟩ := transitionAfter_visits hs₁ _ _ _ hafter
  refine ⟨?_, fun j hj hold => hkept j hj ?_⟩
  · have hunlink : (s₁.store.unlink k).ids = (s.store.unlink k).ids := by
      simp only [Store.unlink, hstays.1]
    rw [hstays.1, hunlink] at hids
    exact hids
  · obtain ⟨stj, hstj⟩ := Option.isSome_iff_exists.mp hold
    obtain ⟨stj', hstj', -⟩ := hstays.2 j stj hstj
    exact Option.isSome_iff_exists.mpr ⟨stj', hstj'⟩

end

def forEachClosure (m : Key → M Unit) : Unit → Key → M (Except Empty Unit) := fun _ k => do
  m k
  pure (.ok ())

namespace OnlyUnlinks

theorem of_stays {ε α : Type} {f : α → Key → M (Except ε α)} (hf : ∀ a k, Keeps Stays (f a k)) : OnlyUnlinks f :=
  fun a k s r s' _ _ h => (hf a k s r s' h).visits k

theorem of_forEach {m : Key → M Unit}
    (hm : ∀ s k, s.store.Distinct → Ends s (m k) fun _ s' => Visits k s s') :
    OnlyUnlinks (forEachClosure m) := by
  intro a k s r s' hs _ h
  obtain ⟨u, s₁, hrun, hpure⟩ := bind_eq_some h
  cases hpure
  exact hm s k hs _ _ hrun

theorem failStream (err : ProtoError) (s : Inner) (k : Key) (hs : s.store.Distinct) :
    Ends s (Inner.failStream err k) fun _ s' => Visits k s s' :=
  transition_visits (stays.bind (Stays.recvHandleError err k) fun _ => Stays.sendHandleError k) hs

theorem recvGoAwayStream (err : ProtoError) (lastStreamId : Nat) (s : Inner) (k : Key) (hs : s.store.Distinct) :
    Ends s (do
      let st ← M.resolve k
      M.when (st.id > lastStreamId) (Inner.failStream err k)) fun _ s' => Visits k s s' := by
  refine Ends.resolve_bind fun st hk => fun u s' h => ?_
  rcases M.when_some.mp h with ⟨-, h⟩ | ⟨-, rfl⟩
  · exact failStream err s k hs _ _ h
  · exact (stays.refl s).visits k

theorem recvEofStream (s : Inner) (k : Key) (hs : s.store.Distinct) :
    Ends s (Counts.transition k do
      Recv.recvEof k
      Send.handleError k) fun _ s' => Visits k s s' :=
  transition_visits (stays.bind (Leaves.update fun _ => ⟨rfl, rfl⟩) fun _ => Stays.sendHandleError k) hs

end OnlyUnlinks

end TwoPlz
