import TwoPlz.Streams.Refs
import TwoPlz.Streams.SendMoves

/-! Receiving and the handles as moves. -/

namespace TwoPlz

variable [HeaderPlz] [StoreCrates]

omit [HeaderPlz] [StoreCrates] in
theorem isRecvEndStream_recvClose {state state' : State} (h : state.recvClose = .ok state') :
    state'.isRecvEndStream = true := by
  cases state <;> cases h <;> rfl

omit [StoreCrates] in
theorem started_recvOpen {state state' : State} {frame : Headers} {isInitial : Bool}
    (h : state.recvOpen frame = .ok (isInitial, state')) (hinfo : frame.isInformational = false) :
    state'.isRecvStreaming = true ∨ state'.isRecvEndStream = true := by
  unfold State.recvOpen at h
  split at h <;> cases h <;> cases frame.isEndStream <;>
    simp [State.isRecvStreaming, State.isRecvEndStream, State.recvPeer, hinfo]

omit [StoreCrates] in
theorem Stream.decContentLength_some {st st' : Stream} {len : Nat}
    (h : st.decContentLength len = some st') : ∃ c, st' = { st with contentLength := c } := by
  unfold Stream.decContentLength at h
  split at h
  · split at h
    · cases h
    · cases h
      exact ⟨_, rfl⟩
  · split at h
    · cases h
    · cases h
      exact ⟨_, rfl⟩
  · cases h
    exact ⟨_, rfl⟩

structure Scope.Receives (K : Scope) (k : Key) (eos : Bool) : Prop where
  turn : K.turn k
  recv : K.recv k
  offers : K.offers
  ends : eos = true → K.ends k

structure Scope.Starts (K : Scope) (s : Inner) (k : Key) (st : Stream) : Prop where
  lists : K.lists k
  unoffered : st.isPendingAccept = false
  below : k.streamId ≤ s.recv.maxStreamId
  processed : s.counts.role.isServer = true → k.streamId ≤ s.recv.lastProcessedId

structure Scope.Listens (K : Scope) (s : Inner) (k : Key) (st : Stream) (id : Nat) : Prop where
  lists : K.lists k
  unoffered : st.isPendingAccept = false
  below : k.streamId ≤ s.recv.maxStreamId
  id : k.streamId = id
  fresh : st.state = .idle → K.opens k
  first : s.counts.role.isServer = true → st.state = .idle
  admits : st.state = .idle ∨ st.state = .reservedRemote →
    K.processes k ∧ s.counts.role.isLocalInit k.streamId = false ∧ st.isPendingOpen = false ∧
      st.pendingSend = [] ∧ st.isSendingTrailer = false

omit [HeaderPlz] [StoreCrates] in
theorem Scope.Receives.lasting {K : Scope} {k : Key} {eos : Bool} (h : K.Receives k eos) :
    K.lasting.Receives k eos := ⟨h.turn, h.recv, h.offers, h.ends⟩

theorem Scope.Listens.lasting {K : Scope} {s : Inner} {k : Key} {st : Stream} {id : Nat}
    (h : K.Listens s k st id) : K.lasting.Listens s k st id :=
  ⟨h.lists, h.unoffered, h.below, h.id, h.fresh, h.first, h.admits⟩

omit [StoreCrates] in
theorem isEndStream_recvOpen {state state' : State} {frame : Headers} {isInitial : Bool}
    (h : state.recvOpen frame = .ok (isInitial, state')) (hend : state'.isRecvEndStream = true) :
    frame.isEndStream = true := by
  unfold State.recvOpen at h
  cases heos : frame.isEndStream with
  | true => rfl
  | false =>
    rw [heos] at h
    split at h <;> cases h
    · cases hend
    · cases hinfo : frame.isInformational <;> simp [hinfo, State.isRecvEndStream] at hend
    · cases hend
    · cases hend

def Recv.countOpened (frame : Headers) (isInitial : Bool) (k : Key) : M Unit :=
  M.when isInitial do
    modify fun s => { s with recv.lastProcessedId := max s.recv.lastProcessedId frame.streamId }
    Counts.incNumRecvStreams k

namespace Moves

open M

variable {K : Scope} {α : Type} {s : Inner} {k : Key} {st : Stream}

theorem recvClearStreamQueue_some {s' : Inner} {u : Unit} (hk : s.get? k = some st)
    (hout : st.isPendingComplete = false) (h : Recv.clearStreamQueue k s = some (u, s')) : s' = s := by
  simp only [Recv.clearStreamQueue, bind_some, resolve_some] at h
  obtain ⟨_, _, ⟨hst, rfl⟩, h⟩ := h
  cases hk.symm.trans hst
  rcases when_some.mp h with ⟨hin, -⟩ | ⟨-, rfl⟩
  · rw [hout] at hin
    cases hin
  · rfl

theorem moveFromPendingCompleteLoop (hK : K.offers) (n : Nat) :
    Keeps (Moves K) (Recv.moveFromPendingCompleteLoop n) := by
  induction n with
  | zero => exact Chains.abort
  | succ n ih =>
    intro s a s' hloop
    obtain ⟨o, s₁, hpop, h⟩ := bind_eq_some hloop
    clear hloop
    rcases popIf_some hpop with ⟨rfl, rfl, -⟩ | ⟨k, st, tail, rfl, hk, hcomplete, -, hpop⟩
    · cases h
      exact .refl _
    · obtain ⟨_, s₂, hget, h⟩ := bind_eq_some h
      obtain ⟨rfl, rfl⟩ := get_some.mp hget
      obtain ⟨u, s₂, hmove, h⟩ := bind_eq_some h
      refine Moves.trans ?_ (ih _ _ _ h)
      have hpopped : Move K s s₁ := popped (by decide) hpop nofun
      rcases when_some.mp hmove with ⟨-, hmove⟩ | ⟨-, rfl⟩
      · obtain ⟨st₁, _, hst₁, hmove⟩ := bind_eq_some hmove
        obtain ⟨hk₁, rfl⟩ := resolve_some.mp hst₁
        rcases pop_some hpop with ⟨hno, -⟩ | ⟨_, _, _, hsome, hk', -, hf⟩
        · cases hno
        cases hsome
        cases hk.symm.trans hk'
        obtain ⟨key, hget⟩ := hf.get_self hk
        cases hk₁.symm.trans hget
        split at hmove
        · rename_i hreset
          obtain rfl := recvClearStreamQueue_some hk₁ rfl hmove
          exact .single hpopped
        · rename_i hreset
          have hend : st.state.isRecvEndStream = true := by
            simp only [Recv.isComplete, Bool.or_eq_true] at hcomplete
            rcases hcomplete with hend | hno
            · exact hend
            · exact absurd hno hreset
          obtain ⟨b, s₃, hpush, hmove⟩ := bind_eq_some hmove
          cases hmove
          obtain ⟨_, _, ⟨rfl, -, rfl⟩ | ⟨rfl, -⟩⟩ := push_some hpush
          · exact .single hpopped
          · exact .single (.offer hK hk hend hpop hpush)
      · exact .single hpopped

theorem moveFromPendingComplete (hK : K.turn k) (hK' : K.offers) :
    Keeps (Moves K) (Recv.moveFromPendingComplete k) :=
  chains.bind chains.get fun _ => chains.bind (moveFromPendingCompleteLoop hK' _) fun _ =>
    chains.when _ (update fun _ _ _ => .notify hK)

/-! DATA. -/

theorem decConnectionWindow (size : Nat) : Keeps (Moves K) (Recv.decConnectionWindow size) := by
  refine .get_bind fun s => ?_
  split
  · exact chains.pure _ s
  · split
    · exact chains.pure _ s
    · exact .bind chains.trans (.set (aside (.of_beside (by rfl)))) fun _ => chains.pure _

theorem recvStreamData {frame : Data} (hK : K.Receives k frame.isEndStream) (hk : s.get? k = some st)
    (streaming : st.state.isRecvStreaming = true) (size : Nat) :
    KeepsAt (Moves K) s (Recv.recvStreamData frame size k) := by
  refine Chains.resolve_bind fun _ hst => ?_
  cases hk.symm.trans hst
  dsimp only
  split
  · exact chains.pure _ s
  · split
    · exact chains.pure _ s
    · rename_i st' hdec
      obtain ⟨c, rfl⟩ := Stream.decContentLength_some hdec
      refine chains.update_next hk rfl (turn hk (.measure hK.recv _)) fun s₁ _ hk₁ => ?_
      split
      · exact chains.pure _ _
      · split
        · exact chains.pure _ _
        · rename_i state hstate
          -- the receive half is closed, or the state stays
          have hnext : Turn K s₁.counts.role k .plain { st with contentLength := c }
              { st with contentLength := c, state := state } ∧
              (state.isRecvStreaming = true ∨ state.isRecvEndStream = true) := by
            split at hstate
            · rename_i heos
              exact ⟨.recvClose (hK.ends heos) state hstate, Or.inr (isRecvEndStream_recvClose hstate)⟩
            · cases hstate
              exact ⟨.calm _ _ _ _ _ id, Or.inl streaming⟩
          refine chains.update_next hk₁ rfl (turn hk₁ hnext.1) fun s₂ _ hk₂ => ?_
          split
          · exact chains.pure _ _
          · rename_i flow hflow
            refine chains.update_next hk₂ rfl
              (turn hk₂ (.calm _ _ _ _ _ fun _ => FlowControl.inRange_decWindow hflow)) fun s₃ _ hk₃ => ?_
            refine .bind chains.trans (pushBackRecv hK.recv hk₃ hnext.2 _) fun _ => ?_
            refine chains.bind chains.get fun s => ?_
            split
            · exact chains.bind (update fun _ _ _ => .calm _ _ _ _ _ id) fun _ => chains.pure _
            · split
              · exact chains.bind (moveFromPendingComplete hK.turn hK.offers) fun _ => chains.pure _
              · exact chains.bind (modified fun _ => .of_beside (by rfl)) fun _ => chains.pure _

theorem recvData {frame : Data} (hK : K.Receives k frame.isEndStream) :
    Keeps (Moves K) (Recv.recvData frame k) := by
  refine chains.bind (chains.assert _) fun _ => chains.bind (decConnectionWindow _) fun res => ?_
  split
  · exact chains.pure _
  · refine chains.bind (modified fun _ => .of_beside (by rfl)) fun _ s => Chains.resolve_bind fun st hk => ?_
    split
    · exact chains.pure _ s
    · rename_i hopen
      split
      · exact chains.pure _ s
      · rename_i hlocal
        refine recvStreamData hK hk ?_ _
        simpa [hlocal] using hopen

/-! HEADERS. -/

theorem pushBackRecv_some {s' : Inner} {u : Unit} {event : RecvEvent} (hk : s.get? k = some st)
    (h : M.pushBackRecv k event s = some (u, s')) :
    s'.get? k = some { st with pendingRecv := st.pendingRecv ++ [event] } ∧
      s' = { s.put k { st with pendingRecv := st.pendingRecv ++ [event] } with
        recv.buffer := s.recv.buffer + 1 } := by
  simp only [M.pushBackRecv, bind_some, update_some, modify_some] at h
  obtain ⟨_, _, ⟨st₁, hst₁, rfl⟩, rfl⟩ := h
  cases hk.symm.trans hst₁
  exact ⟨Inner.get?_put hk _ rfl, rfl⟩

theorem parseContentLength (hK : K.recv k) (frame : Headers) :
    Keeps (Moves K) (Recv.parseContentLength frame k) := by
  refine chains.bind (chains.resolve _) fun st => ?_
  split
  · exact chains.pure _
  · split
    · exact chains.pure _
    · split
      · exact chains.pure _
      · exact chains.bind (update fun _ _ _ => .measure hK _) fun _ =>
          .ite (chains.pure _) (chains.pure _)

theorem parseContentLength_ends (hk : s.get? k = some st) (frame : Headers) :
    Ends s (Recv.parseContentLength frame k) fun _ s' =>
      (∃ c, s'.get? k = some { st with contentLength := c }) ∧ ∃ store, s' = { s with store := store } := by
  refine Ends.resolve_bind fun _ hst => ?_
  cases hk.symm.trans hst
  split
  · exact Ends.pure ⟨⟨_, hk⟩, _, rfl⟩
  · split
    · exact Ends.pure ⟨⟨_, hk⟩, _, rfl⟩
    · split
      · exact Ends.pure ⟨⟨_, hk⟩, _, rfl⟩
      · refine Ends.update_next hk rfl fun s₁ hs₁ hk₁ => ?_
        split
        · exact Ends.pure ⟨⟨_, hk₁⟩, hs₁⟩
        · exact Ends.pure ⟨⟨_, hk₁⟩, hs₁⟩

theorem parseContentLength_error (frame : Headers) (k : Key) :
    Ends s (Recv.parseContentLength frame k) fun res _ => ∀ e, res = .error e →
      ∃ id reason, e = ProtoError.libraryReset id reason := by
  refine Ends.resolve_bind fun st hk => ?_
  split
  · exact Ends.pure (by simp)
  · split
    · exact Ends.pure (by simp)
    · split
      · exact Ends.pure fun e he => ⟨_, _, (Except.error.inj he).symm⟩
      · refine Ends.update_bind hk ?_
        split
        · exact Ends.pure fun e he => ⟨_, _, (Except.error.inj he).symm⟩
        · exact Ends.pure (by simp)

theorem enlist (hk : s.get? k = some st) (hK : K.Starts s k st)
    (started : st.state.isRecvStreaming = true ∨ st.state.isRecvEndStream = true) :
    KeepsAt (Moves K) s (M.push .complete k) := by
  intro b s' h
  obtain ⟨_, _, ⟨rfl, -, rfl⟩ | ⟨rfl, -⟩⟩ := push_some h
  · exact .refl _
  · exact .single (.enlist hK.lists hk started hK.unoffered hK.below hK.processed h)

theorem deliverHeaders {frame : Headers} (hk : s.get? k = some st) (hK : K.Receives k frame.isEndStream)
    (hK' : K.Starts s k st)
    (started : frame.isInformational = false →
      st.state.isRecvStreaming = true ∨ st.state.isRecvEndStream = true) :
    KeepsAt (Moves K) s (Recv.deliverHeaders frame k) := by
  refine .get_bind ?_
  split
  · exact chains.pure _ s
  · rename_i hinfo
    have hstarted := started (by simpa using hinfo)
    refine .read_bind (fun a s' h => (lift_some.mp h).2.symm) fun res => ?_
    split
    · exact chains.pure _ s
    · refine chains.step fun u s₁ hpush => ⟨pushBackRecv hK.recv hk hstarted _ _ _ hpush, ?_⟩
      split
      · exact chains.bind (update fun _ _ _ => .notify hK.turn) (fun _ => chains.pure _) s₁
      · obtain ⟨hk₁, rfl⟩ := pushBackRecv_some hk hpush
        refine .bind chains.trans (enlist hk₁ ⟨hK'.1, hK'.2, hK'.3, hK'.4⟩ hstarted) fun _ => ?_
        exact chains.bind (chains.when _ (moveFromPendingComplete hK.turn hK.offers)) fun _ => chains.pure _

theorem checkedHeaders {frame : Headers} (hk : s.get? k = some st) (hK : K.Receives k frame.isEndStream)
    (hK' : K.Starts s k st) (isInitial : Bool)
    (started : frame.isInformational = false →
      st.state.isRecvStreaming = true ∨ st.state.isRecvEndStream = true) :
    KeepsAt (Moves K) s (Recv.checkedHeaders frame isInitial k) := by
  refine Chains.resolve_bind fun _ _ => chains.step fun res s₁ hparse =>
    ⟨parseContentLength hK.recv _ _ _ _ hparse, ?_⟩
  obtain ⟨⟨c, hk₁⟩, store, rfl⟩ := parseContentLength_ends hk frame _ _ hparse
  split
  · exact chains.pure _ _
  · refine .get_bind ?_
    dsimp only
    split
    · exact chains.pure _ _
    · split
      · exact chains.pure _ _
      · exact deliverHeaders hk₁ hK ⟨hK'.1, hK'.2, hK'.3, hK'.4⟩ started

theorem incNumRecvStreams (hk : s.get? k = some st)
    (remote : s.counts.role.isLocalInit k.streamId = false) (unopened : st.isPendingOpen = false)
    (processed : k.streamId ≤ s.recv.lastProcessedId) :
    KeepsAt (Moves K) s (Counts.incNumRecvStreams k) := by
  intro u s' h
  obtain ⟨_, _, hget, h⟩ := bind_eq_some h
  obtain ⟨rfl, rfl⟩ := get_some.mp hget
  obtain ⟨_, _, hroom, h⟩ := bind_eq_some h
  obtain ⟨-, rfl⟩ := assert_some.mp hroom
  obtain ⟨_, _, hresolve, h⟩ := bind_eq_some h
  obtain ⟨hst, rfl⟩ := resolve_some.mp hresolve
  cases hk.symm.trans hst
  obtain ⟨_, _, hassert, h⟩ := bind_eq_some h
  obtain ⟨huncounted, rfl⟩ := assert_some.mp hassert
  obtain ⟨_, _, hset, h⟩ := bind_eq_some h
  obtain rfl := set_some.mp hset
  obtain ⟨st', hst', rfl⟩ := update_some.mp h
  cases hk.symm.trans hst'
  exact .single (.turn hk (.count (by simpa using huncounted) unopened)
    (.count false remote fun _ => processed))

theorem incNumRecvStreams_ends (hk : s.get? k = some st) :
    Ends s (Counts.incNumRecvStreams k) fun _ s' => s'.get? k = some { st with isCounted := true } := by
  refine Ends.get_bind (Ends.assert_bind fun _ => Ends.resolve_bind fun _ _ =>
    Ends.assert_bind fun _ => Ends.set_bind ?_)
  intro u s' h
  obtain ⟨st', hst', rfl⟩ := update_some.mp h
  cases hk.symm.trans hst'
  exact Inner.get?_put hk _ rfl

theorem countOpened_moves {frame : Headers} {isInitial : Bool} (hk : s.get? k = some st)
    (hid : k.streamId = frame.streamId) (below : k.streamId ≤ s.recv.maxStreamId)
    (admits : isInitial = true →
      K.processes k ∧ s.counts.role.isLocalInit k.streamId = false ∧ st.isPendingOpen = false ∧
        st.pendingSend = [] ∧ st.isSendingTrailer = false) :
    KeepsAt (Moves K) s (Recv.countOpened frame isInitial k) := by
  cases isInitial with
  | false => exact chains.pure _ s
  | true =>
    obtain ⟨hprocess, hremote, hunopened, -⟩ := admits rfl
    rw [Recv.countOpened, ← hid]
    refine chains.modify_bind (.single (.process hprocess below)) ?_
    exact incNumRecvStreams hk hremote hunopened (Nat.le_max_right _ _)

theorem countOpened_ends (hk : s.get? k = some st) (frame : Headers) (isInitial : Bool) :
    Ends s (Recv.countOpened frame isInitial k) fun _ s' =>
      ∃ b, s'.get? k = some { st with isCounted := b } := by
  cases isInitial with
  | false => exact Ends.pure ⟨st.isCounted, hk⟩
  | true =>
    refine Ends.modify_bind (Ends.mono (incNumRecvStreams_ends ?_) fun _ _ h => ⟨true, h⟩)
    exact hk

theorem countOpened_role {frame : Headers} {isInitial : Bool} :
    Ends s (Recv.countOpened frame isInitial k) fun _ s' => s'.counts.role = s.counts.role := by
  cases isInitial with
  | false => exact Ends.pure rfl
  | true =>
    refine Ends.modify_bind (Ends.get_bind (Ends.assert_bind fun _ => Ends.resolve_bind fun _ _ =>
      Ends.assert_bind fun _ => Ends.set_bind fun u s' h => ?_))
    obtain ⟨st', hst', rfl⟩ := update_some.mp h
    rfl

theorem countOpened_recorded {frame : Headers} {isInitial : Bool}
    (hid : k.streamId = frame.streamId) (first : s.counts.role.isServer = true → isInitial = true) :
    Ends s (Recv.countOpened frame isInitial k) fun _ s' =>
      s'.recv.maxStreamId = s.recv.maxStreamId ∧
        (s'.counts.role.isServer = true → k.streamId ≤ s'.recv.lastProcessedId) := by
  cases isInitial with
  | false => exact Ends.pure ⟨rfl, fun hserver => by simpa using first hserver⟩
  | true =>
    refine Ends.modify_bind (Ends.get_bind (Ends.assert_bind fun _ => Ends.resolve_bind fun _ _ =>
      Ends.assert_bind fun _ => Ends.set_bind ?_))
    intro u s' h
    obtain ⟨st', hst', rfl⟩ := update_some.mp h
    exact ⟨rfl, fun _ => hid ▸ Nat.le_max_right _ _⟩

omit [HeaderPlz] [StoreCrates] in
theorem recvOpen_idle [HeaderPlz] {state : State} {frame : Headers} {isInitial : Bool}
    (h : State.recvOpen .idle frame = .ok (isInitial, state)) : isInitial = true := by
  cases h
  rfl

omit [StoreCrates] in
theorem recvOpen_initial {state state' : State} {frame : Headers}
    (h : state.recvOpen frame = .ok (true, state')) : state = .idle ∨ state = .reservedRemote := by
  unfold State.recvOpen at h
  split at h <;> cases h
  · exact Or.inl rfl
  · exact Or.inr rfl

theorem openedHeaders {frame : Headers} {isInitial : Bool} {state : State} {s₁ : Inner}
    (hK : K.Receives k frame.isEndStream) (hK' : K.Listens s k st frame.streamId)
    (hopen : st.state.recvOpen frame = .ok (isInitial, state))
    (hs₁ : ∃ store, s₁ = { s with store := store }) (hk₁ : s₁.get? k = some { st with state := state }) :
    KeepsAt (Moves K) s₁ (do
      Recv.countOpened frame isInitial k
      Recv.checkedHeaders frame isInitial k) := by
  obtain ⟨store, rfl⟩ := hs₁
  refine chains.step fun u s₂ hcount => ⟨countOpened_moves hk₁ hK'.id hK'.below
    (fun hinitial => hK'.admits (recvOpen_initial (hinitial ▸ hopen))) _ _ hcount, ?_⟩
  obtain ⟨b, hk₂⟩ := countOpened_ends hk₁ frame isInitial _ _ hcount
  obtain ⟨hmax, hprocessed⟩ := countOpened_recorded hK'.id
    (fun hserver => recvOpen_idle (hK'.first hserver ▸ hopen)) _ _ hcount
  refine checkedHeaders hk₂ hK ⟨hK'.lists, hK'.unoffered, ?_, hprocessed⟩ isInitial
    (started_recvOpen hopen)
  rw [hmax]
  exact hK'.below

theorem recvHeaders {frame : Headers} (hK : K.Receives k frame.isEndStream)
    (hK' : K.Listens s k st frame.streamId) (hk : s.get? k = some st) :
    KeepsAt (Moves K) s (Recv.recvHeaders frame k) := by
  refine Chains.resolve_bind fun _ hst => ?_
  cases hk.symm.trans hst
  split
  · exact chains.pure _ s
  · rename_i isInitial state hopen
    have hturn : Turn K s.counts.role k .plain st { st with state := state } :=
      .recvOpen hK.recv frame isInitial state hopen hK'.fresh fun hend =>
        hK.ends (isEndStream_recvOpen hopen hend)
    exact chains.update_next hk rfl (turn hk hturn) fun s₁ hs₁ hk₁ =>
      openedHeaders hK hK' hopen hs₁ hk₁

theorem recvHeaders_kept {frame : Headers} {isInitial : Bool} {state : State} {P : State → Prop}
    (hK' : Scope.unborn.Listens s k st frame.streamId) (hk : s.get? k = some st)
    (hopen : st.state.recvOpen frame = .ok (isInitial, state)) (hP : P state)
    (hturn : ∀ role kind st st', Turn .unborn role k kind st st' → P st.state → P st'.state) :
    Ends s (Recv.recvHeaders frame k) fun _ s' => ∀ st, s'.get? k = some st → P st.state := by
  refine Ends.resolve_bind fun _ hst => ?_
  cases hk.symm.trans hst
  rw [hopen]
  refine Ends.update_next hk rfl fun s₁ hs₁ hk₁ a s' h => ?_
  have hmoves : Moves .unborn s₁ s' :=
    openedHeaders ⟨trivial, trivial, trivial, fun _ => trivial⟩ hK' hopen hs₁ hk₁ _ _ h
  refine hmoves.kept hturn fun st' hk' => ?_
  cases hk₁.symm.trans hk'
  exact hP

theorem deliverHeaders_rejected (frame : Headers) (k : Key) :
    Ends s (Recv.deliverHeaders frame k) fun res s' =>
      ∀ e, res = .error e → s' = s ∧ ∃ e', e = .state e' := by
  refine Ends.get_bind ?_
  split
  · exact Ends.pure (by simp)
  · refine Ends.lift_bind fun res _ => ?_
    split
    · refine Ends.pure fun e he => ?_
      cases he
      exact ⟨rfl, _, rfl⟩
    · refine Ends.bind fun _ s₁ _ => ?_
      split
      · exact Ends.bind fun _ _ _ => Ends.pure (by simp)
      · exact Ends.bind fun _ _ _ => Ends.bind fun _ _ _ => Ends.pure (by simp)

structure Answered (s : Inner) (k : Key) (isInitial : Bool) (resp : Headers) : Prop where
  isServer : s.counts.role.isServer = true
  initial : isInitial = true
  id : k.streamId = resp.streamId

theorem checkedHeaders_rejected (hk : s.get? k = some st) (frame : Headers) (isInitial : Bool) :
    Ends s (Recv.checkedHeaders frame isInitial k) fun res s' => ∀ e, res = .error e →
      (∃ c, s'.get? k = some { st with contentLength := c }) ∧
        ∀ resp, e = .oversize (some resp) → Answered s' k isInitial resp := by
  refine Ends.resolve_bind fun st' hst' => Ends.bind fun res s₁ hparse => ?_
  have hk₁ : ∃ c, s₁.get? k = some { st with contentLength := c } :=
    (parseContentLength_ends hk frame _ _ hparse).1
  cases res with
  | error e =>
    refine Ends.pure fun e' he => ⟨hk₁, fun resp hresp => ?_⟩
    rw [hresp] at he
    cases he
  | ok u =>
    refine Ends.get_bind ?_
    dsimp only
    split
    · refine Ends.pure fun e he => ⟨hk₁, fun resp hresp => ?_⟩
      cases he
      simp only [RecvHeaderBlockError.oversize.injEq, Recv.oversizeResponse] at hresp
      split at hresp
      · rename_i hserver
        cases hresp
        rw [Bool.and_eq_true] at hserver
        exact ⟨hserver.1, hserver.2, (Store.get_id hst').symm⟩
      · cases hresp
    · split
      · refine Ends.pure fun e he => ⟨hk₁, fun resp hresp => ?_⟩
        rw [hresp] at he
        cases he
      · refine (deliverHeaders_rejected frame k).mono fun res s' h e he => ?_
        obtain ⟨rfl, e', rfl⟩ := h e he
        exact ⟨hk₁, by simp⟩

/-- A header block that is rejected leaves the stream open, or ended without a message. -/
theorem recvHeaders_rejected {isInitial : Bool} {state : State} (hk : s.get? k = some st)
    (frame : Headers) (hopen : st.state.recvOpen frame = .ok (isInitial, state)) :
    Ends s (Recv.recvHeaders frame k) fun res s' => ∀ e, res = .error e →
      (∃ b c, s'.get? k = some { st with state := state, isCounted := b, contentLength := c }) ∧
        ∀ resp, e = .oversize (some resp) → Answered s' k isInitial resp := by
  refine Ends.resolve_bind fun _ hst => ?_
  cases hk.symm.trans hst
  simp only [hopen]
  refine Ends.update_next hk rfl fun s₁ _ hk₁ => Ends.bind fun _ s₂ hcount => ?_
  obtain ⟨b, hk₂⟩ := countOpened_ends hk₁ frame isInitial _ _ hcount
  refine (checkedHeaders_rejected hk₂ frame isInitial).mono fun res s' h e he => ?_
  obtain ⟨⟨c, hk'⟩, hserver⟩ := h e he
  exact ⟨⟨b, c, hk'⟩, hserver⟩

theorem recvTrailers (hK : K.Receives k true) (frame : Headers) :
    Keeps (Moves K) (Recv.recvTrailers frame k) := by
  intro s
  refine Chains.resolve_bind fun st hk => ?_
  split
  · exact chains.pure _ s
  · rename_i state hclose
    refine chains.update_next hk rfl (turn hk (.recvClose (hK.ends rfl) state hclose)) fun s₁ _ hk₁ => ?_
    split
    · exact chains.pure _ _
    · refine .bind chains.trans (pushBackRecv hK.recv hk₁ (Or.inr (isRecvEndStream_recvClose hclose)) _) fun _ => ?_
      exact chains.bind (moveFromPendingComplete hK.turn hK.offers) fun _ => chains.pure _

/-! RST_STREAM. -/

theorem countRemoteReset_ends (hk : s.get? k = some st) :
    Ends s (Recv.countRemoteReset k) fun res s' => match res with
      | .ok () => (st.isPendingAccept = false ∧ s' = s) ∨
          (st.isPendingAccept = true ∧ s' = { s with
            counts := { s.counts with numRemoteResetStreams := s.counts.numRemoteResetStreams + 1 } })
      | .error _ => s' = s := by
  refine Ends.resolve_bind fun _ hst => ?_
  cases hk.symm.trans hst
  refine Ends.get_bind ?_
  split
  · rename_i hout
    exact Ends.pure (Or.inl ⟨by simpa using hout, rfl⟩)
  · rename_i hin
    split
    · refine Ends.bind fun u s₁ hinc => Ends.pure (Or.inr ⟨by simpa using hin, ?_⟩)
      obtain ⟨_, _, hget, hinc⟩ := bind_eq_some hinc
      obtain ⟨rfl, rfl⟩ := get_some.mp hget
      obtain ⟨_, _, hassert, hinc⟩ := bind_eq_some hinc
      obtain ⟨-, rfl⟩ := assert_some.mp hassert
      exact set_some.mp hinc
    · exact Ends.pure rfl

def Exact (st : Stream) : Prop :=
  st.state.isRemoteReset = false ∧ (st.state.isClosed = false ∨ st.isPendingSend = true)

theorem recvReset (hturn : K.turn k) (hK : K.closes k) (hK' : K.offers) (frame : Reset)
    (hexact : ∀ st, s.get? k = some st → st.isPendingAccept = true → Exact st ∨ K.leaks) :
    KeepsAt (Moves K) s (Recv.recvReset frame k) := by
  intro res s' h
  obtain ⟨res₁, s₁, hcount, h⟩ := bind_eq_some h
  have hresolve : ∃ st, s.get? k = some st := by
    obtain ⟨st, _, hst, -⟩ := bind_eq_some hcount
    exact ⟨st, (resolve_some.mp hst).1⟩
  obtain ⟨st, hk⟩ := hresolve
  have hcounted := countRemoteReset_ends hk _ _ hcount
  cases res₁ with
  | error e =>
    cases h
    rw [show s' = s from hcounted]
    exact .refl _
  | ok u =>
    obtain ⟨_, s₂, hup, h⟩ := bind_eq_some h
    have hfirst : Moves K s s₂ := by
      rcases hcounted with ⟨hout, rfl⟩ | ⟨hin, rfl⟩
      · obtain ⟨st', hst', rfl⟩ := update_some.mp hup
        cases hk.symm.trans hst'
        exact turn hk (.remoteReset hK frame (Or.inl ⟨rfl, hout⟩))
      · obtain ⟨st', hst', rfl⟩ := update_some.mp hup
        cases hk.symm.trans hst'
        exact .single (.turn hk (.remoteReset hK frame (Or.inr ⟨rfl, hin⟩))
          (.takeBack (hexact st hk hin)))
    refine hfirst.trans (chains.bind (moveFromPendingComplete hturn hK') (fun _ =>
      chains.bind (update fun _ _ _ => .notify hturn) fun _ => chains.pure _) _ _ _ h)

theorem enqueueResetExpiration (k : Key) : Keeps (Moves K) (Recv.enqueueResetExpiration k) := by
  intro s
  refine Chains.resolve_bind fun st hk => .get_bind ?_
  split
  · exact chains.pure _ s
  · rename_i hfresh
    simp only [Bool.or_eq_true, Bool.not_eq_true', not_or, Bool.not_eq_false, Bool.not_eq_true] at hfresh
    split
    · intro u s' h
      obtain ⟨_, s₁, hinc, h⟩ := bind_eq_some h
      obtain ⟨_, _, hget, hinc⟩ := bind_eq_some hinc
      obtain ⟨rfl, rfl⟩ := get_some.mp hget
      obtain ⟨_, _, hassert, hinc⟩ := bind_eq_some hinc
      obtain ⟨-, rfl⟩ := assert_some.mp hassert
      obtain rfl := set_some.mp hinc
      obtain ⟨b, s₂, hcounted, h⟩ := bind_eq_some h
      cases h
      obtain ⟨s₃, hpush, rfl⟩ := push_with_counts hcounted
      obtain ⟨st', hst', ⟨-, hq, -⟩ | ⟨rfl, -⟩⟩ := push_some hpush
      · cases hk.symm.trans hst'
        exact absurd hq (by simpa [Stream.isQueued, Stream.isPendingResetExpiration] using hfresh.2)
      · exact .single (.push hpush hk (fun hno => by cases hno) (.expire hfresh.1))
    · exact chains.pure _ s

/-! SETTINGS. -/

theorem applyLocalSettings (settings : Settings) :
    Keeps (Moves K) (Recv.applyLocalSettings settings) := by
  have hadjust : ∀ f : FlowControl → Except Nat FlowControl, (∀ a b, f a = .ok b → b.InRange) →
      ∀ u k, Keeps (Moves K) (Recv.adjustWindow f u k) := by
    intro f hf u k
    refine chains.bind (chains.resolve _) fun st => ?_
    split
    · exact chains.pure _
    · rename_i flow hflow
      exact chains.bind (update fun _ _ _ => .calm _ _ _ _ _ fun _ => hf _ _ hflow) fun _ => chains.pure _
  refine chains.bind (modified fun _ => .of_beside (by rfl)) fun _ => ?_
  split
  · exact chains.pure _
  · refine .get_bind fun s => .bind chains.trans (.set (aside (.of_beside (by rfl)))) fun _ => ?_
    split
    · exact chains.tryForEach (hadjust _ fun _ _ => FlowControl.inRange_decWindow) _
    · exact .ite (chains.tryForEach (hadjust _ fun _ _ => FlowControl.inRange_incWindow) _) (chains.pure _)

theorem goAway {id : Nat} (hK : K.limits id)
    (hid : s.recv.maxStreamId ≤ id ∨ s.recv.lastProcessedId ≤ id) : KeepsAt (Moves K) s (Recv.goAway id) :=
  .get_bind (Chains.assert_bind fun hle => .set (.single (.limit id hK (by simpa using hle) hid)))

theorem recvClearStreamQueue_eq {s' : Inner} {u : Unit} (hk : s.get? k = some st)
    (h : Recv.clearStreamQueue k s = some (u, s')) :
    s' = s ∨ ∃ buffer, s' = { s.put k { st with pendingRecv := [] } with recv.buffer := buffer } := by
  obtain ⟨_, _, hresolve, h⟩ := bind_some.mp h
  obtain ⟨hst, rfl⟩ := resolve_some.mp hresolve
  cases hk.symm.trans hst
  rcases when_some.mp h with ⟨-, h⟩ | ⟨-, rfl⟩
  · simp only [M.drainRecv, bind_some, resolve_some, update_some, modify_some, pure_some] at h
    obtain ⟨_, _, ⟨_, _, ⟨hst', rfl⟩, _, _, ⟨st₁, hst₁, rfl⟩, _, _, rfl, -, rfl⟩, -, rfl⟩ := h
    cases hk.symm.trans hst₁
    exact Or.inr ⟨_, rfl⟩
  · exact Or.inl rfl

theorem handleErrors (hturn : K.turn k) (hK : K.closes k) {err : ProtoError}
    (own : ∀ id reason, err ≠ ProtoError.remoteReset id reason) :
    Keeps (Moves K) (do
      Recv.handleError err k
      Send.handleError k) := by
  intro s u s' h
  obtain ⟨_, s₁, hrecv, h⟩ := bind_eq_some h
  obtain ⟨_, s₂, hclear, hreclaim⟩ := bind_eq_some h
  refine Moves.trans ?_ (reclaimAllCapacity _ _ _ _ hreclaim)
  obtain ⟨_, s₃, hup, hrecv⟩ := bind_eq_some hrecv
  obtain ⟨_, s₄, hdrain, hnotify⟩ := bind_eq_some hrecv
  obtain ⟨st, hk, rfl⟩ := update_some.mp hup
  have hk₃ := Inner.get?_put hk { st with state := st.state.handleError err } rfl
  -- as moves, the send queue is cleared first
  have hfail : Moves K s _ := turn hk (.fail hK err own)
  have hkf := Inner.get?_put hk
    { st with state := st.state.handleError err, pendingSend := [], remainingDataLen := none } rfl
  rcases recvClearStreamQueue_eq hk₃ hdrain with rfl | ⟨buffer, rfl⟩
  · obtain ⟨st₄, hk₄, rfl⟩ := update_some.mp hnotify
    cases hk₃.symm.trans hk₄
    have hk₁ := Inner.get?_put hk₃ (Stream.notifyRecv { st with state := st.state.handleError err }) rfl
    rw [clearStreamQueue_eq hclear hk₁]
    have hnotified := hfail.trans (turn hkf (.notify hturn))
    simp only [Inner.put, Store.set_set hk] at hnotified ⊢
    exact hnotified.trans (aside (.of_beside rfl))
  · have hk₄' := Inner.get?_put hk₃ { st with state := st.state.handleError err, pendingRecv := [] } rfl
    obtain ⟨st₄, hk₄, rfl⟩ := update_some.mp hnotify
    cases hk₄'.symm.trans hk₄
    have hk₁ := Inner.get?_put hk₄'
      (Stream.notifyRecv { st with state := st.state.handleError err, pendingRecv := [] }) rfl
    rw [clearStreamQueue_eq hclear hk₁]
    have hover : (st.state.handleError err).isRecvStreaming = false :=
      State.isRecvStreaming_of_closed (State.isClosed_handleError _ _)
    have hkd := Inner.get?_put hkf { st with
      state := st.state.handleError err, pendingSend := [], remainingDataLen := none, pendingRecv := [] } rfl
    have hnotified := (hfail.trans (turn hkf (.drainRecv hturn (Or.inr (Or.inl hover))))).trans
      (turn hkd (.notify hturn))
    simp only [Inner.put, Store.set_set hk] at hnotified ⊢
    exact hnotified.trans (aside (.of_beside rfl))

omit [HeaderPlz] [StoreCrates] in
theorem nextLe_nextId {next id : Nat} (h : next ≤ id) : NextLe (some next) (StreamId.nextId id) := by
  unfold StreamId.nextId
  split
  · trivial
  · exact Nat.le_trans h (Nat.le_add_right id 2)

theorem canOpen (id : Nat) : Keeps (Moves K) (Recv.canOpen id) := by
  refine .get_bind fun s => .read_bind (fun _ _ h => (assert_some.mp h).2.symm) fun _ => ?_
  split
  · exact chains.pure _ s
  · exact chains.pure _ s
  · rename_i nextId hrole hnext
    split
    · exact chains.pure _ s
    · rename_i hle
      have hnextLe : NextLe s.recv.nextStreamId (StreamId.nextId id) := by
        rw [hnext]
        exact nextLe_nextId (Nat.le_of_not_lt hle)
      have hserver : s.counts.role.isServer = true := by
        cases hserver : s.counts.role with
        | server => rfl
        | client =>
          rw [hserver] at hrole
          cases hrole
      refine chains.modify_bind (aside { Aside.refl _ with nextRecv := hnextLe, even := by simp [hserver] }) ?_
      split
      · exact chains.bind (modified fun _ => .of_beside (by rfl)) (fun _ => chains.pure _) _
      · exact chains.pure _ _

/-! Resets that expire. -/

def Beside (k : Key) (s s' : Inner) : Prop :=
  (∀ j, j ≠ k → s'.get? j = s.get? j) ∧
    ∀ st', s'.get? k = some st' → ∃ st, s.get? k = some st ∧ st' = { st with isCounted := st'.isCounted }

theorem Beside.of_store {s s' : Inner} (h : s'.store.slab = s.store.slab) : Beside k s s' := by
  have hget : ∀ j, s'.get? j = s.get? j := fun j => by simp only [Inner.get?, Store.get, h]
  exact ⟨fun j _ => hget j, fun st' hk' => ⟨st', hget k ▸ hk', rfl⟩⟩

theorem beside_chains : Chains (Beside k) where
  refl _ := .of_store rfl
  trans s₁ s₂ s₃ h h' := by
    refine ⟨fun j hj => (h'.1 j hj).trans (h.1 j hj), fun st' hk' => ?_⟩
    obtain ⟨st₂, hk₂, hsame₂⟩ := h'.2 st' hk'
    obtain ⟨st, hk, hsame⟩ := h.2 st₂ hk₂
    refine ⟨st, hk, ?_⟩
    rw [hsame] at hsame₂
    exact hsame₂

theorem retire_beside (k : Key) (b : Bool) : Keeps (Beside k) (Counts.retire k b) := by
  refine beside_chains.bind (beside_chains.resolve _) fun st => beside_chains.bind (beside_chains.when _
    (beside_chains.bind (.modify fun _ => .of_store rfl) fun _ => beside_chains.when _
      (Chains.checked fun _ => .of_store rfl))) fun _ => beside_chains.when _ ?_
  intro s u s' h
  have hresolve : ∃ st, s.get? k = some st := by
    obtain ⟨st, _, hst, -⟩ := bind_eq_some h
    exact ⟨st, (resolve_some.mp hst).1⟩
  obtain ⟨st, hk⟩ := hresolve
  obtain ⟨-, -, rfl⟩ := decNumStreams_some hk h
  refine ⟨fun j hj => Inner.get?_put_ne hk rfl hj, fun st' hk' => ⟨st, hk, ?_⟩⟩
  have hself := Inner.get?_put hk { st with isCounted := false } rfl
  cases hself.symm.trans hk'
  rfl

theorem transitionAfter_beside (k : Key) (b : Bool) : Keeps (Beside k) (Counts.transitionAfter k b) := by
  refine beside_chains.bind (beside_chains.resolve _) fun _ => beside_chains.bind
    (beside_chains.when _ (retire_beside k b)) fun _ s => Chains.resolve_bind fun st hk => fun u s' h => ?_
  rcases when_some.mp h with ⟨-, h⟩ | ⟨-, rfl⟩
  · obtain ⟨store, hremove, heq⟩ := Option.map_eq_some_iff.mp h
    cases heq
    obtain rfl := Store.remove_eq_some hremove
    refine ⟨fun j hj => Store.get_vacate_ne hk hj, fun st' hk' => ?_⟩
    have hnone := Store.get_vacate_self hk
    cases hnone.symm.trans hk'
  · exact beside_chains.refl _

theorem retire_expired {s' : Inner} {u : Unit} (hk : s.get? k = some st) (hout : st.resetAt = none)
    (h : Counts.retire k true s = some (u, s')) :
    0 < s.counts.numLocalResetStreams ∧ Counts.retire k false { s with
      counts := { s.counts with numLocalResetStreams := s.counts.numLocalResetStreams - 1 } } =
        some (u, s') := by
  obtain ⟨_, _, hresolve, h⟩ := bind_eq_some h
  obtain ⟨hst, rfl⟩ := resolve_some.mp hresolve
  cases hk.symm.trans hst
  obtain ⟨_, s₁, hunlink, h⟩ := bind_eq_some h
  have hpending : st.isPendingResetExpiration = false := by simp [Stream.isPendingResetExpiration, hout]
  rcases when_some.mp hunlink with ⟨-, hunlink⟩ | ⟨hno, -⟩
  · obtain ⟨_, _, hmodify, hdec⟩ := bind_eq_some hunlink
    cases hmodify
    rcases when_some.mp hdec with ⟨-, hdec⟩ | ⟨hno, -⟩
    · obtain ⟨_, _, hget, hdec⟩ := bind_eq_some hdec
      obtain ⟨rfl, rfl⟩ := get_some.mp hget
      obtain ⟨_, _, hassert, hdec⟩ := bind_eq_some hdec
      obtain ⟨hpos, rfl⟩ := assert_some.mp hassert
      obtain rfl := set_some.mp hdec
      refine ⟨of_decide_eq_true hpos, ?_⟩
      refine bind_some.mpr ⟨st, _, resolve_some.mpr ⟨hk, rfl⟩, bind_some.mpr ⟨u, _, ?_, h⟩⟩
      refine when_some.mpr (Or.inl ⟨by simp [hpending], ?_⟩)
      exact bind_some.mpr ⟨_, _, rfl, when_some.mpr (Or.inr ⟨rfl, rfl⟩)⟩
    · cases hno
  · simp [hpending] at hno

theorem expired {s₁ s' : Inner} {u : Unit} (hK : K.expires)
    (hpop : M.pop .resetExpire s = some (some k, s₁))
    (hclosed : ∀ st, s.get? k = some st → st.isClosed = true ∨ K.leaks)
    (h : Counts.transitionAfter k true s₁ = some (u, s')) : Moves K s s' := by
  rcases pop_some hpop with ⟨hno, -⟩ | ⟨_, st, tail, hsome, hk, -, hf⟩
  · cases hno
  cases hsome
  obtain ⟨key, hk₁⟩ := hf.get_self hk
  have hcounts := pop_counts hpop
  obtain ⟨_, _, hresolve, h⟩ := bind_eq_some h
  obtain ⟨hst, rfl⟩ := resolve_some.mp hresolve
  cases hk₁.symm.trans hst
  obtain ⟨_, s₂, hretire, h⟩ := bind_eq_some h
  cases hcl : st.isClosed with
  | true =>
    rcases when_some.mp hretire with ⟨-, hretire⟩ | ⟨hno, -⟩
    · obtain ⟨hpos, hretire⟩ := retire_expired hk₁ rfl hretire
      rw [hcounts] at hpos hretire
      have hpopped : Move K s _ := .pop hpop hk nofun (.expired hK hcl hpos)
      refine .step hpopped (transitionAfter (k := k) (b := false) (by simp) u s' ?_)
      exact bind_some.mpr ⟨_, _, resolve_some.mpr ⟨hk₁, rfl⟩,
        bind_some.mpr ⟨_, _, when_some.mpr (Or.inl ⟨hcl, hretire⟩), h⟩⟩
    · have hno : st.isClosed = false := hno
      exact absurd hcl (by simp [hno])
  | false =>
    have hleak : K.leaks := (hclosed st hk).resolve_left (by simp [hcl])
    have hstay : s' = s₁ := by
      rcases when_some.mp hretire with ⟨hno, -⟩ | ⟨-, rfl⟩
      · have hno : st.isClosed = true := hno
        exact absurd hcl (by simp [hno])
      · obtain ⟨_, _, hresolve, h⟩ := bind_eq_some h
        obtain ⟨hst, rfl⟩ := resolve_some.mp hresolve
        cases hk₁.symm.trans hst
        rcases when_some.mp h with ⟨hreleased, -⟩ | ⟨-, rfl⟩
        · have hreleasedClosed := Stream.isClosed_of_isReleased hreleased
          have hno : st.isClosed = true := hreleasedClosed
          exact absurd hcl (by simp [hno])
        · rfl
    subst hstay
    have hpopped : Move K s { s' with counts := s.counts } := .pop hpop hk nofun (.lapsed hK hleak)
    rw [← hcounts] at hpopped
    exact .single hpopped

theorem recvClearQueues (hK : K.expires) (hK' : K.leaks) (b : Bool) :
    Keeps (Moves K) (Recv.clearQueues b) := by
  refine chains.bind (clearQueue fun s k s₁ u s' hpop h => ?_) fun _ =>
    chains.bind (clearQueue fun s k s₁ u s' hpop h => ?_) fun _ =>
      chains.when _ (clearQueue fun s k s₁ u s' hpop h => ?_)
  · exact expired hK hpop (fun _ _ => Or.inr hK') h
  · exact .step (popped (by decide) hpop nofun) (transitionAfter (by simp) _ _ h)
  · rcases pop_some hpop with ⟨hno, -⟩ | ⟨_, st, tail, hsome, hk, -⟩
    · cases hno
    cases hsome
    have hpopped : Move K s { s₁ with counts := s.counts } := .pop hpop hk nofun (.accept (Or.inr hK'))
    rw [← pop_counts hpop] at hpopped
    exact .step hpopped (transitionAfter (by simp) _ _ h)

def ExpiresClosed (s : Inner) (now duration : Nat) : Prop :=
  ∀ k st, s.get? k = some st → Recv.isExpired now duration st = true → st.isClosed = true

theorem clearExpiredLoop (hK : K.expires) {now duration : Nat} (n : Nat)
    (hs : ExpiresClosed s now duration ∨ K.leaks) :
    KeepsAt (Moves K) s (Recv.clearExpiredLoop now duration n) := by
  induction n generalizing s with
  | zero => exact Chains.abort s
  | succ n ih =>
    intro u s' hloop
    obtain ⟨o, s₁, hpop, h⟩ := bind_eq_some hloop
    rcases popIf_some hpop with ⟨rfl, rfl, -⟩ | ⟨k, st, tail, rfl, hk, hexpired, -, hpop⟩
    · cases h
      exact .refl _
    · obtain ⟨_, s₂, hafter, h⟩ := bind_eq_some h
      have hfirst : Moves K s s₂ := by
        refine expired hK hpop (fun st' hk' => ?_) hafter
        cases hk.symm.trans hk'
        exact hs.imp_left fun hclosed => hclosed k st hk hexpired
      refine hfirst.trans (ih (hs.imp_left fun hclosed j stj hj hjexp => ?_) _ _ h)
      rcases pop_some hpop with ⟨hno, -⟩ | ⟨_, _, _, hsome, hk', -, hf⟩
      · cases hno
      cases hsome
      obtain ⟨hother, hself⟩ := transitionAfter_beside k true _ _ _ hafter
      by_cases hjk : j = k
      · subst hjk
        obtain ⟨st₁, hk₁, hsame⟩ := hself stj hj
        obtain ⟨key, hpopped⟩ := hf.get_self hk
        cases hk₁.symm.trans hpopped
        rw [hsame] at hjexp
        cases hjexp
      · rw [hother j hjk] at hj
        obtain ⟨st₀, key, hst₀, rfl⟩ := hf.get_inv hj
        rw [if_neg hjk] at hjexp ⊢
        exact hclosed j st₀ hst₀ hjexp

theorem clearExpiredResetStreams (hK : K.expires)
    (hs : ExpiresClosed s s.now s.recv.resetDuration ∨ K.leaks) :
    KeepsAt (Moves K) s Recv.clearExpiredResetStreams := by
  refine .get_bind fun u s' h => ?_
  rcases when_some.mp h with ⟨-, h⟩ | ⟨-, rfl⟩
  · exact clearExpiredLoop hK _ hs _ _ h
  · exact .refl _

/-! Messages. -/

theorem recvClearStreamQueue (hK : K.turn k) (hK' : K.takes k) :
    Keeps (Moves K) (Recv.clearStreamQueue k) :=
  chains.bind (chains.resolve _) fun _ => chains.when _ (chains.bind
    (fun _ => drainRecv hK fun _ _ => Or.inr (Or.inr hK')) fun _ => chains.pure _)

theorem takeRequest (hK : K.turn k ∧ K.takes k) : Keeps (Moves K) (Recv.takeRequest k) := by
  refine chains.bind (fun s => drainRecv hK.1 fun _ _ => Or.inr (Or.inr hK.2)) fun events => ?_
  split
  · exact chains.bind (chains.lift _) fun _ => chains.pure _
  · exact Chains.abort

theorem takeResponse (hK : K.turn k)
    (finished : ∀ st, s.get? k = some st → st.state.isRecvStreaming = false ∨ K.takes k) :
    KeepsAt (Moves K) s (Recv.takeResponse k) := by
  refine .bind chains.trans (drainRecv hK fun st hk => Or.inr (finished st hk)) fun events => ?_
  split
  · exact chains.pure _
  · exact chains.bind (chains.lift _) fun _ => chains.pure _
  · exact Chains.abort

theorem pollResponse (hK : K.turn k) (waker : Waker) : Keeps (Moves K) (Recv.pollResponse waker k) := by
  intro s
  refine Chains.resolve_bind fun st hk => ?_
  have hover : ∀ {st'}, s.get? k = some st' → st.state.isRecvStreaming = false →
      st'.state.isRecvStreaming = false ∨ K.takes k := fun hk' hst => by
    cases hk.symm.trans hk'
    exact Or.inl hst
  split
  · rename_i hend
    refine .bind chains.trans (takeResponse hK fun _ hk' => hover hk' (State.isRecvStreaming_of_ended hend))
      fun res => ?_
    split <;> exact chains.pure _
  · rename_i hend
    split
    · rename_i e herr
      exact .bind chains.trans (takeResponse hK fun _ hk' => hover hk' (State.isRecvStreaming_of_error herr))
        fun _ => chains.pure _
    · rename_i b hopen
      refine chains.update_bind hk (turn hk (.park hK waker b (by simpa using hend) hopen)) ?_
      exact chains.pure _ _

end Moves

end TwoPlz
