import TwoPlz.Streams.RecvMoves

/-! Frames, errors and handles as moves. -/

namespace TwoPlz

variable [HeaderPlz] [StoreCrates]

theorem nextStreamIdOf_read (id : Nat) : Keeps (fun s s' => s' = s) (Actions.nextStreamIdOf id) :=
  Chains.same.bind (Chains.same.isLocalInit _) fun _ => Chains.same.bind Chains.same.get fun _ =>
    Chains.same.pure _

theorem ensureNotIdle_read (id : Nat) : Keeps (fun s s' => s' = s) (Actions.ensureNotIdle id) := by
  refine Chains.same.bind (nextStreamIdOf_read _) fun o => ?_
  split <;> exact Chains.same.pure _

theorem isForgottenStream_read (id : Nat) :
    Keeps (fun s s' => s' = s) (Actions.isForgottenStream id) := by
  unfold Actions.isForgottenStream
  split
  · exact Chains.same.pure _
  · refine Chains.same.bind (nextStreamIdOf_read _) fun o => ?_
    split
    · exact Chains.same.bind (Chains.same.debugAssert _) fun _ => Chains.same.pure _
    · exact Chains.same.pure _

theorem isForgottenByClient_read (id : Nat) :
    Keeps (fun s s' => s' = s) (Inner.isForgottenByClient id) :=
  Chains.same.bind Chains.same.get fun _ => .ite (Chains.same.pure _) (isForgottenStream_read _)

/-! The errors that a frame other than RST_STREAM leads to. -/

def OwnError {α : Type} (res : Except ProtoError α) : Prop :=
  ∀ id reason, res ≠ .error (ProtoError.remoteReset id reason)

section

omit [HeaderPlz] [StoreCrates]

theorem OwnError.ok {α : Type} (a : α) : OwnError (.ok a : Except ProtoError α) := by
  intro id reason h
  cases h

theorem OwnError.goAway {α : Type} (data : Bytes) (reason : Nat) (initiator : Initiator) :
    OwnError (.error (.goAway data reason initiator) : Except ProtoError α) := by
  intro id reason h
  cases h

theorem OwnError.libraryReset {α : Type} (id reason : Nat) :
    OwnError (.error (ProtoError.libraryReset id reason) : Except ProtoError α) := by
  intro id reason h
  cases h

theorem OwnError.mapError {α ε : Type} {f : ε → ProtoError} (hf : ∀ e id reason, f e ≠ .reset id reason .remote)
    (res : Except ε α) : OwnError (res.mapError f) := by
  intro id reason h
  cases res with
  | ok a => cases h
  | error e => exact hf e id reason (Except.error.inj h)

end

theorem Recv.decConnectionWindow_own (size : Nat) : Yields OwnError (Recv.decConnectionWindow size) := by
  refine .bind_any fun s => ?_
  split
  · exact .pure (.goAway _ _ _)
  · split
    · exact .pure (.goAway _ _ _)
    · exact .bind_any fun _ => .pure (.ok _)

omit [HeaderPlz] [StoreCrates] in
theorem State.recvClose_own (state : State) : OwnError state.recvClose := by
  cases state <;> first | exact .ok _ | exact .goAway _ _ _

theorem Recv.recvStreamData_own (frame : Data) (size : Nat) (k : Key) :
    Yields OwnError (Recv.recvStreamData frame size k) := by
  refine .bind_any fun st => ?_
  dsimp only
  split
  · exact .pure (.libraryReset _ _)
  · split
    · exact .pure (.libraryReset _ _)
    · refine .bind_any fun _ => ?_
      split
      · exact .pure (.libraryReset _ _)
      · split
        · exact .pure (.goAway _ _ _)
        · refine .bind_any fun _ => ?_
          split
          · exact .pure (.goAway _ _ _)
          · refine .bind_any fun _ => .bind_any fun _ => .bind_any fun s => ?_
            split
            · exact .bind_any fun _ => .pure (.libraryReset _ _)
            · split
              · exact .bind_any fun _ => .pure (.ok _)
              · exact .bind_any fun _ => .pure (.ok _)

theorem Recv.recvData_own (frame : Data) (k : Key) : Yields OwnError (Recv.recvData frame k) := by
  refine .bind_any fun _ => .bind (Recv.decConnectionWindow_own _) fun res hres => ?_
  split
  · exact .pure hres
  · refine .bind_any fun _ => .bind_any fun st => ?_
    split
    · exact .pure (.goAway _ _ _)
    · split
      · exact .pure (.ok _)
      · exact Recv.recvStreamData_own _ _ _

theorem Recv.recvTrailers_own (frame : Headers) (k : Key) :
    Yields OwnError (Recv.recvTrailers frame k) := by
  refine .bind_any fun st => ?_
  have hclose := State.recvClose_own st.state
  split
  · rename_i e he
    rw [he] at hclose
    exact .pure fun id reason h => hclose id reason (congrArg Except.error (Except.error.inj h))
  · refine .bind_any fun _ => ?_
    split
    · exact .pure (.libraryReset _ _)
    · exact .bind_any fun _ => .bind_any fun _ => .pure (.ok _)

omit [StoreCrates] in
theorem State.recvOpen_own (state : State) (frame : Headers) : OwnError (state.recvOpen frame) := by
  unfold State.recvOpen
  dsimp only
  split
  · exact .ok _
  · exact .ok _
  · exact .ok _
  · exact .ok _
  · exact .goAway _ _ _

omit [StoreCrates] in
theorem Role.convertPollMessage_own {role : Role} {pseudo : Pseudo} {fields : HeaderMap} {id : Nat}
    {res : Except ProtoError PollMessage} (h : role.convertPollMessage pseudo fields id = some res) :
    OwnError res := by
  cases res with
  | ok message => exact .ok _
  | error e =>
    rw [Role.convertPollMessage_error h]
    exact .libraryReset _ _

theorem Recv.parseContentLength_own (frame : Headers) (k : Key) :
    Yields OwnError (Recv.parseContentLength frame k) := by
  refine .bind_any fun st => ?_
  split
  · exact .pure (.ok _)
  · split
    · exact .pure (.ok _)
    · split
      · exact .pure (.libraryReset _ _)
      · refine .bind_any fun _ => ?_
        split
        · exact .pure (.libraryReset _ _)
        · exact .pure (.ok _)

def OwnState (res : Except RecvHeaderBlockError Unit) : Prop :=
  ∀ e, res = .error (.state e) → OwnError (.error e : Except ProtoError Unit)

omit [StoreCrates] in
theorem OwnState.ok (u : Unit) : OwnState (.ok u) := by
  intro e h
  cases h

omit [StoreCrates] in
theorem OwnState.state {α : Type} {e : ProtoError} (h : OwnError (.error e : Except ProtoError α)) :
    OwnState (.error (.state e)) := by
  intro e' he'
  cases he'
  exact fun id reason he => h id reason (congrArg Except.error (Except.error.inj he))

theorem Recv.deliverHeaders_own (frame : Headers) (k : Key) :
    Yields OwnState (Recv.deliverHeaders frame k) := by
  refine .bind_any fun s => ?_
  split
  · exact .pure (.ok _)
  · refine .bind (P := OwnError) (fun s₁ res s₂ h => ?_) fun res hres => ?_
    · exact Role.convertPollMessage_own (M.lift_some.mp h).1
    · split
      · exact .pure (.state hres)
      · refine .bind_any fun _ => ?_
        split
        · exact .bind_any fun _ => .pure (.ok _)
        · exact .bind_any fun _ => .bind_any fun _ => .pure (.ok _)

theorem Recv.recvHeaders_own (frame : Headers) (k : Key) : Yields OwnState (Recv.recvHeaders frame k) := by
  refine .bind_any fun st => ?_
  have hopen := State.recvOpen_own st.state frame
  split
  · rename_i e he
    rw [he] at hopen
    exact .pure (.state hopen)
  · refine .bind_any fun _ => .bind_any fun _ => .bind_any fun _ =>
      .bind (Recv.parseContentLength_own _ _) fun res hres => ?_
    split
    · exact .pure (.state hres)
    · refine .bind_any fun s => ?_
      dsimp only
      split
      · refine .pure fun e he => ?_
        cases he
      · split
        · exact .pure (.state (.libraryReset (α := Unit) _ _))
        · exact Recv.deliverHeaders_own _ _

theorem Inner.recvHeaderBlock_own (frame : Headers) (k : Key) :
    Yields OwnError (Inner.recvHeaderBlock frame k) := by
  refine .bind (Recv.recvHeaders_own _ _) fun res hres => ?_
  split
  · exact .pure (.ok _)
  · exact .bind_any fun _ => .pure (.ok _)
  · exact .bind_any fun _ => .pure (.libraryReset _ _)
  · exact .pure (hres _ rfl)

namespace Moves

open M

variable {K : Scope} {α : Type} {s : Inner} {k : Key} {st : Stream}

/-! Actions. -/

theorem resetStream (hturn : K.turn k) (hK : K.closes k) (reason : Nat) {initiator : Initiator}
    (own : initiator ≠ .remote) :
    Keeps (Moves K) (Actions.resetStream reason initiator k) :=
  chains.bind (sendReset hK _ own) fun _ => chains.bind (enqueueResetExpiration _) fun _ =>
    update fun _ _ _ => .notify hturn

theorem incNumLocalErrorResets : Keeps (Moves K) Counts.incNumLocalErrorResets :=
  Chains.checked fun _ => aside (.of_beside rfl)

theorem actionsSendReset (hturn : K.turn k) (hK : K.closes k) (reason : Nat) {initiator : Initiator}
    (own : initiator ≠ .remote) : Keeps (Moves K) (Actions.sendReset k reason initiator) := by
  intro s
  have hturn : K.lasting.turn k := hturn
  have hcloses : K.lasting.closes k := hK
  refine transition _ (chains.bind chains.get (fun s => .ite (chains.pure _) ?_) s)
  exact chains.bind (chains.when _ incNumLocalErrorResets) fun _ =>
    chains.bind (resetStream hturn hcloses _ own) fun _ => chains.pure _

theorem resetOnRecvStreamErr (hturn : K.turn k) (hK : K.closes k) {res : Except ProtoError Unit} (own : OwnError res) :
    Keeps (Moves K) (Actions.resetOnRecvStreamErr k res) := by
  unfold Actions.resetOnRecvStreamErr
  split
  · rename_i streamId reason initiator
    have hinitiator : initiator ≠ .remote := by
      rintro rfl
      exact own streamId reason rfl
    refine chains.bind (chains.resolve _) fun st => chains.bind (chains.debugAssert _) fun _ =>
      chains.bind chains.get fun s => .ite ?_ (chains.pure _)
    exact chains.bind incNumLocalErrorResets fun _ =>
      chains.bind (resetStream hturn hK _ hinitiator) fun _ => chains.pure _
  · exact chains.pure _

/-! Inner. -/

theorem recvDataUnknown (frame : Data) : Keeps (Moves K) (Inner.recvDataUnknown frame) := by
  refine chains.bind chains.get fun s => .ite (chains.pure _) 
    (chains.bind (chains.read (isForgottenStream_read _)) fun b => ?_)
  split
  · refine chains.bind (chains.assert _) fun _ => chains.bind (modified fun _ => .of_beside (by rfl)) fun _ =>
      chains.bind (decConnectionWindow _) fun res => ?_
    split <;> exact chains.pure _
  · exact chains.pure _

theorem find (id : Nat) : Keeps (Moves K) (Inner.find id) :=
  chains.bind chains.get fun _ => chains.pure _

theorem find_some {id : Nat} {o : Option Key} {s' : Inner} (h : Inner.find id s = some (o, s')) :
    o = s.store.find id ∧ s' = s := by
  simp only [Inner.find, bind_some, get_some, pure_some] at h
  obtain ⟨_, _, ⟨rfl, rfl⟩, rfl, rfl⟩ := h
  exact ⟨rfl, rfl⟩

theorem insertStream_some {id : Nat} {s' : Inner} (h : Inner.insertStream id st s = some (k, s')) :
    k = s.freshKey id ∧ s' = { s with store := (s.store.insert id st).2 } := by
  cases h
  exact ⟨Store.insert_fst .., rfl⟩

theorem insertStream {id initSend initRecv : Nat} (len : ContentLength.Undeclared)
    (hK : K.born (s.freshKey id))
    (hfind : s.store.find id = none) (known : s.Known id)
    (hst : st = { Stream.new id initSend initRecv with contentLength := len }) :
    KeepsAt (Moves K) s (Inner.insertStream id st) := by
  subst hst
  intro k s' h
  cases h
  exact .single (.insert id initSend initRecv len hK hfind known)

theorem find_streamId {id : Nat} (h : s.store.find id = some k) : k.streamId = id := by
  obtain ⟨index, -, rfl⟩ := Option.map_eq_some_iff.mp h
  rfl

theorem innerRecvData {frame : Data}
    (hK : ∀ k, s.store.find frame.streamId = some k → K.Receives k frame.isEndStream ∧ K.closes k) :
    KeepsAt (Moves K) s (Inner.recvData frame) := by
  refine chains.step fun o s₁ hfind => ?_
  obtain ⟨rfl, rfl⟩ := find_some hfind
  refine ⟨.refl _, ?_⟩
  split
  · exact recvDataUnknown _ _
  · rename_i k hk
    have hreceives := (hK k hk).1.lasting
    have hcloses : K.lasting.closes k := (hK k hk).2
    refine transition _ (chains.step fun res s₂ hdata => ⟨recvData hreceives _ _ _ hdata, ?_⟩)
    exact resetOnRecvStreamErr hreceives.turn hcloses (Recv.recvData_own _ _ _ _ _ hdata) _

end Moves

structure Scope.Admits (K : Scope) (k : Key) (eos : Bool) : Prop where
  receives : K.Receives k eos
  closes : K.closes k
  send : K.send k
  cancels : K.cancels k
  opens : K.opens k
  lists : K.lists k
  processes : K.processes k

def Inner.Openable (s : Inner) (id : Nat) : Prop :=
  s.counts.role.ensureCanOpen id = .ok () ∧ ∃ nextId, s.recv.nextStreamId = some nextId ∧ nextId ≤ id

section

omit [HeaderPlz] [StoreCrates]

theorem StreamId.lt_nextId {id next : Nat} (h : StreamId.nextId id = some next) : id < next := by
  unfold StreamId.nextId at h
  split at h
  · cases h
  · cases h
    omega

theorem StreamId.nextId_odd {id : Nat} (hid : id % 2 = 1) (next : Nat)
    (h : StreamId.nextId id = some next) : next % 2 = 1 := by
  unfold StreamId.nextId at h
  split at h
  · cases h
  · cases h
    omega

theorem StreamId.isServerInitiated_nextId {id : Nat} (hid : StreamId.isServerInitiated id = true) (next : Nat)
    (h : StreamId.nextId id = some next) : StreamId.isServerInitiated next = true := by
  simp only [StreamId.isServerInitiated, Bool.and_eq_true, bne_iff_ne, beq_iff_eq] at hid ⊢
  unfold StreamId.nextId at h
  split at h
  · cases h
  · cases h
    omega

end

theorem Inner.Openable.isServer {s : Inner} {id : Nat} (h : s.Openable id) :
    s.counts.role.isServer = true ∧ StreamId.isClientInitiated id = true := by
  obtain ⟨hopen, -⟩ := h
  cases hrole : s.counts.role with
  | client =>
    rw [hrole] at hopen
    cases hopen
  | server =>
    rw [hrole] at hopen
    simp only [Role.ensureCanOpen] at hopen
    split at hopen
    · cases hopen
    · rename_i hid
      exact ⟨rfl, by simpa using hid⟩

theorem Inner.Openable.remote {s : Inner} {id : Nat} (h : s.Openable id) :
    s.counts.role.isLocalInit id = false := by
  obtain ⟨hserver, hclient⟩ := h.isServer
  simp only [StreamId.isClientInitiated, Bool.and_eq_true, bne_iff_ne, beq_iff_eq] at hclient
  simp [Role.isLocalInit, hserver, StreamId.isServerInitiated, hclient.2]

theorem Inner.Openable.known {s : Inner} {id : Nat} (h : s.Openable id) :
    Inner.Known { s with recv.nextStreamId := StreamId.nextId id } id := by
  intro next hnext
  simp only [h.remote, Bool.false_eq_true, if_false] at hnext
  exact StreamId.lt_nextId hnext

namespace Moves

open M

variable {K : Scope} {α : Type} {s : Inner} {k : Key} {st : Stream}

theorem canOpen_ends (id : Nat) :
    Ends s (Recv.canOpen id) fun res s' => s'.store = s.store ∧ (res = .ok true → s.Openable id ∧
      s' = { s with recv.nextStreamId := StreamId.nextId id }) := by
  refine Ends.get_bind (Ends.assert_bind fun _ => ?_)
  split
  · exact Ends.pure ⟨rfl, by simp⟩
  · exact Ends.pure ⟨rfl, by simp⟩
  · rename_i nextId hrole hnext
    split
    · exact Ends.pure ⟨rfl, by simp⟩
    · rename_i hle
      refine Ends.modify_bind ?_
      split
      · exact Ends.modify_bind (Ends.pure ⟨rfl, by simp⟩)
      · exact Ends.pure ⟨rfl, fun _ => ⟨⟨hrole, nextId, hnext, Nat.le_of_not_lt hle⟩, rfl⟩⟩

/-- The stream of a HEADERS frame was there, or the frame opens it. -/
theorem insertOrCreate_ends (id : Nat) :
    Ends s (Inner.insertOrCreate id) fun res s' => match res with
      | .ok (some k) =>
        (s.store.find id = some k ∧ s' = s) ∨
          (s.store.find id = none ∧ k = s.freshKey id ∧ s.Openable id ∧
            ∃ initSend initRecv, s'.get? k = some (Stream.new id initSend initRecv) ∧
              s' = { s with
                store := (s.store.insert id (Stream.new id initSend initRecv)).2
                recv.nextStreamId := StreamId.nextId id })
      | _ => s'.store = s.store := by
  refine Ends.bind fun o s₁ hfind => ?_
  obtain ⟨rfl, rfl⟩ := find_some hfind
  cases hfound : s₁.store.find id with
  | some k => exact Ends.pure (Or.inl ⟨rfl, rfl⟩)
  | none =>
    refine Ends.get_bind (Ends.bind fun forgotten s₂ hforgotten => ?_)
    have hs₂ : s₂ = s₁ := isForgottenByClient_read id _ _ _ hforgotten
    subst hs₂
    split
    · exact Ends.pure rfl
    · refine Ends.bind fun res s₃ hopen => ?_
      obtain ⟨hstore, hopened⟩ := canOpen_ends id _ _ hopen
      split
      · exact Ends.pure hstore
      · exact Ends.pure hstore
      · obtain ⟨hopenable, rfl⟩ := hopened rfl
        intro res' s' hinsert
        obtain ⟨k', s₄, hins, hpure⟩ := bind_eq_some hinsert
        obtain ⟨rfl, rfl⟩ := insertStream_some hins
        cases hpure
        exact Or.inr ⟨rfl, rfl, hopenable, _, _, Store.get_insert_self _ (Stream.new id _ _), rfl⟩

theorem insertOrCreate {id : Nat}
    (hK : s.store.find id = none → s.Openable id → K.born (s.freshKey id)) :
    KeepsAt (Moves K) s (Inner.insertOrCreate id) := by
  refine chains.step fun o s₁ hfind => ?_
  obtain ⟨rfl, rfl⟩ := find_some hfind
  refine ⟨.refl _, ?_⟩
  cases hfound : s₁.store.find id with
  | some k => exact chains.pure _ _
  | none =>
    refine .get_bind (.read_bind (isForgottenByClient_read id _) fun forgotten => ?_)
    split
    · exact chains.pure _ _
    · refine chains.step fun res s₂ hopen => ⟨canOpen id _ _ _ hopen, ?_⟩
      split
      · exact chains.pure _ _
      · exact chains.pure _ _
      · obtain ⟨hopenable, rfl⟩ := (canOpen_ends id _ _ hopen).2 rfl
        have hknown := hopenable.known
        exact .bind chains.trans (insertStream ⟨.omitted, nofun⟩ (hK hfound hopenable) hfound hknown rfl) fun _ =>
          chains.pure _

theorem sendOversizeResponse (hcancel : K.cancels k) (hsend : K.send k) {resp : Headers}
    (hid : k.streamId = resp.streamId) (hk : s.get? k = some st) (hopen : st.state ≠ .idle)
    (hempty : st.pendingSend = []) (htrailer : st.isSendingTrailer = false)
    (hremote : s.counts.role.isLocalInit k.streamId = false) (hserver : s.counts.role.isServer = true) :
    KeepsAt (Moves K) s (Inner.sendOversizeResponse resp k) := by
  have hheaders : KeepsAt (Moves K) s (Send.sendHeaders resp k) := by
    refine sendHeaders hsend hid (fun st' hst' hidle => ?_) (fun st' hst' _ => ?_) fun st' _ hlocal => ?_
    · cases hk.symm.trans hst'
      exact absurd hidle hopen
    · cases hk.symm.trans hst'
      exact ⟨hempty, htrailer⟩
    · rw [hremote] at hlocal
      cases hlocal
  refine chains.step fun sent s₁ h => ⟨hheaders _ _ h, ?_⟩
  have hserver₁ : s₁.counts.role.isServer = true := (hheaders _ _ h).role ▸ hserver
  refine .read_bind (fun _ _ h => (debugAssert_some.mp h).2.symm) fun _ => ?_
  refine .bind chains.trans (scheduleImplicitReset hcancel _ (fun _ _ => Or.inr hserver₁) ?_) fun _ => ?_
  · intro _ st' hk' _
    have hends := sendHeaders_ends resp hk _ _ h
    cases sent with
    | error e =>
      rw [show s₁ = s from hends] at hk'
      cases hk.symm.trans hk'
      exact ⟨by simp [Stream.hasData, hempty], Or.inl htrailer⟩
    | ok u =>
      obtain ⟨state, -, hcore⟩ := hends
      have hsame := hcore st' hk'
      simp only [Stream.core, hempty, List.nil_append, Prod.mk.injEq] at hsame
      exact ⟨by simp [Stream.hasData, hsame.2.1, Frame.isData], Or.inl (hsame.2.2.1.trans htrailer)⟩
  · exact enqueueResetExpiration _

theorem recvHeaderBlock {frame : Headers} (hK : K.Receives k frame.isEndStream)
    (hK' : K.Listens s k st frame.streamId) (hsend : K.send k) (hcancel : K.cancels k)
    (hk : s.get? k = some st) :
    KeepsAt (Moves K) s (Inner.recvHeaderBlock frame k) := by
  have hfirst := recvHeaders hK hK' hk
  refine chains.step fun res s₁ h => ⟨hfirst _ _ h, ?_⟩
  split
  · exact chains.pure _ _
  · rename_i resp
    cases hopen : st.state.recvOpen frame with
    | error e =>
      -- without an open state the block is not looked at
      simp only [Recv.recvHeaders, bind_some, resolve_some] at h
      obtain ⟨_, _, ⟨hst, rfl⟩, h⟩ := h
      cases hk.symm.trans hst
      simp only [hopen] at h
      cases h
    | ok r =>
      obtain ⟨isInitial, state⟩ := r
      obtain ⟨⟨b, c, hk₁⟩, hanswered⟩ := recvHeaders_rejected hk frame hopen _ _ h _ rfl
      obtain ⟨hserver, hinitial, hid⟩ := hanswered resp rfl
      obtain ⟨-, hremote, -, hempty, htrailer⟩ := hK'.admits (recvOpen_initial (hinitial ▸ hopen))
      rw [← (hfirst _ _ h).role] at hremote
      exact .bind chains.trans (sendOversizeResponse hcancel hsend hid hk₁ (not_idle_recvOpen hopen)
        hempty htrailer hremote hserver) fun _ => chains.pure _
  · exact Chains.resolve_bind fun _ _ => chains.pure _ _
  · exact chains.pure _ _

theorem recvStreamHeaders {frame : Headers} (hK : K.Receives k frame.isEndStream)
    (hK' : st.state.isRecvHeaders = true → K.Listens s k st frame.streamId)
    (hcloses : K.closes k) (hsend : K.send k) (hcancel : K.cancels k) (hk : s.get? k = some st) :
    KeepsAt (Moves K) s (Inner.recvStreamHeaders frame k) := by
  refine Chains.resolve_bind fun _ hst => ?_
  cases hk.symm.trans hst
  split
  · rename_i hheaders
    refine chains.step fun res s₁ hblock =>
      ⟨recvHeaderBlock hK (hK' hheaders) hsend hcancel hk _ _ hblock, ?_⟩
    exact resetOnRecvStreamErr hK.turn hcloses (Inner.recvHeaderBlock_own _ _ _ _ _ hblock) _
  · split
    · exact chains.pure _ _
    · rename_i hend
      have hend : frame.isEndStream = true := by simpa using hend
      rw [hend] at hK
      refine chains.step fun res s₁ htrailers => ⟨recvTrailers hK _ _ _ _ htrailers, ?_⟩
      exact resetOnRecvStreamErr hK.turn hcloses (Recv.recvTrailers_own _ _ _ _ _ htrailers) _

theorem innerRecvHeaders {frame : Headers}
    (hfound : ∀ k st, frame.streamId ≤ s.recv.maxStreamId → s.store.find frame.streamId = some k →
      s.get? k = some st → K.Receives k frame.isEndStream ∧ K.closes k ∧ K.send k ∧ K.cancels k ∧
        (st.state.isRecvHeaders = true → K.Listens s k st frame.streamId))
    (hopened : frame.streamId ≤ s.recv.maxStreamId → s.store.find frame.streamId = none →
      s.Openable frame.streamId → K.born (s.freshKey frame.streamId) ∧
        K.Admits (s.freshKey frame.streamId) frame.isEndStream) :
    KeepsAt (Moves K) s (Inner.recvHeaders frame) := by
  refine .get_bind ?_
  split
  · exact chains.pure _ _
  · rename_i hmax
    have hmax : frame.streamId ≤ s.recv.maxStreamId := by simpa using hmax
    have hfirst : KeepsAt (Moves K) s (Inner.insertOrCreate frame.streamId) :=
      insertOrCreate fun hfind h => (hopened hmax hfind h).1
    refine chains.step fun res s₁ h => ⟨hfirst _ _ h, ?_⟩
    split
    · exact chains.pure _ _
    · exact chains.pure _ _
    · rename_i k
      refine Chains.resolve_bind fun st hk => ?_
      split
      · exact chains.pure _ _
      · refine transition _ ?_
        rcases insertOrCreate_ends _ _ _ h with ⟨hfind, rfl⟩ | ⟨hfind, rfl, hopen, _, _, hnew, rfl⟩
        · obtain ⟨hK, hcloses, hsend, hcancel, hK'⟩ := hfound k st hmax hfind hk
          exact recvStreamHeaders hK.lasting (fun hheaders => (hK' hheaders).lasting) hcloses hsend hcancel hk
        · obtain ⟨-, hK⟩ := hopened hmax hfind hopen
          cases hk.symm.trans hnew
          have hremote : s.counts.role.isLocalInit frame.streamId = false := hopen.remote
          exact recvStreamHeaders hK.receives.lasting
            (fun _ => ⟨hK.lists, rfl, hmax, rfl, fun _ => hK.opens, fun _ => rfl,
              fun _ => ⟨hK.processes, hremote, rfl, rfl, rfl⟩⟩) hK.closes hK.send hK.cancels hk

theorem recvReset_closed (frame : Reset) :
    Ends s (Recv.recvReset frame k) fun res s' => res = .ok () →
      ∃ st, s'.get? k = some st ∧ st.state.isClosed = true := by
  refine Ends.bind fun res s₁ _ => ?_
  split
  · exact Ends.pure (by simp)
  · intro res' s' h
    obtain ⟨_, s₂, hup, h⟩ := bind_eq_some h
    obtain ⟨_, s₃, hmove, h⟩ := bind_eq_some h
    obtain ⟨_, s₄, hnotify, h⟩ := bind_eq_some h
    cases h
    obtain ⟨st, hk, rfl⟩ := update_some.mp hup
    obtain ⟨st₃, hk₃, rfl⟩ := update_some.mp hnotify
    have hmoves := moveFromPendingComplete (K := .unborn) (k := k) trivial trivial _ _ _ hmove
    have hk₂ := Inner.get?_put hk { st with state := st.state.recvReset frame st.isPendingSend } rfl
    have hclosed := hmoves.closed hk₂
      (State.isClosed_recvReset _ _ _) hk₃
    exact fun _ => ⟨_, Inner.get?_put hk₃ _ rfl, hclosed⟩

theorem innerRecvReset {frame : Reset} (hK : K.offers)
    (hK' : ∀ k : Key, k.streamId = frame.streamId → K.turn k ∧ K.closes k)
    (hexact : ∀ k st, s.store.find frame.streamId = some k → s.get? k = some st →
      st.isPendingAccept = true → Exact st ∨ K.leaks) :
    KeepsAt (Moves K) s (Inner.recvReset frame) := by
  refine .get_bind ?_
  split
  · exact chains.pure _ _
  · split
    · exact chains.pure _ _
    · refine chains.step fun o s₁ hfind => ?_
      obtain ⟨rfl, rfl⟩ := find_some hfind
      refine ⟨.refl _, ?_⟩
      split
      · exact chains.bind (chains.read (ensureNotIdle_read _)) (fun _ => chains.pure _) _
      · rename_i k hfound
        have hturn : K.lasting.turn k := (hK' k (find_streamId hfound)).1
        have hcloses : K.lasting.closes k := (hK' k (find_streamId hfound)).2
        refine transition _ (chains.step fun res s₂ hreset =>
          ⟨recvReset hturn hcloses hK _ (fun st hst => hexact k st hfound hst) _ _ hreset, ?_⟩)
        split
        · exact chains.pure _ _
        · obtain ⟨st, hk, hclosed⟩ := recvReset_closed _ _ _ hreset rfl
          exact .bind chains.trans (sendHandleError hcloses hk hclosed) fun _ =>
            chains.bind (chains.resolve _) fun _ => chains.bind (chains.assert _) fun _ => chains.pure _

omit [HeaderPlz] [StoreCrates] in
theorem odd_of_local {role : Role} {id : Nat} (hid : id ≠ 0) (hlocal : role.isLocalInit id = true)
    (hclient : role.isServer = false) : id % 2 = 1 := by
  simp only [Role.isLocalInit, hclient, StreamId.isServerInitiated, beq_iff_eq] at hlocal
  simp only [Bool.false_eq, Bool.and_eq_false_iff, bne_eq_false_iff_eq, beq_eq_false_iff_ne] at hlocal
  omega

theorem maybeResetNextStreamId {id : Nat} (hid : id ≠ 0) :
    Ends s (Inner.maybeResetNextStreamId (s.counts.role.isLocalInit id) id) fun _ s' =>
      Aside s s' ∧ s'.Known id := by
  cases hlocal : s.counts.role.isLocalInit id with
  | true =>
    refine Ends.get_bind ?_
    split
    · rename_i hnext
      exact Ends.pure ⟨.refl _, by simp [Inner.Known, hlocal, hnext]⟩
    · rename_i nextId hnext
      refine Ends.debugAssert_bind fun a s' h => ?_
      rcases when_some.mp h with ⟨hle, h⟩ | ⟨hle, rfl⟩
      · obtain rfl := set_some.mp h
        refine ⟨{ Aside.refl _ with
          nextSend := hnext ▸ nextLe_nextId (by simpa using hle)
          parity := ?_ }, fun next hsome => ?_⟩
        · exact fun hclient _ => StreamId.nextId_odd (odd_of_local hid hlocal hclient)
        · simp only [hlocal, if_true] at hsome
          exact StreamId.lt_nextId hsome
      · refine ⟨.refl _, fun next hsome => ?_⟩
        simp only [hlocal, if_true, hnext, Option.some.injEq] at hsome
        simp only [ge_iff_le, decide_eq_false_iff_not, not_le] at hle
        exact hsome ▸ hle
  | false =>
    refine Ends.get_bind ?_
    split
    · rename_i hnext
      exact Ends.pure ⟨.refl _, by simp [Inner.Known, hlocal, hnext]⟩
    · rename_i nextId hnext
      refine Ends.debugAssert_bind fun a s' h => ?_
      rcases when_some.mp h with ⟨hle, h⟩ | ⟨hle, rfl⟩
      · obtain rfl := set_some.mp h
        refine ⟨{ Aside.refl _ with
          nextRecv := hnext ▸ nextLe_nextId (by simpa using hle)
          even := ?_ }, fun next hsome => ?_⟩
        · refine fun hclient _ => StreamId.isServerInitiated_nextId ?_
          simpa [Role.isLocalInit, hclient] using hlocal
        · simp only [hlocal, Bool.false_eq_true, if_false] at hsome
          exact StreamId.lt_nextId hsome
      · refine ⟨.refl _, fun next hsome => ?_⟩
        simp only [hlocal, Bool.false_eq_true, if_false, hnext, Option.some.injEq] at hsome
        simp only [ge_iff_le, decide_eq_false_iff_not, not_le] at hle
        exact hsome ▸ hle

theorem entryForReset {id : Nat} (hK : s.store.find id = none → K.born (s.freshKey id)) :
    KeepsAt (Moves K) s (Inner.entryForReset id) := by
  refine chains.step fun o s₁ hfind => ?_
  obtain ⟨rfl, rfl⟩ := find_some hfind
  refine ⟨.refl _, ?_⟩
  cases hfound : s₁.store.find id with
  | some k => exact chains.pure _ _
  | none =>
    refine chains.step fun isLocal s₂ hinit => ?_
    obtain ⟨rfl, hid, rfl⟩ := isLocalInit_ends id _ _ hinit
    refine ⟨.refl _, chains.step fun u s₃ hreset => ?_⟩
    obtain ⟨haside, hknown⟩ := maybeResetNextStreamId hid _ _ hreset
    refine ⟨aside haside, insertStream ⟨.omitted, nofun⟩ ?_ ?_ hknown rfl⟩
    · simpa only [Inner.freshKey, haside.store] using hK hfound
    · rw [haside.store]
      exact hfound

theorem entryForReset_streamId (id : Nat) :
    Ends s (Inner.entryForReset id) fun k _ => k.streamId = id := by
  refine Ends.bind fun o s₁ hfind => ?_
  obtain ⟨rfl, rfl⟩ := find_some hfind
  cases hfound : s₁.store.find id with
  | some k => exact Ends.pure (find_streamId hfound)
  | none =>
    refine Ends.bind fun _ _ _ => Ends.bind fun _ s₃ _ k s' h => ?_
    cases h
    rfl

theorem innerSendReset {id : Nat} (hK : s.store.find id = none → K.born (s.freshKey id))
    (hK' : ∀ k : Key, k.streamId = id → K.turn k ∧ K.closes k) (reason : Nat) :
    KeepsAt (Moves K) s (Inner.sendReset id reason) := by
  refine chains.step fun k s₁ hentry => ⟨entryForReset hK _ _ hentry, ?_⟩
  obtain ⟨hturn, hcloses⟩ := hK' k (entryForReset_streamId id _ _ hentry)
  exact actionsSendReset hturn hcloses _ (by decide) _

/-! Errors of the connection. -/

theorem failStream (hturn : K.turn k) (hK : K.closes k) {err : ProtoError}
    (own : ∀ id reason, err ≠ ProtoError.remoteReset id reason) :
    Keeps (Moves K) (Inner.failStream err k) := by
  intro s
  have hturn : K.lasting.turn k := hturn
  have hcloses : K.lasting.closes k := hK
  exact transition _ (handleErrors hturn hcloses own s)

theorem innerRecvGoAway (hK : ∀ k, K.turn k ∧ K.closes k) (frame : GoAway) :
    Keeps (Moves K) (Inner.recvGoAway frame) := by
  refine chains.bind ?_ fun res => ?_
  · refine .get_bind fun s => ?_
    split
    · exact chains.pure _ s
    · exact .bind chains.trans (.set (aside (.of_beside (by rfl)))) fun _ => chains.pure _
  · split
    · exact chains.pure _
    · refine chains.bind (chains.forEach fun k => ?_) fun _ =>
        chains.bind (modified fun _ => .of_beside (by rfl)) fun _ =>
        chains.pure _
      exact chains.bind (chains.resolve _) fun _ => chains.when _ (failStream (hK k).1 (hK k).2 nofun)

theorem recvWindowUpdate (frame : WindowUpdate)
    (hK : ∀ k : Key, k.streamId = frame.streamId → K.turn k ∧ K.closes k) :
    Keeps (Moves K) (Inner.recvWindowUpdate frame) := by
  unfold Inner.recvWindowUpdate
  split
  · exact chains.bind (recvConnectionWindowUpdate _) fun _ => chains.pure _
  · intro s
    refine chains.step fun o s₁ hfind => ?_
    obtain ⟨rfl, rfl⟩ := find_some hfind
    refine ⟨.refl _, ?_⟩
    split
    · rename_i k hfound
      obtain ⟨hturn, hcloses⟩ := hK k (find_streamId hfound)
      exact chains.bind (recvStreamWindowUpdate hcloses _)
        (fun _ => resetOnRecvStreamErr hturn hcloses (.mapError (by simp [ProtoError.libraryReset]) _)) _
    · exact chains.bind (chains.read (ensureNotIdle_read _)) (fun _ => chains.pure _) _

theorem innerHandleError (hK : ∀ k, K.turn k ∧ K.closes k) {err : ProtoError}
    (own : ∀ id reason, err ≠ ProtoError.remoteReset id reason) : Keeps (Moves K) (Inner.handleError err) :=
  chains.bind (chains.forEach fun k => failStream (hK k).1 (hK k).2 own) fun _ => modified fun _ => .of_beside (by rfl)

theorem recvEofStream (hK : K.closes k) (hpops : K.pops k) : Keeps (Moves K) (Counts.transition k do
    Recv.recvEof k
    Send.handleError k) := by
  intro s
  have hcloses : K.lasting.closes k := hK
  have hlast : K.lasting.pops k := hpops
  refine transition _ (chains.step fun u s₁ heof => ?_)
  obtain ⟨st, hk, rfl⟩ := update_some.mp heof
  refine ⟨turn hk (.eof hcloses hlast), ?_⟩
  have hk₁ := Inner.get?_put hk { st with state := st.state.recvEof }.notifyRecv rfl
  exact sendHandleError hcloses hk₁ (State.isClosed_recvEof _)

theorem innerRecvEof (hK : ∀ k, K.closes k) (hpops : ∀ k, K.pops k) (hexpires : K.expires)
    (hleaks : K.leaks) (b : Bool) :
    Keeps (Moves K) (Inner.recvEof b) :=
  chains.bind (modified fun _ => .of_beside (by rfl)) fun _ =>
    chains.bind (chains.forEach fun k => recvEofStream (hK k) (hpops k))
    fun _ => chains.bind (recvClearQueues hexpires hleaks _) fun _ => sendClearQueues hK hpops

theorem pollWindowUpdate (ready : Bool) : Keeps (Moves K) (Inner.pollWindowUpdate ready) := by
  have hstream : Keeps (Moves K) (Inner.pollStreamWindowUpdate ready) := by
    refine chains.bind chains.get fun s => ?_
    split
    · exact chains.pure _
    · refine chains.bind (chains.resolve _) fun st => ?_
      split
      · exact chains.pure _
      · exact .ite (chains.pure _) (chains.bind (find _) fun _ =>
          chains.bind (chains.whenSome _ fun _ => update fun _ _ _ =>
            .calm _ _ _ _ _ fun hrange => FlowControl.inRange_incWindowOrKeep hrange _) fun _ => chains.pure _)
  refine .get_bind fun s => ?_
  split
  · exact chains.pure _ s
  · refine .bind chains.trans (fun a s' h => ?_) fun _ => chains.bind hstream fun res => ?_
    · rcases M.whenSome_some.mp h with ⟨size, -, h⟩ | ⟨-, rfl⟩
      · obtain rfl := M.set_some.mp h
        exact aside (.of_beside rfl)
      · exact .refl _
    · split
      · exact chains.pure _
      · exact chains.bind (modified fun _ => .of_beside (by rfl)) fun _ => chains.pure _

end Moves

end TwoPlz
