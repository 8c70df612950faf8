import TwoPlz.ConnectionFrames
import TwoPlz.Plain

/-! The connection window of the receiver: what DATA takes from it and what is given back. -/

namespace TwoPlz

section

variable [HeaderPlz] [StoreCrates]

structure SameFlow (s s' : Inner) : Prop where
  flow : s'.recv.flow = s.recv.flow
  check : s.recv.checkConnectionWindowUpdate = true → s'.recv.checkConnectionWindowUpdate = true

theorem sameFlow_blind : BlindSettings SameFlow where
  refl _ := ⟨rfl, id⟩
  trans _ _ _ h h' := ⟨h'.1.trans h.1, h'.2 ∘ h.2⟩
  store _ _ := ⟨rfl, id⟩
  queue _ n _ := by cases n <;> exact ⟨rfl, id⟩
  flow _ _ := ⟨rfl, id⟩
  task _ _ := ⟨rfl, id⟩
  sendBuffer _ _ := ⟨rfl, id⟩
  recvBuffer _ _ := ⟨rfl, id⟩
  spa _ _ := ⟨rfl, id⟩
  lastOpened _ _ := ⟨rfl, id⟩
  numSend _ _ := ⟨rfl, id⟩
  numRecv _ _ := ⟨rfl, id⟩
  numReset _ _ := ⟨rfl, id⟩
  lastProcessed _ _ := ⟨rfl, id⟩
  refused _ _ := ⟨rfl, id⟩
  nextRecv _ _ := ⟨rfl, id⟩
  nextSend _ _ := ⟨rfl, id⟩
  maxRecv _ _ := ⟨rfl, id⟩
  maxSend _ _ := ⟨rfl, id⟩
  checkConnection _ := ⟨rfl, fun _ => rfl⟩
  checkStream _ _ := ⟨rfl, id⟩
  initWindow _ _ := ⟨rfl, id⟩
  extended _ _ := ⟨rfl, id⟩
  remoteReset _ _ := ⟨rfl, id⟩
  errorReset _ _ := ⟨rfl, id⟩
  connError _ _ := ⟨rfl, id⟩
  refs _ _ := ⟨rfl, id⟩
  now _ _ := ⟨rfl, id⟩
  maxSendStreams _ _ := ⟨rfl, id⟩
  sendWindow _ _ := ⟨rfl, id⟩
  pushEnabled _ _ := ⟨rfl, id⟩
  connect _ _ := ⟨rfl, id⟩

theorem SameFlow.trans {s₁ s₂ s₃ : Inner} (h : SameFlow s₁ s₂) (h' : SameFlow s₂ s₃) : SameFlow s₁ s₃ :=
  sameFlow_blind.trans _ _ _ h h'

structure FlowControl.Debited (n : Nat) (f f' : FlowControl) : Prop where
  window : f'.window = f.window - n
  capacity : f'.capacity = f.capacity
  fits : (n : Int) ≤ max f.window 0

def FlowControl.HasRoom (n : Nat) (f : FlowControl) : Prop := n ≤ f.window ∧ f.window ≤ I32_MAX

/-- The window was debited and will be looked at, or the connection failed; a known stream with room
for the frame does not fail it. -/
def Debits (n : Nat) (known : Prop) (s s' : Inner) (res : Except ProtoError Unit) : Prop :=
  s.recv.flow.Debited n s'.recv.flow ∧ s'.recv.checkConnectionWindowUpdate = true ∨
    (∃ reason, res = .error (ProtoError.libraryGoAway reason)) ∧ SameFlow s s' ∧
      (known → ¬s.recv.flow.HasRoom n)

variable {s s' : Inner} {res : Except ProtoError Unit} {frame : Data} {k : Key} {c c' : Connection}

theorem decConnectionWindow_debits {n : Nat} (hn : n ≤ MAX_WINDOW_SIZE)
    (h : Recv.decConnectionWindow n s = some (res, s')) :
    (res = .ok () ∧ s.recv.flow.Debited n s'.recv.flow ∧
        (s.recv.checkConnectionWindowUpdate = true → s'.recv.checkConnectionWindowUpdate = true)) ∨
      (∃ reason, res = .error (ProtoError.libraryGoAway reason)) ∧ s' = s ∧ ¬s.recv.flow.HasRoom n := by
  have hsz : asI32 n = n := by
    refine asI32_of_lt ?_
    simp only [MAX_WINDOW_SIZE] at hn
    omega
  simp only [Recv.decConnectionWindow, M.bind_some, M.get_some] at h
  obtain ⟨_, _, ⟨rfl, rfl⟩, h⟩ := h
  split at h
  · rename_i hfull
    obtain ⟨rfl, rfl⟩ := M.pure_some.mp h
    refine Or.inr ⟨⟨_, rfl⟩, rfl, fun hroom => ?_⟩
    simp only [FlowControl.windowSize, FlowControl.HasRoom] at hfull hroom
    omega
  · rename_i hfits
    cases hdec : s.recv.flow.decWindow n with
    | error e =>
      simp only [hdec] at h
      obtain ⟨rfl, rfl⟩ := M.pure_some.mp h
      refine Or.inr ⟨⟨_, rfl⟩, rfl, fun hroom => ?_⟩
      simp only [FlowControl.decWindow, hsz] at hdec
      split at hdec
      · rename_i hbad
        simp only [FlowControl.HasRoom, I32_MIN, I32_MAX] at hroom hbad
        omega
      · cases hdec
    | ok flow =>
      simp only [hdec, M.bind_some, M.set_some, M.pure_some] at h
      obtain ⟨_, _, rfl, rfl, rfl⟩ := h
      refine Or.inl ⟨rfl, ⟨?_, ?_, ?_⟩, id⟩
      · exact (FlowControl.decWindow_ok hdec).1.trans (by rw [hsz])
      · simp only [FlowControl.decWindow] at hdec
        split at hdec
        · cases hdec
        · cases hdec
          rfl
      · simp only [FlowControl.windowSize] at hfits
        omega

theorem recvData_debits (h : Recv.recvData frame k s = some (res, s')) :
    Debits frame.data.length True s s' res := by
  simp only [Recv.recvData, M.bind_some, M.assert_some, decide_eq_true_eq] at h
  obtain ⟨_, _, ⟨hsize, rfl⟩, r, s₁, hdec, h⟩ := h
  rcases decConnectionWindow_debits hsize hdec with ⟨rfl, hdeb, -⟩ | ⟨⟨reason, rfl⟩, rfl, hroom⟩
  · simp only [M.bind_some, M.modify_some] at h
    obtain ⟨_, s₂, rfl, h⟩ := h
    have hrest : Keeps SameFlow (do
        let st ← M.resolve k
        if !st.state.isLocalError && !st.state.isRecvStreaming then
          pure (.error (ProtoError.libraryGoAway Reason.PROTOCOL_ERROR))
        else if st.state.isLocalError then pure (.ok ())
        else Recv.recvStreamData frame frame.data.length k) :=
      sameFlow_blind.bind (sameFlow_blind.resolve _) fun st => .ite (sameFlow_blind.pure _)
        (.ite (sameFlow_blind.pure _) (sameFlow_blind.recvStreamData sameFlow_blind.checkStream _ _ _))
    have hsame := hrest _ _ _ (M.bind_some.mpr h)
    refine Or.inl ⟨?_, hsame.check rfl⟩
    rw [hsame.flow]
    exact hdeb
  · obtain ⟨rfl, rfl⟩ := M.pure_some.mp h
    exact Or.inr ⟨⟨reason, rfl⟩, ⟨rfl, id⟩, fun _ => hroom⟩

theorem isForgottenStream_some {id : Nat} {forgotten : Bool}
    (h : Actions.isForgottenStream id s = some (forgotten, s')) :
    s' = s ∧ (id ≠ 0 → s.Known id → forgotten = true) := by
  unfold Actions.isForgottenStream at h
  split at h
  · rename_i hid
    obtain ⟨rfl, rfl⟩ := M.pure_some.mp h
    exact ⟨rfl, fun hne => absurd (by simpa using hid) hne⟩
  · simp only [Actions.nextStreamIdOf, M.isLocalInit, M.bind_some, M.assert_some, M.get_some,
      M.pure_some] at h
    obtain ⟨next, _, ⟨_, _, ⟨_, _, ⟨-, rfl⟩, _, _, ⟨rfl, rfl⟩, rfl, rfl⟩, _, _, ⟨rfl, rfl⟩, hnext, rfl⟩, h⟩ := h
    cases next with
    | none =>
      obtain ⟨rfl, rfl⟩ := M.pure_some.mp h
      exact ⟨rfl, fun _ _ => rfl⟩
    | some nextId =>
      simp only [M.bind_some, M.debugAssert_some, M.pure_some] at h
      obtain ⟨_, _, ⟨-, rfl⟩, rfl, rfl⟩ := h
      exact ⟨rfl, fun _ hknown => by simpa using hknown nextId hnext⟩

theorem recvDataUnknown_debits (h : Inner.recvDataUnknown frame s = some (res, s')) :
    if frame.streamId > s.recv.maxStreamId then res = .ok () ∧ s' = s
    else Debits frame.data.length (frame.streamId ≠ 0 ∧ s.Known frame.streamId) s s' res := by
  simp only [Inner.recvDataUnknown, M.bind_some, M.get_some] at h
  obtain ⟨_, _, ⟨rfl, rfl⟩, h⟩ := h
  split at h
  · rename_i habove
    obtain ⟨rfl, rfl⟩ := M.pure_some.mp h
    rw [if_pos habove]
    exact ⟨rfl, rfl⟩
  · rename_i hbelow
    rw [if_neg hbelow]
    obtain ⟨forgotten, s₁, hforgotten, h⟩ := M.bind_some.mp h
    obtain ⟨rfl, hknown⟩ := isForgottenStream_some hforgotten
    cases forgotten with
    | false =>
      obtain ⟨rfl, rfl⟩ := M.pure_some.mp h
      exact Or.inr ⟨⟨_, rfl⟩, ⟨rfl, id⟩, fun ⟨hid, hk⟩ => absurd (hknown hid hk) (by simp)⟩
    | true =>
      simp only [M.bind_some, M.assert_some, M.modify_some, decide_eq_true_eq] at h
      obtain ⟨_, _, ⟨hsize, rfl⟩, _, s₂, rfl, r, s₃, hdec, h⟩ := h
      rcases decConnectionWindow_debits hsize hdec with ⟨rfl, hdeb, hcheck⟩ | ⟨⟨reason, rfl⟩, rfl, hroom⟩
      · obtain ⟨rfl, rfl⟩ := M.pure_some.mp h
        exact Or.inl ⟨hdeb, hcheck rfl⟩
      · obtain ⟨rfl, rfl⟩ := M.pure_some.mp h
        exact Or.inr ⟨⟨reason, rfl⟩, ⟨rfl, fun _ => rfl⟩, fun _ => hroom⟩

theorem transition_sameFlow {α : Type} {m : M α} {a : α}
    (h : Counts.transition k m s = some (a, s')) :
    ∃ s₁, m s = some (a, s₁) ∧ SameFlow s₁ s' := by
  simp only [Counts.transition, M.bind_some, M.resolve_some, M.pure_some] at h
  obtain ⟨_, _, ⟨-, rfl⟩, a', s₁, hm, _, s₂, hafter, rfl, rfl⟩ := h
  exact ⟨s₁, hm, sameFlow_blind.transitionAfter _ _ _ _ _ hafter⟩

theorem resetOnRecvStreamErr_goAway {reason : Nat} {r : Except ProtoError Unit}
    (h : Actions.resetOnRecvStreamErr k (.error (ProtoError.libraryGoAway reason)) s = some (r, s')) :
    r = .error (ProtoError.libraryGoAway reason) := by
  obtain ⟨heq, -⟩ := M.pure_some.mp h
  exact heq.symm

def Inner.Seen (s : Inner) (id : Nat) : Prop :=
  id ≠ 0 ∧ (s.store.find id ≠ none ∨ id ≤ s.recv.maxStreamId ∧ s.Known id)

theorem innerRecvData_debits (h : Inner.recvData frame s = some (res, s')) :
    if s.store.find frame.streamId = none ∧ frame.streamId > s.recv.maxStreamId then
      res = .ok () ∧ s' = s
    else Debits frame.data.length (s.Seen frame.streamId) s s' res := by
  simp only [Inner.recvData, Inner.find, M.bind_some, M.get_some, M.pure_some] at h
  obtain ⟨_, _, ⟨_, _, ⟨rfl, rfl⟩, rfl, rfl⟩, h⟩ := h
  cases hfind : s.store.find frame.streamId with
  | none =>
    simp only [hfind] at h
    have hdeb := recvDataUnknown_debits h
    split
    · rename_i hignored
      rwa [if_pos hignored.2] at hdeb
    · rename_i hseen
      rw [if_neg fun habove => hseen ⟨rfl, habove⟩] at hdeb
      rcases hdeb with hdeb | ⟨hres, hsame, hroom⟩
      · exact Or.inl hdeb
      · refine Or.inr ⟨hres, hsame, fun hk => hroom ?_⟩
        rcases hk with ⟨hid, hno | ⟨-, hk⟩⟩
        · exact absurd hfind hno
        · exact ⟨hid, hk⟩
  | some k =>
    simp only [hfind] at h
    rw [if_neg (by simp)]
    obtain ⟨s₁, hbody, hafter⟩ := transition_sameFlow h
    obtain ⟨r, s₂, hdata, hreset⟩ := M.bind_some.mp hbody
    have hsame : SameFlow s₂ s' :=
      SameFlow.trans (sameFlow_blind.resetOnRecvStreamErr _ _ _ _ _ hreset) hafter
    rcases recvData_debits hdata with ⟨hdeb, hcheck⟩ | ⟨⟨reason, rfl⟩, hflow, hroom⟩
    · refine Or.inl ⟨?_, hsame.check hcheck⟩
      rw [hsame.flow]
      exact hdeb
    · exact Or.inr ⟨⟨reason, resetOnRecvStreamErr_goAway hreset⟩, hflow.trans hsame,
        fun _ => hroom trivial⟩

/-- The result of the last frame is not an error of the connection. -/
def Connection.isAlive (c : Connection) : Prop :=
  ∀ e, c.result = some (.error e) → ∃ id reason initiator, e = .reset id reason initiator

omit [HeaderPlz] [StoreCrates] in
theorem load_unpadded {id : Nat} {flags : UInt8} {payload : Bytes} (h : flags &&& PADDED = 0)
    (hid : id ≠ 0) :
    Data.load id flags payload = some ⟨id, payload, flags &&& (END_STREAM ||| PADDED), none⟩ := by
  have hmask : flags &&& (END_STREAM ||| PADDED) &&& PADDED = 0 := by
    rw [UInt8.and_assoc, show (END_STREAM ||| PADDED) &&& PADDED = PADDED from rfl, h]
  simp only [Data.load, hid, if_false, hmask]
  rfl

theorem Connection.next_recvData (h : c.next (.recvData frame) = some c') :
    ∃ res, Inner.recvData frame c.streams = some (res, c'.streams) ∧
      ∀ e, res = .error e → c'.result = some (.error e) := by
  obtain ⟨res, s', hrun, rfl⟩ := recv_some (Option.ite_none_right_eq_some.mp h).2
  refine ⟨res, hrun, fun e he => ?_⟩
  subst he
  rfl

/-- A frame without padding that does not fail the connection is debited in full, unless the GOAWAY
that was sent tells the peer that it will be ignored. -/
theorem recvWireData_debited {id : Nat} {flags : UInt8} {payload : Bytes}
    (hunpadded : flags &&& PADDED = 0) (h : c.recvWireData id flags payload = some c')
    (halive : c'.isAlive) :
    c'.streams.recv.flow.window = c.streams.recv.flow.window -
      if c.streams.store.find id = none ∧ id > c.streams.recv.maxStreamId then 0
      else (payload.length : Int) := by
  by_cases hid : id = 0
  · -- the codec rejects the frame
    subst hid
    obtain ⟨-, h⟩ := Option.ite_none_right_eq_some.mp h
    cases h
    obtain ⟨_, _, _, hno⟩ := halive _ rfl
    cases hno
  · simp only [Connection.recvWireData, load_unpadded hunpadded hid] at h
    obtain ⟨res, hrun, hres⟩ := Connection.next_recvData h
    have hdeb := innerRecvData_debits hrun
    simp only at hdeb
    split
    · rename_i hignored
      rw [if_pos hignored] at hdeb
      rw [hdeb.2, sub_zero]
    · rename_i hseen
      rw [if_neg hseen] at hdeb
      rcases hdeb with ⟨hdeb, -⟩ | ⟨⟨reason, rfl⟩, -⟩
      · exact hdeb.window
      · obtain ⟨_, _, _, hno⟩ := halive _ (hres _ rfl)
        cases hno

end

section

attribute [local instance] plain plainCrates

def goneAway : Option Connection :=
  (Connection.new .server plainConfig true).after
    [.gracefulShutdown, .sendPendingGoAway, .recvShutdownPong, .sendPendingGoAway]

theorem recvWireData_ignored :
    ¬∀ (role : Role) (config : ConnectionConfig) (debugAssertions : Bool) (events : List Event)
        (c c' : Connection) (id : Nat) (flags : UInt8) (payload : Bytes),
      (Connection.new role config debugAssertions).after events = some c →
      c.recvWireData id flags payload = some c' → c'.isAlive →
      c'.streams.recv.flow.window = c.streams.recv.flow.window - payload.length := by
  intro h
  have hafter : (goneAway.bind (·.recvWireData 1 0 [1, 2, 3])).map
      (fun c => (c.streams.recv.flow.window, c.result)) = some (65535, none) := rfl
  obtain ⟨c', hc', heq⟩ := Option.map_eq_some_iff.mp hafter
  obtain ⟨c, hc, hstep⟩ := Option.bind_eq_some_iff.mp hc'
  have hbefore : goneAway.map (·.streams.recv.flow.window) = some 65535 := rfl
  rw [hc, Option.map_some, Option.some.injEq] at hbefore
  obtain ⟨hwindow, hresult⟩ := Prod.mk.inj heq
  have hdebit := h _ _ _ _ c c' 1 0 _ hc hstep (fun e he => absurd (hresult.symm.trans he) (by simp))
  rw [hwindow, hbefore] at hdebit
  exact absurd hdebit (by decide)

theorem recvWireData_debited_request :
    ∃ c c' : Connection, (Connection.new .server plainConfig true).after
        [.recvHeaders (plainHeaders 1)] = some c ∧
      c.recvWireData 1 0 [1, 2, 3] = some c' ∧
      c'.streams.recv.flow.window = c.streams.recv.flow.window - 3 := by
  have hafter : (((Connection.new .server plainConfig true).after
      [.recvHeaders (plainHeaders 1)]).bind fun c =>
        (c.recvWireData 1 0 [1, 2, 3]).map fun c' =>
          (c'.result, c.streams.store.find 1)) = some (none, some ⟨0, 1⟩) := rfl
  obtain ⟨c, hc, hrest⟩ := Option.bind_eq_some_iff.mp hafter
  obtain ⟨c', hc', heq⟩ := Option.map_eq_some_iff.mp hrest
  obtain ⟨hresult, hfind⟩ := Prod.mk.inj heq
  refine ⟨c, c', hc, hc', ?_⟩
  have hdebit := recvWireData_debited rfl hc' fun e he => absurd (hresult.symm.trans he) (by simp)
  rw [if_neg (by simp [hfind])] at hdebit
  exact hdebit

end

end TwoPlz
