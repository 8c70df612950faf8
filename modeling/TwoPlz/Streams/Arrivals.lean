import TwoPlz.Streams.Lines
import TwoPlz.Streams.Receipts
import TwoPlz.Streams.RefMoves

/-! What the receive queue of a client stream holds. -/

namespace TwoPlz

variable [HeaderPlz] [StoreCrates]

def RecvEvent.isData : RecvEvent → Bool
  | .data _ => true
  | _ => false

def RecvEvent.isBody : List RecvEvent → Bool
  | [] => true
  | [.trailers _] => true
  | .data _ :: rest => isBody rest
  | _ => false

def RecvEvent.isMessage : List RecvEvent → Bool
  | [] => true
  | .headers (.client _) :: rest => isBody rest
  | _ => false

def RecvEvent.isBegun : List RecvEvent → Bool
  | .headers (.client _) :: rest => rest.all isData
  | _ => false

open RecvEvent in
omit [StoreCrates] in
theorem RecvEvent.isBody_append {events tail : List RecvEvent} (h : events.all isData = true)
    (htail : isBody tail = true) : isBody (events ++ tail) = true := by
  induction events with
  | nil => exact htail
  | cons e events ih =>
    rw [List.all_cons, Bool.and_eq_true] at h
    cases e with
    | data payload => exact ih h.2
    | _ => cases h.1

namespace RecvEvent

variable {events : List RecvEvent}

section

omit [StoreCrates]

theorem isBegun_cases (h : isBegun events = true) :
    ∃ response rest, events = .headers (.client response) :: rest ∧ rest.all isData = true := by
  unfold isBegun at h
  split at h
  · exact ⟨_, _, rfl, h⟩
  · cases h

theorem isBegun_data (h : isBegun events = true) (payload : Bytes) :
    isBegun (events ++ [.data payload]) = true := by
  obtain ⟨response, rest, rfl, hrest⟩ := isBegun_cases h
  simp [isBegun, hrest, isData]

theorem isMessage_append (h : isBegun events = true) (tail : List RecvEvent) (htail : isBody tail = true) :
    isMessage (events ++ tail) = true := by
  obtain ⟨response, rest, rfl, hrest⟩ := isBegun_cases h
  exact isBody_append hrest htail

theorem isMessage_of_isBegun (h : isBegun events = true) : isMessage events = true := by
  have hmessage := isMessage_append h [] rfl
  rwa [List.append_nil] at hmessage

end

end RecvEvent

open RecvEvent

omit [StoreCrates] in
theorem Recv.processRemainingFrames_body {events : List RecvEvent} (h : isBody events = true) :
    (Recv.processRemainingFrames events).isSome = true := by
  unfold Recv.processRemainingFrames
  generalize ((none, none) : Option Bytes × Option HeaderMap) = acc
  induction events generalizing acc with
  | nil => rfl
  | cons e events ih =>
    cases e with
    | headers message => cases h
    | data payload => exact ih h _
    | trailers fields =>
      cases events with
      | nil => rfl
      | cons e events => cases h

section

variable {s : Inner} {k : Key} {st : Stream}

theorem drainRecv_returns (hk : s.get? k = some st) :
    Returns s (M.drainRecv k) fun events _ => events = st.pendingRecv :=
  Returns.resolve_bind hk (Returns.update_bind hk ⟨_, _, rfl, rfl⟩)

theorem Recv.takeResponse_returns (hk : s.get? k = some st) (h : isMessage st.pendingRecv = true) :
    Returns s (Recv.takeResponse k) fun _ _ => True := by
  refine (drainRecv_returns hk).bind fun events s₁ hevents => ?_
  subst hevents
  generalize st.pendingRecv = queue at h ⊢
  unfold isMessage at h
  split at h
  · exact Returns.pure trivial
  · obtain ⟨parts, hparts⟩ := Option.isSome_iff_exists.mp (Recv.processRemainingFrames_body h)
    exact Returns.lift_bind hparts (Returns.pure trivial)
  · cases h

theorem Recv.pollResponse_returns (hk : s.get? k = some st) (h : isMessage st.pendingRecv = true)
    (waker : Waker) : Returns s (Recv.pollResponse waker k) fun _ _ => True := by
  refine Returns.resolve_bind hk ?_
  split
  · refine (Recv.takeResponse_returns hk h).bind fun response _ _ => ?_
    cases response <;> exact Returns.pure trivial
  · split
    · exact (Recv.takeResponse_returns hk h).bind fun _ _ _ => Returns.pure trivial
    · exact Returns.update_bind hk (Returns.pure trivial)

end

/-- What the user may find in the queue of a client stream; as long as the connection is `live`, the
queue goes with the state. -/
structure Stream.Arrives (live : Prop) (st : Stream) : Prop where
  message : isMessage st.pendingRecv = true
  waiting : live → st.state.isRecvHeaders = true → st.pendingRecv = []
  begun : live → st.state.isRecvStreaming = true → isBegun st.pendingRecv = true

section

variable {K : Scope} {s s' : Inner} {k : Key} {st st' : Stream} {role : Role} {kind : Kind} {live : Prop}

section

omit [HeaderPlz] [StoreCrates]

theorem State.recv_sendOpen {state state' : State} {eos : Bool} (h : state.sendOpen eos = .ok state') :
    (state'.isRecvHeaders = true → state.isRecvHeaders = true) ∧
      (state'.isRecvStreaming = true → state.isRecvStreaming = true) := by
  rcases state with _ | _ | _ | ⟨_ | _, _ | _⟩ | ⟨_ | _⟩ | ⟨_ | _⟩ | _ <;> cases eos <;> cases h <;> decide

theorem State.recv_sendClose {state state' : State} (h : state.sendClose = some state') :
    (state'.isRecvHeaders = true → state.isRecvHeaders = true) ∧
      (state'.isRecvStreaming = true → state.isRecvStreaming = true) := by
  rcases state with _ | _ | _ | ⟨_ | _, _ | _⟩ | ⟨_ | _⟩ | ⟨_ | _⟩ | _ <;> cases h <;> decide

theorem State.isRecvHeaders_of_streaming {state : State} (h : state.isRecvStreaming = true) :
    state.isRecvHeaders = false := by
  rcases state with _ | _ | _ | ⟨_, _ | _⟩ | ⟨_ | _⟩ | ⟨_ | _⟩ | _ <;> first | rfl | cases h

theorem State.isRecvStreaming_of_recvClose {state state' : State} (h : state.recvClose = .ok state')
    (hheaders : state.isRecvHeaders = false) : state.isRecvStreaming = true := by
  rcases state with _ | _ | _ | ⟨_, _ | _⟩ | ⟨_ | _⟩ | ⟨_ | _⟩ | _ <;>
    first | rfl | (cases h; done) | cases hheaders

end

namespace Stream.Arrives

section

omit [StoreCrates]

theorem new (k : Key) (initSend initRecv : Nat) (len : ContentLength) :
    Arrives live { Stream.new k.streamId initSend initRecv with contentLength := len } :=
  ⟨rfl, fun _ _ => rfl, nofun⟩

theorem finished {queue : List RecvEvent} (hqueue : isMessage queue = true) (h : st.pendingRecv = queue)
    (hheaders : st.state.isRecvHeaders = false) (hstreaming : st.state.isRecvStreaming = false) :
    st.Arrives live where
  message := h ▸ hqueue
  waiting _ hno := by simp [hheaders] at hno
  begun _ hno := by simp [hstreaming] at hno

theorem closed (h : st.Arrives live) (hsame : st'.pendingRecv = st.pendingRecv)
    (hclosed : st'.state.isClosed = true) : st'.Arrives live :=
  finished h.message hsame (State.isRecvHeaders_of_closed hclosed) (State.isRecvStreaming_of_closed hclosed)

theorem ended (h : st.Arrives live) (hsame : st'.pendingRecv = st.pendingRecv)
    (hend : st'.state.isRecvEndStream = true) : st'.Arrives live :=
  finished h.message hsame (State.isRecvHeaders_of_ended hend) (State.isRecvStreaming_of_ended hend)

theorem weaken {live' : Prop} (h : st.Arrives live) (hlive : live' → live) : st.Arrives live' :=
  ⟨h.message, fun hl => h.waiting (hlive hl), fun hl => h.begun (hlive hl)⟩

theorem mono (h : st.Arrives live) (hsame : st'.pendingRecv = st.pendingRecv)
    (hheaders : st'.state.isRecvHeaders = true → st.state.isRecvHeaders = true)
    (hstreaming : st'.state.isRecvStreaming = true → st.state.isRecvStreaming = true) :
    st'.Arrives live where
  message := hsame ▸ h.message
  waiting hlive hst := hsame ▸ h.waiting hlive (hheaders hst)
  begun hlive hst := hsame ▸ h.begun hlive (hstreaming hst)

theorem same (h : st.Arrives live) (hsame : st'.pendingRecv = st.pendingRecv)
    (hstate : st'.state = st.state) : st'.Arrives live :=
  h.mono hsame (fun hst => hstate ▸ hst) fun hst => hstate ▸ hst

end

end Stream.Arrives

section

omit [StoreCrates]

theorem Turn.streaming (h : Turn K role k kind st st') (hrecv : ¬K.recv k)
    (hst : st'.state.isRecvStreaming = true) : st.state.isRecvStreaming = true := by
  cases h with
  | recvOpen hK => exact absurd hK hrecv
  | pushRecv hK => exact absurd hK hrecv
  | sendOpen _ _ _ h => exact (State.recv_sendOpen h).2 hst
  | sendClose _ _ h => exact (State.recv_sendClose h).2 hst
  | recvClose _ _ h =>
    simp [State.isRecvStreaming_of_ended (isRecvEndStream_recvClose h)] at hst
  | schedule | reset => cases hst
  | remoteReset => simp [State.isRecvStreaming_of_closed (State.isClosed_recvReset _ _ _)] at hst
  | fail => simp [State.isRecvStreaming_of_closed (State.isClosed_handleError _ _)] at hst
  | eof =>
    have hclosed := State.isRecvStreaming_of_closed (State.isClosed_recvEof st.state)
    have hno := hclosed.symm.trans hst
    cases hno
  | _ => exact hst

theorem Turn.arrives (h : Turn K role k kind st st') (hclient : role.isServer = false) (hrecv : ¬K.recv k)
    (htakes : st.state.isRecvStreaming = true → ¬K.takes k) (hst : st.Arrives live) : st'.Arrives live := by
  cases h with
  | recvOpen hK => exact absurd hK hrecv
  | pushRecv hK => exact absurd hK hrecv
  | sendOpen _ _ _ h => exact hst.mono rfl (State.recv_sendOpen h).1 (State.recv_sendOpen h).2
  | sendClose _ _ h => exact hst.mono rfl (State.recv_sendClose h).1 (State.recv_sendClose h).2
  | recvClose _ _ h => exact hst.ended rfl (isRecvEndStream_recvClose h)
  | schedule | reset => exact hst.closed rfl rfl
  | remoteReset => exact hst.closed rfl (State.isClosed_recvReset _ _ _)
  | fail => exact hst.closed rfl (State.isClosed_handleError _ _)
  | eof => exact hst.closed rfl (State.isClosed_recvEof _)
  | drainRecv _ finished =>
    refine ⟨rfl, fun _ _ => rfl, fun _ hstreaming => ?_⟩
    rcases finished with hserver | hover | hK
    · simp [hclient] at hserver
    · exact absurd (hover.symm.trans hstreaming) Bool.false_ne_true
    · exact absurd hK (htakes hstreaming)
  | _ => exact hst.same rfl rfl

theorem Turn.held (h : Turn K role k kind st st') (hst : 0 < st'.refCount) : 0 < st.refCount ∨ K.refs k := by
  cases h with
  | refInc hK => exact Or.inr hK
  | refDec hK => exact Or.inr hK
  | _ => exact Or.inl hst

end

theorem Moves.arrives (h : Moves K s s') (hclient : s.counts.role.isServer = false) (hrecv : ¬K.recv k)
    (hs : ∀ st, s.get? k = some st → 0 < st.refCount ∨ K.refs k →
      st.Arrives live ∧ (st.state.isRecvStreaming = true → ¬K.takes k)) :
    ∀ st, s'.get? k = some st → 0 < st.refCount ∨ K.refs k →
      st.Arrives live ∧ (st.state.isRecvStreaming = true → ¬K.takes k) := by
  have hstable : Stable K s.counts.role fun j st => j = k → 0 < st.refCount ∨ K.refs k →
      st.Arrives live ∧ (st.state.isRecvStreaming = true → ¬K.takes k) :=
    { turn := fun j kind st st' hturn hst hj hheld => by
        subst hj
        obtain ⟨harrives, htakes⟩ := hst rfl (hheld.elim hturn.held Or.inr)
        exact ⟨hturn.arrives hclient hrecv htakes harrives, fun hno => htakes (hturn.streaming hrecv hno)⟩
      flag := fun j st n now val hst => by
        cases n <;> exact fun hj hheld => ⟨⟨(hst hj hheld).1.1, (hst hj hheld).1.2, (hst hj hheld).1.3⟩,
          (hst hj hheld).2⟩
      link := fun j st n key hst => by
        cases n <;> exact fun hj hheld => ⟨⟨(hst hj hheld).1.1, (hst hj hheld).1.2, (hst hj hheld).1.3⟩,
          (hst hj hheld).2⟩
      born := fun j _ _ _ _ _ _ => ⟨.new _ _ _ _, nofun⟩ }
  exact fun st hk => h.each hstable (fun j stj hj hjk => hjk ▸ hs stj (hjk ▸ hj)) k st hk rfl

theorem Moves.unheld (h : Moves K s s') (hrefs : ¬K.refs k)
    (hs : ∀ st, s.get? k = some st → st.refCount = 0) : ∀ st, s'.get? k = some st → st.refCount = 0 := by
  have hstable : Stable K s.counts.role fun j st => j = k → st.refCount = 0 :=
    { turn := fun j kind st st' hturn hst hj => by
        by_contra hpos
        rcases hturn.held (Nat.pos_of_ne_zero hpos) with hheld | hK
        · exact absurd (hst hj) (Nat.ne_of_gt hheld)
        · exact hrefs (hj ▸ hK)
      flag := fun j st n now val hst => by cases n <;> exact hst
      link := fun j st n key hst => by cases n <;> exact hst
      born := fun j _ _ _ _ _ => rfl }
  exact fun st hk => h.each hstable (fun j stj hj hjk => hs stj (hjk ▸ hj)) k st hk rfl

end

omit [StoreCrates] in
theorem recvOpen_next {state state' : State} {frame : Headers} {isInitial : Bool}
    (h : state.recvOpen frame = .ok (isInitial, state')) :
    (frame.isInformational = true → state'.isRecvStreaming = false) ∧
      (frame.isInformational = false → state'.isRecvHeaders = false) := by
  unfold State.recvOpen at h
  split at h <;> cases h <;> cases frame.isEndStream <;> cases hinfo : frame.isInformational <;>
    simp [State.recvPeer, hinfo, State.isRecvStreaming, State.isRecvHeaders]

namespace Stream.Arrives

variable {st st' : Stream}

omit [StoreCrates] in
theorem dataReceipt {frame : Data} {limit : Nat} {res : Except ProtoError Unit} (h : st.Arrives True)
    (hstreaming : st.state.isRecvStreaming = true) (hreceipt : DataReceipt st frame limit res st') :
    st'.Arrives True := by
  cases hreceipt with
  | windowless => exact h
  | tooLong => exact h
  | tooShort => exact h.same rfl rfl
  | buffered len state flow _ _ next =>
    have hpushed := isBegun_data (h.begun trivial hstreaming) frame.data
    refine ⟨isMessage_of_isBegun hpushed, fun _ hno => ?_, fun _ _ => hpushed⟩
    have hheaders : state.isRecvHeaders = false := by
      split at next
      · exact State.isRecvHeaders_of_ended (isRecvEndStream_recvClose next)
      · cases next
        exact State.isRecvHeaders_of_streaming hstreaming
    exact absurd (hheaders.symm.trans hno) Bool.false_ne_true

omit [StoreCrates] in
theorem trailersReceipt {frame : Headers} {res : Except ProtoError Unit} (h : st.Arrives True)
    (hheaders : st.state.isRecvHeaders = false) (hreceipt : TrailersReceipt st frame res st') :
    st'.Arrives True := by
  cases hreceipt with
  | refused => exact h
  | tooShort state hclose => exact h.ended rfl (isRecvEndStream_recvClose hclose)
  | taken state hclose =>
    have hend := isRecvEndStream_recvClose hclose
    have hbegun := h.begun trivial (State.isRecvStreaming_of_recvClose hclose hheaders)
    exact .finished (isMessage_append hbegun [.trailers frame.fields] rfl) rfl
      (State.isRecvHeaders_of_ended hend) (State.isRecvStreaming_of_ended hend)

theorem headersReceipt {s : Inner} {frame : Headers} (h : st.Arrives True)
    (hheaders : st.state.isRecvHeaders = true) (hrole : s.counts.role = .client)
    (hreceipt : HeadersReceipt s st frame (.ok ()) st') : st'.Arrives True := by
  have hempty := h.waiting trivial hheaders
  cases hreceipt with
  | informational isInitial state b len hopen _ info =>
    refine ⟨h.message, fun _ _ => hempty, fun _ hno => ?_⟩
    exact absurd (((recvOpen_next hopen).1 info).symm.trans hno) Bool.false_ne_true
  | delivered isInitial state b len message hopen _ final built =>
    obtain ⟨response, rfl⟩ : ∃ response, message = .client response := by
      rw [hrole] at built
      obtain ⟨res, -, hmap⟩ := Option.map_eq_some_iff.mp built
      cases res with
      | ok response =>
        cases hmap
        exact ⟨_, rfl⟩
      | error e => cases hmap
    have hbegun : isBegun (st.pendingRecv ++ [.headers (.client response)]) = true := by
      rw [hempty]
      rfl
    refine ⟨isMessage_of_isBegun hbegun, fun _ hno => ?_, fun _ _ => hbegun⟩
    exact absurd (((recvOpen_next hopen).2 final).symm.trans hno) Bool.false_ne_true

end Stream.Arrives

end TwoPlz
