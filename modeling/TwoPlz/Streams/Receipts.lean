import TwoPlz.Streams.RecvMoves

/-! What `recv_data`, `recv_headers` and `recv_trailers` make of the stream that they get a frame for. -/

namespace TwoPlz

variable [HeaderPlz] [StoreCrates]

abbrev resets {α : Type} (id reason : Nat) : Except ProtoError α := .error (ProtoError.libraryReset id reason)

inductive DataReceipt (st : Stream) (frame : Data) (limit : Nat) : Except ProtoError Unit → Stream → Prop
  | windowless (h : st.recvFlow.windowSize < frame.data.length) :
      DataReceipt st frame limit (resets st.id Reason.FLOW_CONTROL_ERROR) st
  | tooLong (h : st.decContentLength frame.data.length = none) :
      DataReceipt st frame limit (resets st.id Reason.PROTOCOL_ERROR) st
  | tooShort (len : ContentLength)
      (h : st.decContentLength frame.data.length = some { st with contentLength := len })
      (eos : frame.isEndStream = true)
      (rest : Stream.ensureContentLengthZero { st with contentLength := len } = false) :
      DataReceipt st frame limit (resets st.id Reason.PROTOCOL_ERROR) { st with contentLength := len }
  | buffered (len : ContentLength) (state : State) (flow : FlowControl)
      (h : st.decContentLength frame.data.length = some { st with contentLength := len })
      (zero : frame.isEndStream = true → Stream.ensureContentLengthZero { st with contentLength := len } = true)
      (next : (if frame.isEndStream then st.state.recvClose else .ok st.state) = .ok state)
      (window : st.recvFlow.decWindow frame.data.length = .ok flow) :
      DataReceipt st frame limit
        (if st.currBufLen + frame.data.length > limit then resets st.id Reason.INTERNAL_ERROR else .ok ())
        { st with
          contentLength := len, state := state, recvFlow := flow
          currBufLen := st.currBufLen + frame.data.length
          isBufLimitReached := decide (st.currBufLen + frame.data.length > limit) || st.isBufLimitReached
          pendingRecv := st.pendingRecv ++ [.data frame.data] }

inductive LengthReceipt (st : Stream) (frame : Headers) : Except ProtoError Unit → ContentLength → Prop
  | head (h : st.contentLength.isHead = true) : LengthReceipt st frame (.ok ()) st.contentLength
  | none (h : HeaderPlz.valueOfKey frame.fields (HeaderPlz.constHeader .contentLength) = none) :
      LengthReceipt st frame (.ok ()) st.contentLength
  | unreadable (value : Bytes) (live : st.contentLength.isHead = false)
      (h : HeaderPlz.valueOfKey frame.fields (HeaderPlz.constHeader .contentLength) = some value)
      (bad : parseU64 value = Option.none) :
      LengthReceipt st frame (resets st.id Reason.PROTOCOL_ERROR) st.contentLength
  | declared (value : Bytes) (n : Nat) (live : st.contentLength.isHead = false)
      (h : HeaderPlz.valueOfKey frame.fields (HeaderPlz.constHeader .contentLength) = some value)
      (good : parseU64 value = some n) :
      LengthReceipt st frame
        (if frame.isEndStream && decide (n > 0)
            && frame.pseudo.status.all fun status =>
              HeaderPlz.statusToU16 status != 204 && HeaderPlz.statusToU16 status != 304 then
          resets st.id Reason.PROTOCOL_ERROR
        else .ok ()) (.remaining n n)

omit [StoreCrates] in
theorem LengthReceipt.error {st : Stream} {frame : Headers} {res : Except ProtoError Unit} {len : ContentLength}
    {e : ProtoError} (h : LengthReceipt st frame res len) (hres : res = .error e) :
    e = ProtoError.libraryReset st.id Reason.PROTOCOL_ERROR := by
  cases h with
  | head => cases hres
  | none => cases hres
  | unreadable => exact (Except.error.inj hres).symm
  | declared =>
    split at hres
    · exact (Except.error.inj hres).symm
    · cases hres

inductive HeadersReceipt (s : Inner) (st : Stream) (frame : Headers) :
    Except RecvHeaderBlockError Unit → Stream → Prop
  | refused (e : ProtoError) (h : st.state.recvOpen frame = .error e) :
      HeadersReceipt s st frame (.error (.state e)) st
  | rejected (isInitial : Bool) (state : State) (counted : Bool) (len : ContentLength)
      (res : Except ProtoError Unit) (e : RecvHeaderBlockError)
      (h : st.state.recvOpen frame = .ok (isInitial, state)) (length : LengthReceipt st frame res len)
      (why : e = .oversize (Recv.oversizeResponse isInitial s.counts.role.isServer st.id) ∨
        ∃ id, e = .state (ProtoError.libraryReset id Reason.PROTOCOL_ERROR)) :
      HeadersReceipt s st frame (.error e)
        { st with state := state, isCounted := counted, contentLength := len }
  | informational (isInitial : Bool) (state : State) (counted : Bool) (len : ContentLength)
      (h : st.state.recvOpen frame = .ok (isInitial, state)) (length : LengthReceipt st frame (.ok ()) len)
      (info : frame.isInformational = true) :
      HeadersReceipt s st frame (.ok ())
        { st with state := state, isCounted := counted, contentLength := len }
  | delivered (isInitial : Bool) (state : State) (counted : Bool) (len : ContentLength) (message : PollMessage)
      (h : st.state.recvOpen frame = .ok (isInitial, state)) (length : LengthReceipt st frame (.ok ()) len)
      (final : frame.isInformational = false)
      (built : s.counts.role.convertPollMessage frame.pseudo frame.fields frame.streamId = some (.ok message)) :
      HeadersReceipt s st frame (.ok ())
        { st with
          state := state, isCounted := counted, contentLength := len
          pendingRecv := st.pendingRecv ++ [.headers message] }

inductive TrailersReceipt (st : Stream) (frame : Headers) : Except ProtoError Unit → Stream → Prop
  | refused (e : ProtoError) (h : st.state.recvClose = .error e) : TrailersReceipt st frame (.error e) st
  | tooShort (state : State) (h : st.state.recvClose = .ok state) (rest : st.ensureContentLengthZero = false) :
      TrailersReceipt st frame (resets st.id Reason.PROTOCOL_ERROR) { st with state := state }
  | taken (state : State) (h : st.state.recvClose = .ok state) (zero : st.ensureContentLengthZero = true) :
      TrailersReceipt st frame (.ok ())
        { st with state := state, pendingRecv := st.pendingRecv ++ [.trailers frame.fields] }

def Stream.Settles (st st' : Stream) : Prop :=
  st'.unqueued = { st with recvTask := st'.recvTask }.unqueued

omit [StoreCrates] in
theorem Stream.Settles.trans {st st₁ st₂ : Stream} (h : st.Settles st₁) (h' : st₁.Settles st₂) :
    st.Settles st₂ := by
  have hfirst := congrArg (fun st : Stream => { st with recvTask := st₂.recvTask }) h
  have hnext : ({ st₁ with recvTask := st₂.recvTask } : Stream).unqueued =
      { st with recvTask := st₂.recvTask }.unqueued := hfirst
  exact Eq.trans h' hnext

omit [StoreCrates] in
theorem Stream.Settles.of_unqueued {st st' : Stream} (h : st'.unqueued = st.unqueued) : st.Settles st' := by
  have htask : st'.recvTask = st.recvTask := congrArg (fun st => st.recvTask) h
  unfold Stream.Settles
  rw [htask]
  exact h

def Settling (s s' : Inner) : Prop :=
  ∀ k st', s'.get? k = some st' → ∃ st, s.get? k = some st ∧ st.Settles st'

theorem settling_chains : Chains Settling where
  refl _ _ st h := ⟨st, h, rfl⟩
  trans s₁ s₂ s₃ h h' k st₃ hk₃ := by
    obtain ⟨st₂, hk₂, hsame⟩ := h' k st₃ hk₃
    obtain ⟨st₁, hk₁, hfirst⟩ := h k st₂ hk₂
    exact ⟨st₁, hk₁, hfirst.trans hsame⟩

namespace Settling

open M

variable {s s' : Inner} {k : Key}

theorem push (n : Next) (k : Key) : Keeps Settling (M.push n k) := fun _ _ _ h j st' hj => by
  obtain ⟨st, hst, hsame⟩ := M.push_unqueued h hj
  exact ⟨st, hst, .of_unqueued hsame⟩

theorem notify (k : Key) : Keeps Settling (M.update k Stream.notifyRecv) := by
  intro s u s' h
  obtain ⟨st, hk, rfl⟩ := update_some.mp h
  intro j st' hj
  by_cases hjk : j = k
  · subst hjk
    cases (Inner.get?_put hk st.notifyRecv rfl).symm.trans hj
    exact ⟨st, hk, rfl⟩
  · have hsame := @Inner.get?_put_ne _ _ _ k j st st.notifyRecv hk rfl hjk
    exact ⟨st', hsame.symm.trans hj, rfl⟩

theorem moveFromPendingCompleteLoop (n : Nat) : Keeps Settling (Recv.moveFromPendingCompleteLoop n) := by
  induction n with
  | zero => exact Chains.abort
  | succ n ih =>
    intro s a s' hloop
    obtain ⟨o, s₁, hpop, h⟩ := bind_eq_some hloop
    rcases popIf_some hpop with ⟨rfl, rfl, -⟩ | ⟨k, st, tail, rfl, hk, -, -, hpop⟩
    · cases h
      exact settling_chains.refl _
    · obtain ⟨_, s₂, hget, h⟩ := bind_eq_some h
      obtain ⟨rfl, rfl⟩ := get_some.mp hget
      obtain ⟨u, s₂, hmove, h⟩ := bind_eq_some h
      have hpopped : Settling s s₁ := fun j st' hj => by
        obtain ⟨st, hst, hsame⟩ := M.pop_unqueued hpop hj
        exact ⟨st, hst, .of_unqueued hsame⟩
      refine settling_chains.trans _ _ _ hpopped (settling_chains.trans _ _ _ ?_ (ih _ _ _ h))
      rcases when_some.mp hmove with ⟨-, hmove⟩ | ⟨-, rfl⟩
      · obtain ⟨st₁, _, hst₁, hmove⟩ := bind_eq_some hmove
        obtain ⟨hk₁, rfl⟩ := resolve_some.mp hst₁
        rcases pop_some hpop with ⟨hno, -⟩ | ⟨_, _, _, hsome, hk', -, hf⟩
        · cases hno
        cases hsome
        cases hk.symm.trans hk'
        obtain ⟨key, hget⟩ := hf.get_self hk
        cases hk₁.symm.trans hget
        split at hmove
        · obtain rfl := Moves.recvClearStreamQueue_some hk₁ rfl hmove
          exact settling_chains.refl _
        · exact settling_chains.bind (push _ _) (fun _ => settling_chains.pure _) _ _ _ hmove
      · exact settling_chains.refl _

theorem moveFromPendingComplete (k : Key) : Keeps Settling (Recv.moveFromPendingComplete k) :=
  settling_chains.bind settling_chains.get fun _ => settling_chains.bind (moveFromPendingCompleteLoop _) fun _ =>
    settling_chains.when _ (notify k)

end Settling

def Leads (k : Key) (P : Stream → Prop) (s' : Inner) : Prop :=
  ∀ st', s'.get? k = some st' → ∃ st, P st ∧ st.Settles st'

theorem Leads.of {k : Key} {st : Stream} {s : Inner} {P : Stream → Prop} (hk : s.get? k = some st) (hP : P st) :
    Leads k P s := by
  intro st' hk'
  cases hk.symm.trans hk'
  exact ⟨st, hP, rfl⟩

theorem Leads.settling {k : Key} {st : Stream} {s s' : Inner} {P : Stream → Prop} (hk : s.get? k = some st)
    (hP : P st) (h : Settling s s') : Leads k P s' := by
  intro st' hk'
  obtain ⟨st₁, hk₁, hsame⟩ := h k st' hk'
  cases hk.symm.trans hk₁
  exact ⟨st, hP, hsame⟩

omit [HeaderPlz] [StoreCrates] in
theorem State.recvClose_isOk {state : State} (h : state.isRecvStreaming = true) :
    ∃ state', state.recvClose = .ok state' := by
  rcases state with _ | _ | _ | ⟨_, _ | _⟩ | ⟨_ | _⟩ | ⟨_ | _⟩ | _ <;> first | exact ⟨_, rfl⟩ | cases h

namespace Recv

open M

variable {s : Inner} {k : Key} {st : Stream}

theorem recvStreamData_receipt (frame : Data) (hk : s.get? k = some st)
    (hstreaming : st.state.isRecvStreaming = true) (hrange : st.recvFlow.InRange)
    (hsize : frame.data.length ≤ MAX_WINDOW_SIZE) :
    Ends s (recvStreamData frame frame.data.length k) fun res s' =>
      Leads k (DataReceipt st frame s.recv.maxRecvBufLimit res) s' := by
  refine Ends.resolve_bind fun _ hst' => ?_
  cases hk.symm.trans hst'
  dsimp only
  split
  · rename_i h
    exact Ends.pure (.of hk (.windowless h))
  · rename_i hwindow
    split
    · rename_i h
      exact Ends.pure (.of hk (.tooLong h))
    · rename_i st₁ hdec
      obtain ⟨len, rfl⟩ := Stream.decContentLength_some hdec
      refine Ends.update_next hk rfl fun s₁ hs₁ hk₁ => ?_
      split
      · rename_i hrest
        simp only [Bool.and_eq_true, Bool.not_eq_true'] at hrest
        exact Ends.pure (.of hk₁ (.tooShort len hdec hrest.1 hrest.2))
      · rename_i hzero
        split
        · rename_i e hclose
          obtain ⟨state, hok⟩ := State.recvClose_isOk hstreaming
          split at hclose
          · rw [hok] at hclose
            cases hclose
          · cases hclose
        · rename_i state hstate
          refine Ends.update_next hk₁ rfl fun s₂ hs₂ hk₂ => ?_
          obtain ⟨flow, hflow⟩ := FlowControl.decWindow_isOk hrange (Nat.not_lt.mp hwindow)
            (Nat.lt_of_le_of_lt hsize (by decide))
          rw [hflow]
          refine Ends.update_next hk₂ rfl fun s₃ hs₃ hk₃ => Ends.bind fun _ s₄ hpush => ?_
          obtain ⟨hk₄, rfl⟩ := Moves.pushBackRecv_some hk₃ hpush
          obtain ⟨_, rfl⟩ := hs₁
          obtain ⟨_, rfl⟩ := hs₂
          obtain ⟨_, rfl⟩ := hs₃
          have hreceipt : DataReceipt st frame s.recv.maxRecvBufLimit _ _ := .buffered len state flow hdec
            (fun heos => by simpa [heos] using hzero) hstate hflow
          refine Ends.get_bind ?_
          split
          · rename_i hover
            have hover : st.currBufLen + frame.data.length > s.recv.maxRecvBufLimit := hover
            refine Ends.update_next hk₄ rfl fun s₅ _ hk₅ => Ends.pure (.of hk₅ ?_)
            simpa only [hover, if_true, decide_true, Bool.true_or] using hreceipt
          · rename_i hunder
            have hunder : ¬st.currBufLen + frame.data.length > s.recv.maxRecvBufLimit := hunder
            simp only [hunder, if_false, decide_false, Bool.false_or] at hreceipt
            split
            · exact Ends.bind fun _ s₅ hmove => Ends.pure
                (.settling hk₄ hreceipt (Settling.moveFromPendingComplete k _ _ _ hmove))
            · exact Ends.modify_bind (Ends.pure (.of hk₄ hreceipt))

theorem recvData_receipt (frame : Data) (hk : s.get? k = some st) (hrange : st.recvFlow.InRange) :
    Ends s (recvData frame k) fun res s' =>
      (Leads k (· = st) s' ∧ (res = .ok () ∨ ∃ reason, res = .error (ProtoError.libraryGoAway reason))) ∨
        st.state.isRecvStreaming = true ∧ frame.data.length ≤ MAX_WINDOW_SIZE ∧
          Leads k (DataReceipt st frame s.recv.maxRecvBufLimit res) s' := by
  refine Ends.assert_bind fun hsize => ?_
  have hsize := of_decide_eq_true hsize
  have hbeside : Ends s (decConnectionWindow frame.data.length) fun res s' =>
      (∃ flow, s' = { s with recv.flow := flow }) ∧
        (res = .ok () ∨ ∃ reason, res = .error (ProtoError.libraryGoAway reason)) := by
    refine Ends.get_bind ?_
    split
    · exact Ends.pure ⟨⟨_, rfl⟩, Or.inr ⟨_, rfl⟩⟩
    · split
      · exact Ends.pure ⟨⟨_, rfl⟩, Or.inr ⟨_, rfl⟩⟩
      · exact Ends.set_bind (Ends.pure ⟨⟨_, rfl⟩, Or.inl rfl⟩)
  refine Ends.bind fun res s₁ hdec => ?_
  obtain ⟨⟨flow, rfl⟩, hres⟩ := hbeside _ _ hdec
  split
  · exact Ends.pure (Or.inl ⟨.of hk rfl, Or.inr (hres.resolve_left nofun)⟩)
  · refine Ends.modify_bind (Ends.resolve_bind fun st' hk' => ?_)
    cases hk.symm.trans hk'
    split
    · exact Ends.pure (Or.inl ⟨.of hk' rfl, Or.inr ⟨_, rfl⟩⟩)
    · rename_i hopen
      split
      · exact Ends.pure (Or.inl ⟨.of hk' rfl, Or.inl rfl⟩)
      · rename_i hlocal
        have hstreaming : st.state.isRecvStreaming = true := by simpa [hlocal] using hopen
        exact (recvStreamData_receipt frame hk' hstreaming hrange hsize).mono fun _ _ h =>
          Or.inr ⟨hstreaming, hsize, h⟩

theorem parseContentLength_receipt (frame : Headers) (hk : s.get? k = some st) :
    Ends s (parseContentLength frame k) fun res s' => ∃ len store, LengthReceipt st frame res len ∧
      s'.get? k = some { st with contentLength := len } ∧ s' = { s with store := store } := by
  refine Ends.resolve_bind fun _ hst' => ?_
  cases hk.symm.trans hst'
  split
  · rename_i h
    exact Ends.pure ⟨_, _, .head h, hk, rfl⟩
  · rename_i hlive
    have hlive : st.contentLength.isHead = false := by simpa using hlive
    split
    · rename_i h
      exact Ends.pure ⟨_, _, .none h, hk, rfl⟩
    · rename_i value h
      split
      · rename_i hbad
        exact Ends.pure ⟨_, _, .unreadable value hlive h hbad, hk, rfl⟩
      · rename_i n hgood
        refine Ends.update_next hk rfl fun s₁ hs₁ hk₁ => ?_
        obtain ⟨store, rfl⟩ := hs₁
        have hreceipt := LengthReceipt.declared value n hlive h hgood
        split
        · rename_i hfull
          rw [if_pos hfull] at hreceipt
          exact Ends.pure ⟨_, store, hreceipt, hk₁, rfl⟩
        · rename_i hfit
          rw [if_neg hfit] at hreceipt
          exact Ends.pure ⟨_, store, hreceipt, hk₁, rfl⟩

theorem recvTrailers_receipt (frame : Headers) (hk : s.get? k = some st) :
    Ends s (recvTrailers frame k) fun res s' => Leads k (TrailersReceipt st frame res) s' := by
  refine Ends.resolve_bind fun _ hst' => ?_
  cases hk.symm.trans hst'
  split
  · rename_i e h
    exact Ends.pure (.of hk (.refused e h))
  · rename_i state h
    refine Ends.update_next hk rfl fun s₁ _ hk₁ => ?_
    split
    · rename_i hrest
      exact Ends.pure (.of hk₁ (.tooShort state h (by simpa using hrest)))
    · rename_i hzero
      refine Ends.bind fun _ s₂ hpush => Ends.bind fun _ s₃ hmove => Ends.pure ?_
      obtain ⟨hk₂, rfl⟩ := Moves.pushBackRecv_some hk₁ hpush
      exact .settling hk₂ (.taken state h (by simpa using hzero)) (Settling.moveFromPendingComplete k _ _ _ hmove)

inductive Delivery (s : Inner) (st : Stream) (frame : Headers) : Except RecvHeaderBlockError Unit → Stream → Prop
  | informational (info : frame.isInformational = true) : Delivery s st frame (.ok ()) st
  | malformed (final : frame.isInformational = false) (id : Nat) :
      Delivery s st frame (.error (.state (ProtoError.libraryReset id Reason.PROTOCOL_ERROR))) st
  | delivered (final : frame.isInformational = false) (message : PollMessage)
      (built : s.counts.role.convertPollMessage frame.pseudo frame.fields frame.streamId = some (.ok message)) :
      Delivery s st frame (.ok ()) { st with pendingRecv := st.pendingRecv ++ [.headers message] }

theorem deliverHeaders_receipt (frame : Headers) (hk : s.get? k = some st) :
    Ends s (deliverHeaders frame k) fun res s' => Leads k (Delivery s st frame res) s' := by
  refine Ends.get_bind ?_
  split
  · rename_i h
    exact Ends.pure (.of hk (.informational h))
  · rename_i h
    have hfinal : frame.isInformational = false := by simpa using h
    refine Ends.lift_bind fun res hconvert => ?_
    split
    · obtain rfl := Role.convertPollMessage_error hconvert
      exact Ends.pure (.of hk (.malformed hfinal _))
    · rename_i message
      refine Ends.bind fun _ s₁ hpush => ?_
      obtain ⟨hk₁, rfl⟩ := Moves.pushBackRecv_some hk hpush
      have hdelivered : Delivery s st frame _ _ := .delivered hfinal message hconvert
      split
      · exact Ends.bind fun _ s₂ hnotify => Ends.pure
          (.settling hk₁ hdelivered (Settling.notify k _ _ _ hnotify))
      · refine Ends.bind fun b s₂ hlist => Ends.bind fun _ s₃ hmove => Ends.pure (.settling hk₁ hdelivered ?_)
        exact settling_chains.trans _ _ _ (Settling.push _ _ _ _ _ hlist)
          (settling_chains.when _ (Settling.moveFromPendingComplete k) _ _ _ hmove)

theorem recvHeaders_receipt (frame : Headers) (hk : s.get? k = some st) :
    Ends s (recvHeaders frame k) fun res s' => Leads k (HeadersReceipt s st frame res) s' := by
  refine Ends.resolve_bind fun _ hst' => ?_
  cases hk.symm.trans hst'
  split
  · rename_i e h
    exact Ends.pure (.of hk (.refused e h))
  · rename_i isInitial state hopen
    refine Ends.update_next hk rfl fun s₁ hs₁ hk₁ => Ends.bind fun _ s₂ hcount => ?_
    obtain ⟨b, hk₂⟩ := Moves.countOpened_ends hk₁ frame isInitial _ _ hcount
    have hrole : s₂.counts.role = s.counts.role := by
      have hcounted := @Moves.countOpened_role _ _ s₁ k frame isInitial _ _ hcount
      obtain ⟨_, rfl⟩ := hs₁
      exact hcounted
    refine Ends.resolve_bind fun _ hst => Ends.bind fun res s₃ hparse => ?_
    cases hk₂.symm.trans hst
    obtain ⟨len, store, hlength, hk₃, rfl⟩ := parseContentLength_receipt frame hk₂ _ _ hparse
    have hlength : LengthReceipt st frame res len := by
      cases hlength with
      | head h => exact .head h
      | none h => exact .none h
      | unreadable value live h bad => exact .unreadable value live h bad
      | declared value n live h good => exact .declared value n live h good
    cases res with
    | error e =>
      refine Ends.pure (.of hk₃ (.rejected isInitial state b len _ _ hopen hlength (Or.inr ⟨st.id, ?_⟩)))
      rw [hlength.error rfl]
    | ok u =>
      refine Ends.get_bind ?_
      dsimp only
      rw [hrole]
      split
      · exact Ends.pure (.of hk₃ (.rejected isInitial state b len _ _ hopen hlength (Or.inl rfl)))
      · split
        · exact Ends.pure (.of hk₃ (.rejected isInitial state b len _ _ hopen hlength (Or.inr ⟨_, rfl⟩)))
        · refine (deliverHeaders_receipt frame hk₃).mono fun res s' h st' hk' => ?_
          obtain ⟨st₁, hdelivery, hsettles⟩ := h st' hk'
          refine ⟨st₁, ?_, hsettles⟩
          cases hdelivery with
          | informational info => exact .informational isInitial state b len hopen hlength info
          | malformed final id => exact .rejected isInitial state b len _ _ hopen hlength (Or.inr ⟨id, rfl⟩)
          | delivered final message built =>
            refine .delivered isInitial state b len message hopen hlength final ?_
            rw [← hrole]
            exact built

end Recv

end TwoPlz
