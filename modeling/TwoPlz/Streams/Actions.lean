import TwoPlz.Streams.Send
import TwoPlz.Streams.Recv

/-! What the connection does to the streams on each frame (`action.rs`, `inner.rs`, `streams.rs`). -/

namespace TwoPlz

variable [HeaderPlz] [StoreCrates]

open M Counts

structure TooManyResets where
  reason : Nat
  debugData : Bytes
  deriving DecidableEq

def tooManyInternalResets : TooManyResets :=
  ⟨Reason.ENHANCE_YOUR_CALM, ascii "too_many_internal_resets"⟩

namespace Actions

/-- The common tail of `send_reset` and `reset_on_recv_stream_err`. -/
def resetStream (reason : Nat) (initiator : Initiator) (k : Key) : M Unit := do
  Send.sendReset reason initiator k
  Recv.enqueueResetExpiration k
  update k Stream.notifyRecv

def sendReset (k : Key) (reason : Nat) (initiator : Initiator) : M (Except TooManyResets Unit) :=
  transition k do
    let s ← get
    if initiator.isLibrary && !s.counts.canIncNumLocalErrorResets then
      pure (.error tooManyInternalResets)
    else do
      M.when initiator.isLibrary incNumLocalErrorResets
      resetStream reason initiator k
      pure (.ok ())

def resetOnRecvStreamErr (k : Key) (res : Except ProtoError Unit) : M (Except ProtoError Unit) :=
  match res with
  | .error (.reset streamId reason initiator) => do
    let st ← resolve k
    debugAssert (streamId == st.id)
    let s ← get
    if s.counts.canIncNumLocalErrorResets then do
      incNumLocalErrorResets
      resetStream reason initiator k
      pure (.ok ())
    else
      pure (.error (ProtoError.libraryGoAwayData tooManyInternalResets.reason
        tooManyInternalResets.debugData))
  | res => pure res

def nextStreamIdOf (id : Nat) : M (Option Nat) := do
  let isLocal ← isLocalInit id
  let s ← get
  pure (if isLocal then s.send.nextStreamId else s.recv.nextStreamId)

def ensureNotIdle (id : Nat) : M (Except Nat Unit) := do
  match ← nextStreamIdOf id with
  | some next => pure (if id ≥ next then .error Reason.PROTOCOL_ERROR else .ok ())
  | none => pure (.ok ())

def isForgottenStream (id : Nat) : M Bool :=
  if id == 0 then pure false
  else do
    match ← nextStreamIdOf id with
    | some nextId => do
      debugAssert (StreamId.isServerInitiated id == StreamId.isServerInitiated nextId)
      pure (decide (id < nextId))
    | none => pure true

def clearQueues (clearPendingAccept : Bool) : M Unit := do
  Recv.clearQueues clearPendingAccept
  Send.clearQueues

end Actions

namespace Inner

def insertStream (id : Nat) (st : Stream) : M Key := fun s =>
  some ((s.store.insert id st).1, { s with store := (s.store.insert id st).2 })

def find (id : Nat) : M (Option Key) := do
  let s ← get
  pure (s.store.find id)

def recvDataUnknown (frame : Data) : M (Except ProtoError Unit) := do
  let s ← get
  if frame.streamId > s.recv.maxStreamId then pure (.ok ())
  else
    match ← Actions.isForgottenStream frame.streamId with
    | true => do
      assert (decide (frame.data.length ≤ MAX_WINDOW_SIZE))
      modify fun s => { s with recv.checkConnectionWindowUpdate := true }
      match ← Recv.decConnectionWindow frame.data.length with
      | .error e => pure (.error e)
      | .ok () => pure (.error (ProtoError.libraryReset frame.streamId Reason.STREAM_CLOSED))
    | false => pure (.error (ProtoError.libraryGoAway Reason.PROTOCOL_ERROR))

def recvData (frame : Data) : M (Except ProtoError Unit) := do
  match ← find frame.streamId with
  | none => recvDataUnknown frame
  | some k =>
    transition k do
      let res ← Recv.recvData frame k
      Actions.resetOnRecvStreamErr k res

/-- A server does not look whether the stream was forgotten. -/
def isForgottenByClient (id : Nat) : M Bool := do
  let s ← get
  if s.counts.role.isServer then pure false else Actions.isForgottenStream id

/-- `none` in the result when the stream is refused. -/
def insertOrCreate (id : Nat) : M (Except ProtoError (Option Key)) := do
  match ← find id with
  | some k => pure (.ok (some k))
  | none => do
    let s ← get
    let forgotten ← isForgottenByClient id
    if forgotten then pure (.error (ProtoError.libraryReset id Reason.STREAM_CLOSED))
    else
      match ← Recv.canOpen id with
      | .error e => pure (.error e)
      | .ok false => pure (.ok none)
      | .ok true => do
        let k ← insertStream id (Stream.new id s.send.initStreamWindowSz s.recv.initStreamWindowSz)
        pure (.ok (some k))

/-- The over-size answer of a server: a 431, then an implicit reset. -/
def sendOversizeResponse (resp : Headers) (k : Key) : M Unit := do
  let sent ← Send.sendHeaders resp k
  debugAssert (sent matches .ok _)
  Send.scheduleImplicitReset k Reason.PROTOCOL_ERROR
  Recv.enqueueResetExpiration k

def recvHeaderBlock (frame : Headers) (k : Key) : M (Except ProtoError Unit) := do
  match ← Recv.recvHeaders frame k with
  | .ok () => pure (.ok ())
  | .error (.oversize (some resp)) => do
    sendOversizeResponse resp k
    pure (.ok ())
  | .error (.oversize none) => do
    let st ← resolve k
    pure (.error (ProtoError.libraryReset st.id Reason.PROTOCOL_ERROR))
  | .error (.state e) => pure (.error e)

def recvStreamHeaders (frame : Headers) (k : Key) : M (Except ProtoError Unit) := do
  let st ← resolve k
  if st.state.isRecvHeaders then do
    let res ← recvHeaderBlock frame k
    Actions.resetOnRecvStreamErr k res
  else if !frame.isEndStream then
    pure (.error (ProtoError.libraryReset st.id Reason.PROTOCOL_ERROR))
  else do
    let res ← Recv.recvTrailers frame k
    Actions.resetOnRecvStreamErr k res

def recvHeaders (frame : Headers) : M (Except ProtoError Unit) := do
  let s ← get
  if frame.streamId > s.recv.maxStreamId then pure (.ok ())
  else
    match ← insertOrCreate frame.streamId with
    | .error e => pure (.error e)
    | .ok none => pure (.ok ())
    | .ok (some k) => do
      let st ← resolve k
      if st.state.isLocalError then pure (.ok ())
      else transition k (recvStreamHeaders frame k)

def recvReset (frame : Reset) : M (Except ProtoError Unit) := do
  let s ← get
  if frame.streamId == 0 then pure (.error (ProtoError.libraryGoAway Reason.PROTOCOL_ERROR))
  else if frame.streamId > s.recv.maxStreamId then pure (.ok ())
  else
    match ← find frame.streamId with
    | none => do
      let res ← Actions.ensureNotIdle frame.streamId
      pure (res.mapError ProtoError.libraryGoAway)
    | some k =>
      transition k do
        match ← Recv.recvReset frame k with
        | .error e => pure (.error e)
        | .ok () => do
          Send.handleError k
          let st ← resolve k
          assert st.state.isClosed
          pure (.ok ())

def maybeResetNextStreamId (isLocal : Bool) (id : Nat) : M Unit :=
  if isLocal then Send.maybeResetNextStreamId id else Recv.maybeResetNextStreamId id

def entryForReset (id : Nat) : M Key := do
  match ← find id with
  | some k => pure k
  | none => do
    let isLocal ← isLocalInit id
    maybeResetNextStreamId isLocal id
    insertStream id (Stream.new id 0 0)

def sendReset (id reason : Nat) : M (Except TooManyResets Unit) := do
  let k ← entryForReset id
  Actions.sendReset k reason .library

def failStream (err : ProtoError) (k : Key) : M Unit :=
  transition k do
    Recv.handleError err k
    Send.handleError k

def recvGoAway (frame : GoAway) : M (Except ProtoError Unit) := do
  match ← Send.recvGoAway frame.lastStreamId with
  | .error e => pure (.error e)
  | .ok () => do
    let err := ProtoError.remoteGoAway frame.debugData frame.errorCode
    forEach fun k => do
      let st ← resolve k
      M.when (st.id > frame.lastStreamId) (failStream err k)
    modify fun s => { s with connError := some err }
    pure (.ok ())

def recvWindowUpdate (frame : WindowUpdate) : M (Except ProtoError Unit) := do
  if frame.streamId == 0 then do
    let res ← Send.recvConnectionWindowUpdate frame.sizeIncrement
    pure (res.mapError ProtoError.libraryGoAway)
  else
    match ← find frame.streamId with
    | some k => do
      let res ← Send.recvStreamWindowUpdate frame.sizeIncrement k
      Actions.resetOnRecvStreamErr k (res.mapError (ProtoError.libraryReset frame.streamId))
    | none => do
      let res ← Actions.ensureNotIdle frame.streamId
      pure (res.mapError ProtoError.libraryGoAway)

def handleError (err : ProtoError) : M Unit := do
  forEach (failStream err)
  modify fun s => { s with connError := some err }

def recvEof (clearPendingAccept : Bool) : M Unit := do
  modify fun s =>
    { s with
      connError := some (s.connError.getD
        (.io .brokenPipe (some "connection closed because of a broken pipe"))) }
  forEach fun k =>
    transition k do
      Recv.recvEof k
      Send.handleError k
  Actions.clearQueues clearPendingAccept

/-- The stream half of `poll_window_update`; `none` when the codec cannot take the frame yet. -/
def pollStreamWindowUpdate (ready : Bool) : M (Option (Option WindowUpdate)) := do
  let s ← get
  match s.recv.checkStreamWindowUpdate with
  | none => pure (some none)
  | some k => do
    let st ← resolve k
    match st.recvFlow.shouldSendWindowUpdate with
    | none => pure (some none)
    | some size =>
      if !ready then pure none
      else do
        let found ← find st.id
        M.whenSome found fun k => update k fun st =>
          { st with recvFlow := st.recvFlow.incWindowOrKeep size }
        pure (some (some ⟨st.id, size⟩))

/-- `poll_window_update` of a codec that can take a frame, with whether it can take a second one:
the increment for the connection and the frame for a stream that it buffers. -/
def pollWindowUpdate (ready : Bool) : M (Option Nat × Option WindowUpdate) := do
  let s ← get
  if !s.recv.checkConnectionWindowUpdate then pure (none, none)
  else do
    let size := s.recv.flow.shouldSendWindowUpdate
    M.whenSome size fun size => set { s with recv.flow := s.recv.flow.incWindowOrKeep size }
    match ← pollStreamWindowUpdate ready with
    | none => pure (size, none)
    | some update => do
      modify fun s =>
        { s with recv.checkConnectionWindowUpdate := false, recv.checkStreamWindowUpdate := none }
      pure (size, update)

end Inner

end TwoPlz
